import GatewayDesk.Gateway.Wire
import GatewayDesk.Proofs.Gateway.Address
import GatewayDesk.Proofs.Gateway.Session
import Mathlib.Data.List.Basic

/-!
# Calls over a wire

Every request that gets through takes one message of the wire's script, whether a client or a
redirection made it. So the message for the next request is known from how many there were, and a
call whose message is no redirection that is followed is decided by that message alone.

* `Wire.GoesOn`: what holds of a wire at all times.
* `send_of_final`: what a call does whose message is not followed.
* `sendAll_of_direct`: without redirections, a wire is a gateway.
* `means_sendAll`: what the calls of a session send, and how they end.
* `sendAll_redirected`: a call that sends two requests, and one that sends none.
-/

namespace GatewayDesk

/-! ## Scripts -/

namespace Wire

/-- Whether a wire goes on with a script: each of its requests has taken one message. -/
structure GoesOn (wire : Wire) (reaches : Url → Bool) (script : List Message) : Prop where
  reaches_eq : wire.reaches = reaches
  script_eq : wire.script = script.drop wire.requests.length

variable {wire : Wire} {reaches : Url → Bool} {script : List Message} {request : Request}

theorem serve_of_reaches (h : wire.reaches request.url = true) :
    wire.serve request = (some (wire.script.headD .allWell),
      ⟨wire.reaches, wire.script.tail, wire.requests ++ [request]⟩) := if_pos h

theorem serve_of_not_reaches (h : wire.reaches request.url = false) :
    wire.serve request = (none, wire) := if_neg (Bool.eq_false_iff.1 h)

theorem GoesOn.start (reaches : Url → Bool) (script : List Message) :
    GoesOn ⟨reaches, script, []⟩ reaches script := ⟨rfl, rfl⟩

theorem GoesOn.serve (h : wire.GoesOn reaches script) {served : Option Message × Wire}
    (hs : wire.serve request = served) : served.2.GoesOn reaches script := by
  subst hs
  cases through : wire.reaches request.url with
  | true =>
    rw [serve_of_reaches through]
    refine ⟨h.reaches_eq, ?_⟩
    rw [h.script_eq, List.tail_drop, List.length_append, List.length_singleton]
  | false =>
    rw [serve_of_not_reaches through]
    exact h

/-- The message for the next request. -/
theorem GoesOn.next (h : wire.GoesOn reaches script) :
    wire.script.headD .allWell = script.getD wire.requests.length .allWell := by
  rw [h.script_eq, List.headD_eq_head?_getD, List.head?_drop, List.getD_eq_getElem?_getD]

end Wire

namespace Transport

variable {transport : Transport} {client : Client} {wire : Wire} {reaches : Url → Bool}
  {script : List Message} {call : Call} {request : Request}

/-! ## Single calls -/

theorem goesOn_execute (h : wire.GoesOn reaches script) (redirections : Nat) (request : Request) :
    (transport.execute redirections request wire).2.GoesOn reaches script := by
  fun_induction transport.execute redirections request wire with
  | case1 _ _ _ _ lost => exact h.serve lost
  | case2 _ _ _ _ _ answered _ => exact h.serve answered
  | case3 _ _ _ _ redirected _ _ => exact h.serve redirected
  | case4 _ _ _ _ redirected _ _ _ ih => exact ih (h.serve redirected)

/-- A call that is refused leaves the wire as it is. -/
theorem send_of_refused {e : GatewayError} (hr : client.request call = .error e) :
    transport.send client wire call = ⟨wire, .error (.gateway e)⟩ := by
  rw [send, hr]

/-- So does a call that does not get through. -/
theorem send_of_not_reaches (hr : client.request call = .ok request)
    (h : wire.reaches request.url = false) :
    transport.send client wire call =
      ⟨wire, .error (.gateway (.unreachable request.url))⟩ := by
  rw [send, hr]
  dsimp only
  rw [execute, Wire.serve_of_not_reaches h]
  rfl

/-- A call whose message is not followed sends one request, and ends with what that message is to a
client. -/
theorem send_of_final (hr : client.request call = .ok request)
    (h : wire.reaches request.url = true)
    (final : transport.follow? request (wire.script.headD .allWell) = none) :
    transport.send client wire call =
      ⟨⟨wire.reaches, wire.script.tail, wire.requests ++ [request]⟩,
        ((transport.answer (wire.script.headD .allWell)).toReply request.url).mapError
          .gateway⟩ := by
  rw [send, hr]
  dsimp only
  rw [execute, Wire.serve_of_reaches h]
  dsimp only
  rw [final]
  rfl

theorem goesOn_send (h : wire.GoesOn reaches script) (call : Call) :
    (transport.send client wire call).wire.GoesOn reaches script := by
  cases hr : client.request call with
  | error e =>
    rw [send_of_refused hr]
    exact h
  | ok request =>
    rw [send, hr]
    exact goesOn_execute h transport.limit request

/-! ## Several calls -/

/-- A wire after several calls, and how each of them ended. -/
structure Session where
  wire : Wire
  results : List (Except CallError Reply)

/-- Makes several calls, one after the other. -/
def sendAll (transport : Transport) (client : Client) (wire : Wire) : List Call → Session
  | [] => ⟨wire, []⟩
  | call :: rest =>
    let passage := transport.send client wire call
    let later := transport.sendAll client passage.wire rest
    ⟨later.wire, passage.result :: later.results⟩

/-- More calls go on with the wire that earlier ones leave, and change none of their results. -/
theorem sendAll_append (wire : Wire) (before after : List Call) :
    transport.sendAll client wire (before ++ after) =
      let earlier := transport.sendAll client wire before
      let later := transport.sendAll client earlier.wire after
      ⟨later.wire, earlier.results ++ later.results⟩ := by
  induction before generalizing wire with
  | nil => rfl
  | cons call rest ih => simp only [List.cons_append, sendAll, ih]

theorem length_results_sendAll (wire : Wire) (calls : List Call) :
    (transport.sendAll client wire calls).results.length = calls.length := by
  induction calls generalizing wire with
  | nil => rfl
  | cons call rest ih => simp [sendAll, ih]

theorem goesOn_sendAll (h : wire.GoesOn reaches script) (calls : List Call) :
    (transport.sendAll client wire calls).wire.GoesOn reaches script := by
  induction calls generalizing wire with
  | nil => exact h
  | cons call rest ih => exact ih (goesOn_send h call)

/-! ## Wires without redirections -/

/-- The answer after the end of a script. -/
theorem answer_allWell (transport : Transport) : transport.answer .allWell = .allWell :=
  congrArg (Answer.reply 200 "OK" · false) (transport.text_empty none)

/-- The gateway that a wire is to a client if all requests get through and none is redirected. -/
def gateway (transport : Transport) (wire : Wire) : Gateway :=
  ⟨true, wire.script.map transport.answer, wire.requests⟩

/-- Whether the request of a call, if it has one, gets through, and no message of a script redirects
it. -/
def Direct (transport : Transport) (client : Client) (reaches : Url → Bool)
    (script : List Message) (call : Call) : Prop :=
  ∀ request, client.request call = .ok request →
    reaches request.url = true ∧ ∀ message ∈ script, transport.follow? request message = none

theorem follow?_getD (direct : ∀ message ∈ script, transport.follow? request message = none)
    (k : Nat) : transport.follow? request (script.getD k .allWell) = none := by
  rw [List.getD_eq_getElem?_getD]
  cases hk : script[k]? with
  | none => rfl
  | some message => exact direct message (List.mem_of_getElem? hk)

/-- A call that is not redirected does what it does at the gateway that the wire is. -/
theorem send_of_direct (h : wire.GoesOn reaches script)
    (direct : transport.Direct client reaches script call) :
    transport.gateway (transport.send client wire call).wire =
        (client.send (transport.gateway wire) call).gateway ∧
      (transport.send client wire call).result =
        (client.send (transport.gateway wire) call).result.mapError .gateway := by
  have reach : (transport.gateway wire).reachable = true := rfl
  rw [Client.gateway_send reach]
  cases hr : client.request call with
  | error e =>
    rw [send_of_refused hr, (Client.send_of_error hr _).2]
    exact ⟨rfl, rfl⟩
  | ok request =>
    obtain ⟨through, follows⟩ := direct request hr
    have final := follow?_getD follows wire.requests.length
    rw [← h.next] at final
    have next : (wire.script.map transport.answer).headD .allWell =
        transport.answer (wire.script.headD .allWell) := by
      cases wire.script with
      | nil => exact transport.answer_allWell.symm
      | cons message rest => rfl
    rw [send_of_final hr (h.reaches_eq ▸ through) final, Client.result_send reach hr]
    dsimp only [gateway]
    rw [next, List.map_tail]
    exact ⟨rfl, rfl⟩

/-- So does a session. -/
theorem sendAll_of_direct (h : wire.GoesOn reaches script) {calls : List Call}
    (direct : ∀ call ∈ calls, transport.Direct client reaches script call) :
    transport.gateway (transport.sendAll client wire calls).wire =
        (client.sendAll (transport.gateway wire) calls).gateway ∧
      (transport.sendAll client wire calls).results =
        (client.sendAll (transport.gateway wire) calls).results.map (·.mapError .gateway) := by
  induction calls generalizing wire with
  | nil => exact ⟨rfl, rfl⟩
  | cons call rest ih =>
    obtain ⟨first, later⟩ := List.forall_mem_cons.1 direct
    obtain ⟨same, result⟩ := send_of_direct h first
    obtain ⟨gateway, results⟩ := ih (goesOn_send h call) later
    rw [same] at gateway results
    exact ⟨gateway, congrArg₂ List.cons result results⟩

/-- Then the requests of a session are those of its accepted calls, in their order. -/
theorem requests_sendAll (h : wire.GoesOn reaches script) {calls : List Call}
    (direct : ∀ call ∈ calls, transport.Direct client reaches script call) :
    (transport.sendAll client wire calls).wire.requests =
      wire.requests ++ client.requestsOf calls :=
  (congrArg Gateway.requests (sendAll_of_direct h direct).1).trans
    (Client.requests_sendAll rfl calls)

/-! ## Sessions over a wire -/

/-- What the calls of a session send over a wire, and how they end.

Each call, wherever it stands, adds one result to those of the calls before it, and no call after it
changes them. A refused call ends with an error about its address, and one that does not get through
with an error about the way; both leave the wire, so also its script, as it is. Any other has a
request of its own verb and body, and its message is the one that stands in the script where that
request stands among all requests, also those of redirections. If the message leads nowhere, the
call sends this request and no other, and ends as at a gateway that answers with that message. If
all requests get through and none is redirected, they are those of the accepted calls, in their
order, and the calls end as at a gateway that gives the script's answers. After the script's end
messages mean status 200 and no text. -/
theorem means_sendAll (transport : Transport) (server : String) (timeout : Option Seconds)
    (reaches : Url → Bool) (script : List Message) (before : List Call) (call : Call)
    (after : List Call) :
    let client := Client.ofServer server timeout
    let session := transport.sendAll client ⟨reaches, script, []⟩
    let earlier := session before
    let here := session (before ++ [call])
    let whole := session (before ++ call :: after)
    (∃ result later, here.results = earlier.results ++ [result] ∧
      earlier.results.length = before.length ∧ whole.results = here.results ++ later ∧
      later.length = after.length ∧
      match client.request call with
      | .error e => e.IsBuilder ∧ result = .error (.gateway e) ∧ here.wire = earlier.wire
      | .ok request =>
        let message := script.getD earlier.wire.requests.length .allWell
        let answered := client.send (.scripted [transport.answer message]) call
        call.Sends request ∧
          (reaches request.url = false →
            result = .error (.gateway (.unreachable request.url)) ∧ here.wire = earlier.wire) ∧
          (reaches request.url = true → transport.follow? request message = none →
            here.wire.requests = earlier.wire.requests ++ [request] ∧
              (transport.answer message).Means request.url answered.result ∧
              result = answered.result.mapError .gateway)) ∧
      ((∀ made ∈ before ++ call :: after, transport.Direct client reaches script made) →
        whole.wire.requests = client.requestsOf (before ++ call :: after) ∧
          whole.results = (client.sendAll (.scripted (script.map transport.answer))
            (before ++ call :: after)).results.map (·.mapError .gateway)) ∧
      ∀ url, (transport.answer .allWell).Means url (.ok ⟨200, ""⟩) := by
  intro client session earlier here whole
  -- A session is the one before the call, the call, and a session from the wire it leaves.
  have start := Wire.GoesOn.start reaches script
  have goes : earlier.wire.GoesOn reaches script := goesOn_sendAll start before
  have hereEq : here = ⟨(transport.send client earlier.wire call).wire,
      earlier.results ++ [(transport.send client earlier.wire call).result]⟩ :=
    sendAll_append _ before [call]
  have wholeEq : whole = ⟨(transport.sendAll client here.wire after).wire,
      here.results ++ (transport.sendAll client here.wire after).results⟩ := by
    show session (before ++ call :: after) = _
    rw [List.append_cons]
    exact sendAll_append _ (before ++ [call]) after
  refine ⟨⟨(transport.send client earlier.wire call).result, _, by rw [hereEq],
    length_results_sendAll _ _, by rw [wholeEq], length_results_sendAll _ _, ?_⟩,
    fun direct => ⟨requests_sendAll start direct, (sendAll_of_direct start direct).2⟩,
    fun url => transport.answer_allWell ▸ Answer.means_allWell url⟩
  rw [hereEq]
  cases hr : client.request call with
  | error e =>
    rw [send_of_refused hr]
    exact ⟨Client.isBuilder_of_request hr, rfl, rfl⟩
  | ok request =>
    refine ⟨Client.sends_of_request hr, fun lost => ?_, fun through final => ?_⟩
    · rw [send_of_not_reaches hr (goes.reaches_eq ▸ lost)]
      exact ⟨rfl, rfl⟩
    · rw [← goes.next] at final ⊢
      rw [send_of_final hr (goes.reaches_eq ▸ through) final]
      have reach : (Gateway.scripted
          [transport.answer (earlier.wire.script.headD .allWell)]).reachable = true := rfl
      exact ⟨rfl, Client.means_result_send reach hr,
        congrArg (Except.mapError _) (Client.result_send reach hr).symm⟩

/-- A transport that reads bodies as UTF-8, and goes on with a location that is a name behind a
slash: it asks the same server in the same way, as is done with a fetch. -/
def rooted : Transport where
  text _ body := Utf8.lossy body
  text_empty _ := by
    rw [Utf8.lossy, ByteArray.toList, ByteArray.toList.loop]
    rfl
  next? request _ location :=
    match location.toList with
    | '/' :: name => some { request with url := { request.url with path := .segments [name] } }
    | _ => none
  limit := 10

/-- A reply that says where else to look. -/
def moved (location : String) : Message :=
  .reply ⟨302, by decide, "Found", some location, none⟩ .empty false

/-- A call that is turned away, one that is redirected, and one that sends the fourth request. -/
theorem means_sendAll_fourth :
    let absent : Message := .reply ⟨404, by decide, "Not Found", none, none⟩ .empty false
    let well (text : String) : Message :=
      .reply ⟨200, by decide, "OK", none, none⟩ text.toUTF8 false
    let session := rooted.sendAll (.ofServer "http://gw" none)
      ⟨fun _ => true, [absent, moved "/x", well "[]", well "[7]"], []⟩ [.delete "a", .fetch, .fetch]
    session.wire.requests.length = 4 ∧ ∃ first second,
      session.results = [first, second, .ok ⟨200, "[7]"⟩] := by
  intro absent well
  dsimp only
  let wire : Wire := ⟨fun _ => true, [absent, moved "/x", well "[]", well "[7]"], []⟩
  have safe : Segments.IsSafe "a".toList := by decide +kernel
  obtain ⟨delete, hd, -⟩ := Client.request_delete_gw safe (by decide +kernel)
  obtain ⟨fetch, hf⟩ := Client.request_fetch_gw
  obtain ⟨⟨result, later, here, two, -, -, ends⟩, -, -⟩ := means_sendAll rooted "http://gw" none
    wire.reaches wire.script [.delete "a", .fetch] .fetch []
  have three : (rooted.sendAll (.ofServer "http://gw" none) wire
      [.delete "a", .fetch]).wire.requests.length = 3 := by
    have first : rooted.send (.ofServer "http://gw" none) wire (.delete "a") = _ :=
      send_of_final hd rfl rfl
    rw [sendAll, first, sendAll, send, hf]
    rfl
  rw [hf, three] at ends
  obtain ⟨-, -, final⟩ := ends
  obtain ⟨sent, means, same⟩ := final rfl rfl
  have text : Utf8.lossy "[7]".toUTF8 = "[7]" := by decide +kernel
  have well : result = .ok ⟨200, "[7]"⟩ := by
    rw [same, ← Answer.means_iff_toReply.1 means, ← text]
    rfl
  obtain ⟨first, second, earlier⟩ := List.length_eq_two.1 two
  refine ⟨?_, first, second, ?_⟩
  · show List.length (sendAll _ _ _ ([.delete "a", .fetch] ++ [.fetch])).wire.requests = 4
    rw [sent, List.length_append, three]
    rfl
  · show (sendAll _ _ _ ([.delete "a", .fetch] ++ [.fetch])).results = _
    rw [here, earlier, well]
    rfl

/-- A call whose first message is a redirection sends two requests, and ends as the second message
says. A call to a server that is not reached sends none. -/
theorem sendAll_redirected :
    let client := Client.ofServer "http://gw" none
    let followed := rooted.sendAll client ⟨fun _ => true, [moved "/x"], []⟩ [.fetch]
    let lost := rooted.sendAll client ⟨fun _ => false, [moved "/x"], []⟩ [.fetch]
    ∃ request, client.request .fetch = .ok request ∧
      followed.wire.requests.length = 2 ∧ followed.results = [.ok ⟨200, ""⟩] ∧
      lost.wire.requests = [] ∧ lost.results = [.error (.gateway (.unreachable request.url))] := by
  intro client followed lost
  obtain ⟨request, hr⟩ := Client.request_fetch_gw
  have empty : rooted.text none .empty = "" := rooted.text_empty none
  refine ⟨request, hr, ?_, ?_, ?_, ?_⟩
  · show (sendAll _ _ _ _).wire.requests.length = 2
    rw [sendAll, send, hr]
    rfl
  · show (sendAll _ _ _ _).results = _
    rw [sendAll, send, hr, ← empty]
    rfl
  · show (sendAll _ _ _ _).wire.requests = _
    rw [sendAll, send_of_not_reaches hr rfl]
    rfl
  · show (sendAll _ _ _ _).results = _
    rw [sendAll, send_of_not_reaches hr rfl]
    rfl

end Transport

end GatewayDesk
