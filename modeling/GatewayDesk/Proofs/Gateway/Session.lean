import GatewayDesk.Proofs.Gateway.Client

/-!
# Sessions

A session is what comes of several calls, one after the other. A call without an address to go to
leaves the gateway as it is; every other call sends one request, takes the next of the gateway's
answers, and ends as that answer says.

* `means_iff_toReply`: what an answer means for a call, rule by rule.
* `gateway_send`: what one call does to a gateway.
* `requests_sendAll`: which requests a session sends.
-/

namespace GatewayDesk

/-! ## Answers -/

/-- How a call to an address ends with an answer. A lost connection counts before all else, a
failing status before the body, and a status without a body before the body's end. -/
inductive Answer.Means (url : Url) : Answer → Except GatewayError Reply → Prop where
  | dropped : Means url .dropped (.error (.dropped url))
  | failed {status phrase text cut} (h : 400 ≤ status ∧ status ≤ 599) :
    Means url (.reply status phrase text cut) (.error (.failed status phrase url))
  | bodiless {status phrase text cut} (h : status = 204 ∨ status = 304) :
    Means url (.reply status phrase text cut) (.ok ⟨status, ""⟩)
  | cutShort {status phrase text} (h : ¬(400 ≤ status ∧ status ≤ 599))
    (hb : ¬(status = 204 ∨ status = 304)) :
    Means url (.reply status phrase text true) (.error .cutShort)
  | complete {status phrase text} (h : ¬(400 ≤ status ∧ status ≤ 599))
    (hb : ¬(status = 204 ∨ status = 304)) :
    Means url (.reply status phrase text false) (.ok ⟨status, text⟩)

theorem Status.isFailure_iff {status : Nat} :
    isFailure status = true ↔ 400 ≤ status ∧ status ≤ 599 := by
  simp [isFailure]; omega

theorem Status.isBodiless_iff {status : Nat} :
    isBodiless status = true ↔ status = 204 ∨ status = 304 := by
  simp [isBodiless]

/-- An answer means one thing, which is what the client makes of it. -/
theorem Answer.means_iff_toReply {url : Url} {answer : Answer}
    {result : Except GatewayError Reply} :
    answer.Means url result ↔ answer.toReply url = result := by
  constructor
  · rintro (_ | h | h | ⟨h, hb⟩ | ⟨h, hb⟩)
    · rfl
    · simp [toReply, Status.isFailure_iff.2 h]
    · rcases h with rfl | rfl <;> rfl
    · simp [toReply, mt Status.isFailure_iff.1 h, mt Status.isBodiless_iff.1 hb]
    · simp [toReply, mt Status.isFailure_iff.1 h, mt Status.isBodiless_iff.1 hb]
  · rintro rfl
    cases answer with
    | dropped => exact .dropped
    | reply status phrase text cut =>
      rw [toReply]
      split
      case isTrue h => exact .failed (Status.isFailure_iff.1 h)
      case isFalse h =>
        have h' := mt Status.isFailure_iff.2 h
        split
        case isTrue hb => exact .bodiless (Status.isBodiless_iff.1 hb)
        case isFalse hb =>
          have hb' := mt Status.isBodiless_iff.2 hb
          cases cut
          · exact .complete h' hb'
          · exact .cutShort h' hb'

/-- The answer after the end of a script: status 200 and no text. -/
theorem Answer.means_allWell (url : Url) : allWell.Means url (.ok ⟨200, ""⟩) :=
  .complete (by decide) (by decide)

namespace Client

/-! ## Single calls -/

variable {client : Client} {gateway : Gateway}

/-- The requests of those calls whose address is accepted. -/
def requestsOf (client : Client) (calls : List Call) : List Request :=
  calls.filterMap fun call => (client.request call).toOption

theorem requestsOf_cons (call : Call) (rest : List Call) :
    client.requestsOf (call :: rest) =
      match client.request call with
      | .error _ => client.requestsOf rest
      | .ok request => request :: client.requestsOf rest := by
  unfold requestsOf
  cases hr : client.request call <;> simp [hr, Except.toOption]

/-- If one device can be created, all devices of a list can. -/
theorem requestsOf_create {request : Request} (h : client.request .fetch = .ok request)
    (devices : List Device) :
    client.requestsOf (devices.map .create) =
      devices.map fun device => { request with method := .post, body := some device.compact } := by
  induction devices with
  | nil => rfl
  | cons device rest ih => rw [List.map_cons, requestsOf_cons, request_create h, List.map_cons, ih]

/-- A call that is refused leaves the gateway as it is; any other sends one request and takes one
answer. -/
theorem gateway_send (h : gateway.reachable = true) (call : Call) :
    (client.send gateway call).gateway =
      match client.request call with
      | .error _ => gateway
      | .ok request => ⟨true, gateway.answers.tail, gateway.requests ++ [request]⟩ := by
  cases hr : client.request call with
  | error e => exact (send_of_error hr gateway).1
  | ok request => rw [(send_of_ok hr gateway).1, Gateway.serve, if_pos h]

theorem reachable_send (h : gateway.reachable = true) (call : Call) :
    (client.send gateway call).gateway.reachable = true := by
  rw [gateway_send h]
  split
  · exact h
  · rfl

/-- A call that is not refused ends with what the gateway's next answer is to a client. -/
theorem result_send (h : gateway.reachable = true) {call : Call} {request : Request}
    (hr : client.request call = .ok request) :
    (client.send gateway call).result = (gateway.answers.headD .allWell).toReply request.url := by
  rw [(send_of_ok hr gateway).2, Gateway.serve, if_pos h]
  rfl

theorem means_result_send (h : gateway.reachable = true) {call : Call} {request : Request}
    (hr : client.request call = .ok request) :
    (gateway.answers.headD .allWell).Means request.url (client.send gateway call).result :=
  Answer.means_iff_toReply.2 (result_send h hr).symm

/-! ## Several calls -/

/-- A gateway after several calls, and how each of them ended. -/
structure Session where
  gateway : Gateway
  results : List (Except GatewayError Reply)

/-- Makes several calls, one after the other. -/
def sendAll (client : Client) (gateway : Gateway) : List Call → Session
  | [] => ⟨gateway, []⟩
  | call :: rest =>
    let exchange := client.send gateway call
    let later := client.sendAll exchange.gateway rest
    ⟨later.gateway, exchange.result :: later.results⟩

/-- A session sends the requests of its accepted calls, in their order. -/
theorem requests_sendAll (h : gateway.reachable = true) (calls : List Call) :
    (client.sendAll gateway calls).gateway.requests =
      gateway.requests ++ client.requestsOf calls := by
  induction calls generalizing gateway with
  | nil => simp [sendAll, requestsOf]
  | cons call rest ih =>
    rw [sendAll, ih (reachable_send h call), gateway_send h, requestsOf_cons]
    cases client.request call <;> simp

end Client

end GatewayDesk
