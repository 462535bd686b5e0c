import GatewayDesk.Proofs.Gateway.Session

/-!
# Calls that succeed

A call succeeds if its address is accepted and the answer to its request is a success. Several calls
take the answers in order, one for each accepted call.

* `Answer.Fails`: the answers that fail a request.
* `endEach_sendAll`: how each of several calls ends.
* `isOk_sendAll_iff`: when all of several calls succeed.
-/

namespace GatewayDesk

/-- Whether an answer fails a request: the connection is closed without a reply, the status says
that the request failed, or the body is cut short, of those statuses that have one. -/
inductive Answer.Fails : Answer → Prop where
  | dropped : Fails .dropped
  | status {status phrase text cut} (h : 400 ≤ status ∧ status ≤ 599) :
    Fails (.reply status phrase text cut)
  | cutShort {status phrase text} (h : ¬(status = 204 ∨ status = 304)) :
    Fails (.reply status phrase text true)

theorem Answer.fails_iff {answer : Answer} : answer.Fails ↔ answer.isSuccess = false := by
  constructor
  · rintro (_ | h | h)
    · rfl
    · simp [isSuccess, Status.isFailure_iff.2 h]
    · simp [isSuccess, mt Status.isBodiless_iff.1 h]
  · intro h
    cases answer with
    | dropped => exact .dropped
    | reply status phrase text cut =>
      by_cases failed : 400 ≤ status ∧ status ≤ 599
      · exact .status failed
      · have passes : Status.isFailure status = false := by
          simpa using mt Status.isFailure_iff.1 failed
        simp only [isSuccess, passes, Bool.not_false, Bool.true_and, Bool.or_eq_false_iff,
          Bool.not_eq_false'] at h
        obtain ⟨rfl, full⟩ := h
        refine .cutShort fun bodiless => ?_
        rw [Status.isBodiless_iff.2 bodiless] at full
        cases full

theorem Answer.not_fails_allWell : ¬Answer.allWell.Fails := by
  rw [Answer.fails_iff]
  decide

namespace Client

variable {client : Client} {gateway : Gateway}

/-- A call whose address is accepted succeeds if the next answer is a success. -/
theorem isOk_send (h : gateway.reachable = true) {call : Call} {request : Request}
    (hr : client.request call = .ok request) :
    (client.send gateway call).result.isOk = (gateway.answers.headD .allWell).isSuccess := by
  rw [result_send h hr]
  exact Answer.isOk_toReply request.url _

theorem getD_zero (answers : List Answer) :
    answers.getD 0 .allWell = answers.headD .allWell := by
  cases answers <;> rfl

theorem getD_tail (answers : List Answer) (k : Nat) :
    answers.tail.getD k .allWell = answers.getD (k + 1) .allWell := by
  cases answers <;> rfl

/-- How calls end that take answers from a list: one that is refused ends with what refuses it, and
leaves the answers to those after it; any other takes the next answer, and ends as that says. -/
inductive EndEach (client : Client) :
    List Answer → List Call → List (Except GatewayError Reply) → Prop where
  | nil {answers} : EndEach client answers [] []
  | refused {answers call calls e results} (h : client.request call = .error e)
    (rest : EndEach client answers calls results) :
    EndEach client answers (call :: calls) (.error e :: results)
  | answered {answers call calls request result results} (h : client.request call = .ok request)
    (means : (answers.headD .allWell).Means request.url result)
    (rest : EndEach client answers.tail calls results) :
    EndEach client answers (call :: calls) (result :: results)

/-- An accepted call ends with what the client makes of the next answer. -/
theorem EndEach.accepted {answers : List Answer} {call : Call} {calls : List Call}
    {results : List (Except GatewayError Reply)}
    (h : client.EndEach answers (call :: calls) results) {request : Request}
    (hr : client.request call = .ok request) :
    ∃ later, results = (answers.headD .allWell).toReply request.url :: later ∧
      client.EndEach answers.tail calls later := by
  cases h with
  | refused refuses => exact nomatch refuses.symm.trans hr
  | answered accepts means rest =>
    obtain rfl := Except.ok.inj (accepts.symm.trans hr)
    exact ⟨_, by rw [Answer.means_iff_toReply.1 means], rest⟩

theorem endEach_sendAll (h : gateway.reachable = true) (calls : List Call) :
    client.EndEach gateway.answers calls (client.sendAll gateway calls).results := by
  induction calls generalizing gateway with
  | nil => exact .nil
  | cons call rest ih =>
    have later := ih (@reachable_send client gateway h call)
    rw [gateway_send h] at later
    rw [sendAll, gateway_send h]
    cases hr : client.request call with
    | error e =>
      rw [hr] at later
      rw [(send_of_error hr gateway).2]
      exact .refused hr later
    | ok request =>
      rw [hr] at later
      exact .answered hr (means_result_send h hr) later

/-- All calls succeed exactly if all their addresses are accepted and as many answers, from the next
one on, are successes. -/
theorem isOk_sendAll_iff (h : gateway.reachable = true) (calls : List Call) :
    (∀ result ∈ (client.sendAll gateway calls).results, result.isOk = true) ↔
      (∀ call ∈ calls, ∃ request, client.request call = .ok request) ∧
      ∀ k < calls.length, (gateway.answers.getD k .allWell).isSuccess = true := by
  induction calls generalizing gateway with
  | nil => simp [sendAll]
  | cons call rest ih =>
    rw [sendAll, List.forall_mem_cons, ih (reachable_send h call), List.forall_mem_cons]
    cases hr : client.request call with
    | error e =>
      rw [(send_of_error hr gateway).2]
      simp [Except.isOk, Except.toBool]
    | ok request =>
      rw [isOk_send h hr, gateway_send h, hr, List.length_cons, Nat.forall_lt_succ_left, getD_zero]
      simp only [getD_tail, Except.ok.injEq, exists_eq', true_and]
      exact and_left_comm

end Client

end GatewayDesk
