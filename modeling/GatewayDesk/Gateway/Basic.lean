import GatewayDesk.Gateway.Error
import GatewayDesk.Gateway.Reply
import GatewayDesk.Gateway.Request

/-!
# Gateways

A gateway is known by what it does with the requests that reach it: it answers them one after the
other, as a list says, and all later ones with a plain success. It remembers the requests. A gateway
to which no way leads gets none.

* `isOk_toReply`: an answer is a reply exactly if it is a success.
-/

namespace GatewayDesk

/-- What a client is handed for a request that reaches a gateway. A reply is the last one of the
request, as text: what comes before it, a status below 200 or a redirection that is followed, is no
answer. `Transport` says how answers come about. -/
inductive Answer where
  /-- The connection is closed. -/
  | dropped
  /-- A reply; `cut` says that its body ends before the announced length. -/
  | reply (status : Nat) (phrase : String) (text : String) (cut : Bool)
  deriving DecidableEq, Repr

/-- A gateway, with the requests that it has got. -/
structure Gateway where
  /-- Whether a way leads to it. -/
  reachable : Bool
  /-- What it does with the next requests. -/
  answers : List Answer
  requests : List Request

/-! ## Answers -/

namespace Answer

/-- A reply that says that all is well, and nothing else. -/
def allWell : Answer := .reply 200 "OK" "" false

/-- Whether an answer is a success: a complete reply that does not say that the request failed. -/
def isSuccess : Answer → Bool
  | .dropped => false
  | .reply status _ _ cut => !Status.isFailure status && (!cut || Status.isBodiless status)

/-- The reply that an answer to a request at an address is, or why it is none. -/
def toReply (url : Url) : Answer → Except GatewayError Reply
  | .dropped => .error (.dropped url)
  | .reply status phrase text cut =>
    if Status.isFailure status then .error (.failed status phrase url)
    else if Status.isBodiless status then .ok ⟨status, ""⟩
    else if cut then .error .cutShort
    else .ok ⟨status, text⟩

theorem isOk_toReply (url : Url) (answer : Answer) :
    (answer.toReply url).isOk = answer.isSuccess := by
  cases answer with
  | dropped => rfl
  | reply status phrase text cut =>
    simp only [toReply, isSuccess]
    cases Status.isFailure status <;> cases Status.isBodiless status <;> cases cut <;> rfl

end Answer

/-! ## Gateways -/

namespace Gateway

/-- A gateway that answers as a list says, and then that all is well. -/
def scripted (answers : List Answer) : Gateway := ⟨true, answers, []⟩

/-- A gateway to which no way leads. -/
def unreachable : Gateway := ⟨false, [], []⟩

/-- The answer to a request, if it reaches the gateway, and the gateway after it. -/
def serve (gateway : Gateway) (request : Request) : Option Answer × Gateway :=
  if gateway.reachable then
    (some (gateway.answers.headD .allWell),
      ⟨true, gateway.answers.tail, gateway.requests ++ [request]⟩)
  else (none, gateway)

end Gateway

end GatewayDesk
