import GatewayDesk.Gateway.Client

/-!
# The wire

A client hands each of its requests to a transport, which sends it and hands an answer back. More
may happen on the wire than a client sees: a redirection may lead the transport to a further request
before it hands anything back. So the wire is known by the messages that come back for the requests
on it, whoever made them, and answers are made of messages by the transport.
-/

namespace GatewayDesk

/-! ## Messages -/

/-- What stands before the body of a reply. -/
structure Head where
  status : Nat
  /-- What has a status below 200 comes before a reply, and is none. -/
  final : 200 ≤ status ∧ status ≤ 999
  phrase : String
  /-- Where a redirection leads. -/
  location : Option String
  contentType : Option String

/-- What comes back for a request. -/
inductive Message where
  /-- The connection is closed. -/
  | dropped
  /-- A reply; `cut` says that its body ends before the announced length. -/
  | reply (head : Head) (body : ByteArray) (cut : Bool)

/-- A reply that says that all is well, and nothing else. -/
def Message.allWell : Message := .reply ⟨200, by decide, "OK", none, none⟩ .empty false

/-- What lies between a transport and the gateways. -/
structure Wire where
  /-- Whether a way leads to an address. -/
  reaches : Url → Bool
  /-- What comes back for the next requests; for all later ones, a plain success does. -/
  script : List Message
  /-- The requests that got through. -/
  requests : List Request

/-- What comes back for a request, if it gets through, and the wire after it. -/
def Wire.serve (wire : Wire) (request : Request) : Option Message × Wire :=
  if wire.reaches request.url then
    (some (wire.script.headD .allWell),
      ⟨wire.reaches, wire.script.tail, wire.requests ++ [request]⟩)
  else (none, wire)

/-! ## Transports -/

/-- A transport, by how it reads bodies and which redirections it follows. -/
structure Transport where
  /-- The text of a body with a content type. -/
  text : Option String → ByteArray → String
  /-- An empty body is an empty text in every encoding. -/
  text_empty : ∀ contentType, text contentType .empty = ""
  /-- The request that a redirection leads to, by the request that was redirected, the status and
  the location; there is none if it is not followed. -/
  next? : Request → Nat → String → Option Request
  /-- How many redirections are followed one after the other. -/
  limit : Nat

/-- What a transport hands back for a request. -/
inductive Delivery where
  /-- The answer to the request that was sent last, if that got through. -/
  | answer (request : Request) (handed : Option Answer)
  /-- The request that was sent last was redirected, and that is not followed any more. -/
  | endless (request : Request)

/-- Why a call over a wire fails. -/
inductive CallError where
  | gateway (error : GatewayError)
  /-- There are more redirections than are followed. -/
  | endless (url : Url)
  deriving DecidableEq, Repr

/-- What a client makes of what it is handed. -/
def Delivery.result : Delivery → Except CallError Reply
  | .answer request handed => (Client.result request handed).mapError .gateway
  | .endless request => .error (.endless request.url)

/-- What comes of a call over a wire. -/
structure Passage where
  wire : Wire
  result : Except CallError Reply

namespace Transport

/-- The answer that a message is. -/
def answer (transport : Transport) : Message → Answer
  | .dropped => .dropped
  | .reply head body cut =>
    .reply head.status head.phrase (transport.text head.contentType body) cut

/-- The request that a message leads to, if it leads to one. -/
def follow? (transport : Transport) (request : Request) : Message → Option Request
  | .dropped => none
  | .reply head _ _ =>
    if Status.isRedirection head.status then
      head.location.bind (transport.next? request head.status)
    else none

/-- Sends a request, and those that it is redirected to while there are redirections left. -/
def execute (transport : Transport) : Nat → Request → Wire → Delivery × Wire
  | redirections, request, wire =>
    match wire.serve request with
    | (none, wire) => (.answer request none, wire)
    | (some message, wire) =>
      match transport.follow? request message, redirections with
      | none, _ => (.answer request (transport.answer message), wire)
      | some _, 0 => (.endless request, wire)
      | some next, redirections + 1 => transport.execute redirections next wire

/-- Calls over a wire. -/
def send (transport : Transport) (client : Client) (wire : Wire) (call : Call) : Passage :=
  match client.request call with
  | .error e => ⟨wire, .error (.gateway e)⟩
  | .ok request =>
    let (delivery, wire) := transport.execute transport.limit request wire
    ⟨wire, delivery.result⟩

end Transport

end GatewayDesk
