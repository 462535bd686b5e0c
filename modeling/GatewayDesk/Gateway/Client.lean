import GatewayDesk.Config.Basic
import GatewayDesk.Gateway.Basic
import GatewayDesk.Log.Event

/-!
# Calling a gateway

A client knows the server that it calls. Every call is a single request, and what comes of it is
decided by the answer alone; a call without an address to go to is no request at all.

* `send_of_error`: without an address, nothing is sent.
* `send_of_ok`: with one, exactly one request is sent.
-/

namespace GatewayDesk

/-- One who calls a gateway. -/
structure Client where
  /-- The server, without slashes at its end. -/
  domain : String
  /-- How long an answer may take. Gateways answer at once, so that no call fails for it. -/
  timeout : Option Seconds
  deriving DecidableEq, Repr

/-- What comes of a call. -/
structure Exchange where
  gateway : Gateway
  events : List Log.Event
  result : Except GatewayError Reply

namespace Client

/-- The client of a server. -/
def ofServer (server : String) (timeout : Option Seconds) : Client :=
  ⟨String.ofList (server.toList.reverse.dropWhile (· == '/')).reverse, timeout⟩

/-- The client of the server that a configuration has in use. -/
def ofConfig (config : Config) : Client := ofServer config.domain config.timeout

/-! ## Requests -/

/-- Whether a request can hold an address. -/
def isTarget (url : Url) : Bool :=
  let fits (host : Host) : Bool :=
    !host.text.any fun c => ['"', '\x60', '\x7b', '\x7d'].contains c
  (url.host?.map fits).getD false && url.text.utf8ByteSize < 65535

/-- The request of a call, if its address is one. -/
def prepare (client : Client) (call : Call) : Except GatewayError Request := do
  let url ← (Url.read (call.target client.domain)).mapError .badAddress
  if url.host?.isNone then throw (.badScheme url)
  return Request.ofUrl call.method url call.body

/-- Why a request is not sent, if it is not. -/
def refusal? (request : Request) : Option GatewayError :=
  if !request.url.isWeb then some (.badScheme request.url)
  else if !isTarget request.url then some (.badTarget request.url)
  else none

/-- The request that a call sends. -/
def request (client : Client) (call : Call) : Except GatewayError Request := do
  let request ← client.prepare call
  match refusal? request with
  | some e => throw e
  | none => return request

/-! ## Events -/

/-- An event about a request. -/
def event (level : Log.Level) (message : String) (request : Request)
    (more : List (String × String)) : Log.Event :=
  ⟨level, "sensor_edge::api", message,
    ("method", request.method.text) :: ("url", request.url.text) :: more⟩

/-- The event of a request that fails. -/
def failing (request : Request) (error : GatewayError) : Log.Event :=
  event .warn s!"request failed: {error.message}" request []

/-- The event that ends a request. -/
def ending (request : Request) : Option Answer → Log.Event
  | none => failing request (.unreachable request.url)
  | some .dropped => failing request (.dropped request.url)
  | some (.reply status phrase _ _) =>
    if Status.isFailure status then
      let error := GatewayError.failed status phrase request.url
      event .warn s!"request rejected: {error.message}" request []
    else event .debug "request done" request [("status", Status.describe status)]

/-! ## Calls -/

/-- What comes of a request. -/
def result (request : Request) : Option Answer → Except GatewayError Reply
  | none => .error (.unreachable request.url)
  | some answer => answer.toReply request.url

/-- Calls a gateway. -/
def send (client : Client) (gateway : Gateway) (call : Call) : Exchange :=
  match client.prepare call with
  | .error e => ⟨gateway, [], .error e⟩
  | .ok request =>
    let start := event .debug "sending request" request []
    match refusal? request with
    | some e => ⟨gateway, [start, failing request e], .error e⟩
    | none =>
      let (answer, gateway) := gateway.serve request
      ⟨gateway, [start, ending request answer], result request answer⟩

theorem send_of_error {client : Client} {call : Call} {e : GatewayError}
    (h : client.request call = .error e) (gateway : Gateway) :
    (client.send gateway call).gateway = gateway ∧
      (client.send gateway call).result = .error e := by
  unfold request at h
  unfold send
  cases hp : client.prepare call with
  | error e' =>
    rw [hp] at h
    simp only [bind, Except.bind, Except.error.injEq] at h
    simp [h]
  | ok r =>
    rw [hp] at h
    simp only [bind, Except.bind] at h
    cases hr : refusal? r with
    | none => simp [hr, pure, Except.pure] at h
    | some e' =>
      simp only [hr, throw, throwThe, MonadExceptOf.throw, Except.error.injEq] at h
      simp [hr, h]

theorem send_of_ok {client : Client} {call : Call} {request : Request}
    (h : client.request call = .ok request) (gateway : Gateway) :
    (client.send gateway call).gateway = (gateway.serve request).2 ∧
      (client.send gateway call).result = result request (gateway.serve request).1 := by
  unfold Client.request at h
  unfold send
  cases hp : client.prepare call with
  | error e' => simp [hp, bind, Except.bind] at h
  | ok r =>
    rw [hp] at h
    simp only [bind, Except.bind] at h
    cases hr : refusal? r with
    | none =>
      simp only [hr, pure, Except.pure, Except.ok.injEq] at h
      subst h
      simp [hr]
    | some e' => simp [hr, throw, throwThe, MonadExceptOf.throw] at h

end Client

end GatewayDesk
