import GatewayDesk.Gateway.Client
import GatewayDesk.Proofs.Except

/-!
# What a client sends

`request_eq_ok_iff` says which request a call sends and when it sends one, `isBuilder_of_request`
which errors keep a call from sending, `sends_of_request` what the request of a call holds, and
`request_create` where devices are created.
-/

namespace GatewayDesk

/-- Whether an error says that an address is refused before anything is sent. -/
def GatewayError.IsBuilder : GatewayError → Prop
  | .badAddress _ | .badScheme _ | .badTarget _ => True
  | _ => False

/-- Whether a request has the verb, the body and the content type of a call. -/
def Call.Sends : Call → Request → Prop
  | .fetch, request => request.method = .get ∧ request.body = none ∧ request.contentType = none
  | .create device, request =>
    request.method = .post ∧ request.body = some device.compact ∧
      request.contentType = some "application/json"
  | .update _ device, request =>
    request.method = .put ∧ request.body = some device.compact ∧
      request.contentType = some "application/json"
  | .delete _, request =>
    request.method = .delete ∧ request.body = none ∧ request.contentType = none

theorem Request.ofUrl_method (method : Method) (url : Url) (body : Option String) :
    (ofUrl method url body).method = method := by
  unfold ofUrl; split <;> rfl

theorem Request.ofUrl_body (method : Method) (url : Url) (body : Option String) :
    (ofUrl method url body).body = body := by
  unfold ofUrl; split <;> rfl

theorem Request.ofUrl_with (method method' : Method) (url : Url) (body body' : Option String) :
    (⟨method', (ofUrl method url body).url, (ofUrl method url body).credentials, body'⟩ : Request) =
      ofUrl method' url body' := by
  unfold ofUrl; split <;> rfl

namespace Client

variable {client : Client} {call : Call}

theorem refusal?_eq_none_iff {request : Request} :
    refusal? request = none ↔ request.url.isWeb = true ∧ isTarget request.url = true := by
  unfold refusal?
  split <;> simp_all

theorem isBuilder_of_refusal? {request : Request} {e : GatewayError}
    (h : refusal? request = some e) : e.IsBuilder := by
  unfold refusal? at h
  split at h
  · cases h; trivial
  · split at h <;> cases h
    trivial

/-- The steps of a request: the address is read, must have a host, and must not be refused. -/
theorem request_eq (client : Client) (call : Call) :
    client.request call =
      match Url.read (call.target client.domain) with
      | .error e => .error (.badAddress e)
      | .ok url =>
        if url.host?.isNone then .error (.badScheme url)
        else
          match refusal? (.ofUrl call.method url call.body) with
          | some e => .error e
          | none => .ok (.ofUrl call.method url call.body) := by
  unfold request prepare
  cases Url.read (call.target client.domain) with
  | error e => rfl
  | ok url =>
    by_cases hn : url.host?.isNone = true
    · simp [hn, Except.mapError_ok, bind, Except.bind, throw, throwThe, MonadExceptOf.throw]
    · simp only [hn, Except.mapError_ok, bind, Except.bind, pure, Except.pure, if_false,
        Bool.false_eq_true]
      cases refusal? (.ofUrl call.method url call.body) <;> rfl

/-- A call sends a request exactly if its address is one with a host that is not refused. -/
theorem request_eq_ok_iff {request : Request} :
    client.request call = .ok request ↔
      ∃ url, Url.read (call.target client.domain) = .ok url ∧ url.host?.isSome = true ∧
        request = .ofUrl call.method url call.body ∧ request.url.isWeb = true ∧
        isTarget request.url = true := by
  rw [request_eq]
  constructor
  · intro h
    split at h
    · cases h
    case h_2 url hu =>
      split at h
      · cases h
      case isFalse hn =>
        split at h
        · cases h
        case h_2 hr =>
          cases h
          refine ⟨url, hu, ?_, rfl, refusal?_eq_none_iff.1 hr⟩
          simpa [Option.isSome_iff_ne_none] using hn
  · rintro ⟨url, hu, hs, rfl, hr⟩
    have hn : url.host?.isNone = false := by simpa using hs
    rw [hu]
    simp only [hn, Bool.false_eq_true, if_false, refusal?_eq_none_iff.2 hr]

/-- Only the rules of addresses keep a call from sending. -/
theorem isBuilder_of_request {e : GatewayError} (h : client.request call = .error e) :
    e.IsBuilder := by
  rw [request_eq] at h
  split at h
  · cases h; trivial
  · split at h
    · cases h; trivial
    · split at h
      case h_1 hr => cases h; exact isBuilder_of_refusal? hr
      case h_2 => cases h

/-- The request of a call has the verb, the body and the content type of that call. -/
theorem sends_of_request {request : Request} (h : client.request call = .ok request) :
    call.Sends request := by
  obtain ⟨url, -, -, rfl, -⟩ := request_eq_ok_iff.1 h
  have type : (Request.ofUrl call.method url call.body).contentType =
      call.body.map fun _ => "application/json" := by
    rw [Request.contentType, Request.ofUrl_body]
  cases call <;> exact ⟨Request.ofUrl_method _ _ _, Request.ofUrl_body _ _ _, type⟩

/-- A device is created where all devices are listed. -/
theorem request_create {request : Request} (h : client.request .fetch = .ok request)
    (device : Device) :
    client.request (.create device) =
      .ok { request with method := .post, body := some device.compact } := by
  obtain ⟨url, read, host, rfl, web, target⟩ := request_eq_ok_iff.1 h
  have post := Request.ofUrl_with .get .post url none (some device.compact)
  exact request_eq_ok_iff.2 ⟨url, read, host, post, web, target⟩

end Client

end GatewayDesk
