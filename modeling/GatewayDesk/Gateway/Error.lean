import GatewayDesk.Gateway.Status
import GatewayDesk.Url.Basic
import GatewayDesk.Url.Error

/-!
# What can go wrong with a gateway
-/

namespace GatewayDesk

/-- Why a call to a gateway fails. -/
inductive GatewayError where
  /-- The text of the address is no address. -/
  | badAddress (error : UrlError)
  /-- No requests are sent to addresses of this scheme, or without a host. -/
  | badScheme (url : Url)
  /-- The address holds what no request can. -/
  | badTarget (url : Url)
  /-- No way leads to the gateway. -/
  | unreachable (url : Url)
  /-- The gateway closed the connection without a reply. -/
  | dropped (url : Url)
  /-- The reply says that the request failed. -/
  | failed (status : Nat) (phrase : String) (url : Url)
  /-- The body of the reply ends too early. -/
  | cutShort
  deriving DecidableEq, Repr

namespace GatewayError

/-- The error in words. -/
def message : GatewayError → String
  | .badAddress _ => "builder error"
  | .badScheme url => s!"builder error for url ({url.text})"
  | .badTarget url => s!"builder error for url ({url.text})"
  | .unreachable url => s!"error sending request for url ({url.text})"
  | .dropped url => s!"error sending request for url ({url.text})"
  | .failed status phrase url =>
    let side := if status < 500 then "client" else "server"
    s!"HTTP status {side} error ({status} {phrase}) for url ({url.withoutFragment.text})"
  | .cutShort => "error decoding response body"

/-- The reasons below, the outermost first. -/
def causes : GatewayError → List String
  | .badAddress error => [error.message]
  | .badScheme _ => ["URL scheme is not allowed"]
  | .badTarget _ => ["Parsed Url is not a valid Uri"]
  | .unreachable _ =>
    ["client error (Connect)", "tcp connect error", "Network is unreachable (os error 101)"]
  | .dropped _ => ["client error (SendRequest)", "connection closed before message completed"]
  | .failed _ _ _ => []
  | .cutShort =>
    ["error reading a body from connection", "end of file before message length reached"]

end GatewayError

end GatewayDesk
