import GatewayDesk.Device
import GatewayDesk.Text.Base64
import GatewayDesk.Text.Utf8
import GatewayDesk.Url.Reader

/-!
# Requests to a gateway

A gateway keeps its devices in one collection. A call asks for all of them, or creates, replaces or
removes one; `Call.target` is the address that it goes to, and `Request` what is sent.
-/

namespace GatewayDesk

/-- What is wanted of a gateway. -/
inductive Call where
  | fetch
  | create (device : Device)
  | update (id : String) (device : Device)
  | delete (id : String)

/-- The verb of a request. -/
inductive Method where
  | get
  | post
  | put
  | delete
  deriving DecidableEq, Repr

/-- The verb as it is sent. -/
def Method.text : Method → String
  | .get => "GET"
  | .post => "POST"
  | .put => "PUT"
  | .delete => "DELETE"

/-- What is sent. A body is a device as JSON. -/
structure Request where
  method : Method
  /-- The address, without the user. -/
  url : Url
  /-- The user and the password. -/
  credentials : Option (String × Option String)
  body : Option String
  deriving DecidableEq, Repr

namespace Call

/-- Where a gateway keeps its devices. -/
def collection : String := "/api/devices"

/-- The text of the address that a call goes to. An id stands in it as it is given. -/
def target (domain : String) : Call → String
  | .fetch => domain ++ collection
  | .create _ => domain ++ collection
  | .update id _ => domain ++ collection ++ "/" ++ id
  | .delete id => domain ++ collection ++ "/" ++ id

/-- The verb of a call. -/
def method : Call → Method
  | .fetch => .get
  | .create _ => .post
  | .update _ _ => .put
  | .delete _ => .delete

/-- The body of a call. -/
def body : Call → Option String
  | .fetch => none
  | .create device => some device.compact
  | .update _ device => some device.compact
  | .delete _ => none

end Call

namespace Url

/-- The text that percent signs stand for, if it is text. -/
def plainText? (cs : List Char) : Option String :=
  String.fromUTF8? ⟨(Percent.decode cs).toArray⟩

/-- The user and the password that an address names. -/
def credentials? (url : Url) : Option (String × Option String) := do
  let authority ← url.authority
  let name ← plainText? authority.user
  let password := authority.password.bind plainText?
  if name.isEmpty && password.isNone then none else some (name, password)

end Url

namespace Request

/-- The request to an address. -/
def ofUrl (method : Method) (url : Url) (body : Option String) : Request :=
  match url.credentials? with
  | some credentials => ⟨method, url.withoutUser, some credentials, body⟩
  | none => ⟨method, url, none, body⟩

/-- The type of the body. -/
def contentType (request : Request) : Option String :=
  request.body.map fun _ => "application/json"

/-- The user and the password as they are sent. -/
def authorization (request : Request) : Option String :=
  request.credentials.map fun (name, password) =>
    let bytes := (name ++ ":" ++ password.getD "").toUTF8.toList
    "Basic " ++ String.ofList (Base64.encode bytes)

end Request

end GatewayDesk
