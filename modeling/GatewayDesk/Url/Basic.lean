import GatewayDesk.Url.Host
import GatewayDesk.Url.Segments

/-!
# Addresses

An address names a scheme and, with most schemes, an authority: a host, perhaps with a port and
with a user. A path, a query and a fragment follow. All parts are kept as they are written, with
percent signs.
-/

namespace GatewayDesk

/-- Who answers, and as whom one asks. -/
structure Authority where
  user : List Char
  password : Option (List Char)
  /-- The host; some schemes do without one. -/
  host : Option Host
  port : Option Nat
  deriving DecidableEq, Repr

/-- What is asked for. -/
inductive UrlPath where
  | segments (segments : List (List Char))
  /-- A path that is no row of segments. -/
  | opaqueText (text : List Char)
  deriving DecidableEq, Repr

/-- An address. -/
structure Url where
  scheme : List Char
  authority : Option Authority
  path : UrlPath
  query : Option (List Char)
  fragment : Option (List Char)
  deriving DecidableEq, Repr

namespace Authority

/-- The text of the user, with its mark. -/
def userText (authority : Authority) : List Char :=
  let password :=
    match authority.password with
    | none => []
    | some p => ':' :: p
  if authority.user.isEmpty && authority.password.isNone then []
  else authority.user ++ password ++ ['@']

/-- The text of the port, with its mark. -/
def portText (authority : Authority) : List Char :=
  match authority.port with
  | none => []
  | some n => ':' :: Digits.digits n

/-- The text of an authority. -/
def text (authority : Authority) : List Char :=
  authority.userText ++ (authority.host.map Host.text).getD [] ++ authority.portText

end Authority

namespace Url

/-- The text of the path. Without an authority, a path that starts with an empty segment would look
like one, so a dot is put in front. -/
def pathText (url : Url) : List Char :=
  match url.path with
  | .opaqueText text => text
  | .segments ([] :: s :: ss) =>
    if url.authority.isNone then '/' :: '.' :: Segments.text ([] :: s :: ss)
    else Segments.text ([] :: s :: ss)
  | .segments ss => Segments.text ss

/-- The text of an address. -/
def text (url : Url) : String :=
  let authority :=
    match url.authority with
    | none => []
    | some a => '/' :: '/' :: a.text
  let query :=
    match url.query with
    | none => []
    | some q => '?' :: q
  let fragment :=
    match url.fragment with
    | none => []
    | some f => '#' :: f
  String.ofList (url.scheme ++ ':' :: authority ++ url.pathText ++ query ++ fragment)

/-- The host, if there is one. -/
def host? (url : Url) : Option Host := url.authority.bind Authority.host

/-- The address without its fragment. -/
def withoutFragment (url : Url) : Url := { url with fragment := none }

/-- The address without its user. -/
def withoutUser (url : Url) : Url :=
  { url with authority := url.authority.map fun a => { a with user := [], password := none } }

/-! ## Schemes -/

/-- What is known of a scheme. -/
inductive Kind where
  /-- A common scheme, whose addresses have a host, and its usual port. -/
  | common (port : Nat)
  | file
  | other
  deriving DecidableEq, Repr

/-- What is known of a scheme. -/
def Kind.ofScheme (scheme : List Char) : Kind :=
  if scheme == ['h', 't', 't', 'p'] || scheme == ['w', 's'] then .common 80
  else if scheme == ['h', 't', 't', 'p', 's'] || scheme == ['w', 's', 's'] then .common 443
  else if scheme == ['f', 't', 'p'] then .common 21
  else if scheme == ['f', 'i', 'l', 'e'] then .file
  else .other

/-- Whether requests are sent to addresses of the scheme. -/
def isWeb (url : Url) : Bool :=
  url.scheme == ['h', 't', 't', 'p'] || url.scheme == ['h', 't', 't', 'p', 's']

end Url

end GatewayDesk
