import GatewayDesk.Url.Basic

/-!
# Reading addresses

An address is taken apart from the outside: blanks and line breaks go, the scheme ends at the
first colon, the fragment starts at the first number sign, the query at the first question mark,
and what is left is the authority and the path. `Url.read` does this and puts the parts into their
normal form.
-/

namespace GatewayDesk

namespace Url

namespace Reader

/-! ## The outside -/

/-- Whether a character at either end says nothing. -/
def isEdge (c : Char) : Bool := c.toNat ≤ 0x20

/-- Whether a character says nothing anywhere. -/
def isBreak (c : Char) : Bool := c == '\t' || c == '\n' || c == '\r'

/-- The text without the characters that say nothing. -/
def clean (cs : List Char) : List Char :=
  ((cs.dropWhile isEdge).reverse.dropWhile isEdge).reverse.filter fun c => !isBreak c

/-- Whether a character may stand in a scheme. -/
def isScheme (c : Char) : Bool :=
  c.isAlpha || Digits.isDigit c || c == '+' || c == '-' || c == '.'

/-- The scheme, in small letters, and what follows its colon. -/
def scheme? (cs : List Char) : Option (List Char × List Char) :=
  match cs.takeWhile isScheme, cs.dropWhile isScheme with
  | c :: name, ':' :: rest =>
    if c.isAlpha then some ((c :: name).map Char.toLower, rest) else none
  | _, _ => none

/-- What stands before the first of a character, and what stands after it. -/
def cut (mark : Char) (cs : List Char) : List Char × Option (List Char) :=
  match cs.dropWhile (· != mark) with
  | [] => (cs, none)
  | _ :: rest => (cs.takeWhile (· != mark), some rest)

/-! ## Authorities -/

/-- What stands before the last at sign, if there is one, and what stands after it. -/
def cutUser (cs : List Char) : Option (List Char) × List Char :=
  if cs.contains '@' then
    let host := (cs.reverse.takeWhile (· != '@')).reverse
    (some (cs.take (cs.length - host.length - 1)), host)
  else (none, cs)

/-- The user and the password in their written form. -/
def user (cs : List Char) : List Char × Option (List Char) :=
  let (name, password) := cut ':' cs
  let password :=
    match password with
    | some (c :: rest) => some (Percent.encode Percent.inUser (c :: rest))
    | _ => none
  (Percent.encode Percent.inUser name, password)

/-- The host before a port, and what stands after it; colons between brackets belong to the host. -/
def cutHost (bracketed : Bool) : List Char → List Char × List Char
  | [] => ([], [])
  | c :: cs =>
    if c == ':' && !bracketed then ([], c :: cs)
    else
      let inside := if c == '[' then true else if c == ']' then false else bracketed
      let (host, rest) := cutHost inside cs
      (c :: host, rest)

/-- The port that a text with its colon spells; the usual one is not written. -/
def port? (usual : Option Nat) (cs : List Char) : Except UrlError (Option Nat) :=
  match cs with
  | ':' :: digits =>
    if digits.isEmpty then .ok none
    else if digits.all Digits.isDigit && Digits.ofDigits digits < 65536 then
      let n := Digits.ofDigits digits
      .ok (if some n == usual then none else some n)
    else .error .badPort
  | _ => .ok none

/-- The authority of an address with a common scheme. -/
def common (usual : Nat) (cs : List Char) : Except UrlError Authority := do
  let (before, rest) := cutUser cs
  let (name, password) := user (before.getD [])
  let (host, rest) := cutHost false rest
  if host.isEmpty then throw .noHost
  let host ← Host.ofText host
  let port ← port? (some usual) rest
  return ⟨name, password, some host, port⟩

/-- The authority of an address with a scheme that is not known. -/
def uncommon (cs : List Char) : Except UrlError Authority := do
  let (before, rest) := cutUser cs
  let (name, password) := user (before.getD [])
  let (host, rest) := cutHost false rest
  let host ← Host.ofOpaque host
  let port ← port? none rest
  if host == .domain [] then
    if rest.head? == some ':' || before.isSome then throw .noHost
    return ⟨[], none, none, none⟩
  else return ⟨name, password, some host, port⟩

/-! ## Paths -/

/-- The segments of a path after its first slash, in their written form. -/
def segments (backslash : Bool) (cs : List Char) : List (List Char) :=
  (Segments.resolve (Segments.split backslash cs)).map (Percent.encode Percent.inPath)

/-- Whether a character is a slash of either kind. -/
def isSlash (c : Char) : Bool := c == '/' || c == '\\'

/-- The authority and the path of an address with a common scheme. -/
def commonRest (usual : Nat) (cs : List Char) : Except UrlError (Option Authority × UrlPath) := do
  let cs := cs.dropWhile isSlash
  let authority ← common usual (cs.takeWhile fun c => !isSlash c)
  return (some authority, .segments (segments true (cs.dropWhile fun c => !isSlash c).tail))

/-- The host of a file, none for this machine. -/
def fileHost (cs : List Char) : Except UrlError (Option Host) := do
  if cs.isEmpty then return none
  let host ← Host.ofText cs
  return if host == .domain "localhost".toList then none else some host

/-- The authority and the path of the address of a file. -/
def fileRest (cs : List Char) : Except UrlError (Option Authority × UrlPath) := do
  let path (cs : List Char) : UrlPath :=
    .segments ((Segments.resolveFile (Segments.split true cs)).map (Percent.encode Percent.inPath))
  match cs with
  | a :: b :: rest =>
    if isSlash a && isSlash b then
      let name := rest.takeWhile fun c => !isSlash c
      if Segments.isDrive name then return (some ⟨[], none, none, none⟩, path rest)
      else
        let host ← fileHost name
        let path := path (rest.dropWhile fun c => !isSlash c)
        return (some ⟨[], none, host, none⟩, path)
    else return (some ⟨[], none, none, none⟩, path cs)
  | _ => return (some ⟨[], none, none, none⟩, path cs)

/-- The authority and the path of an address with a scheme that is not known. -/
def otherRest (cs : List Char) : Except UrlError (Option Authority × UrlPath) := do
  match cs with
  | '/' :: '/' :: rest =>
    let authority ← uncommon (rest.takeWhile (· != '/'))
    match rest.dropWhile (· != '/') with
    | [] => return (some authority, .segments [])
    | _ :: path => return (some authority, .segments (segments false path))
  | '/' :: path => return (none, .segments (segments false path))
  | _ => return (none, .opaqueText (Percent.encode Percent.inOpaque cs))

/-- The authority and the path of an address. -/
def rest (kind : Kind) (cs : List Char) : Except UrlError (Option Authority × UrlPath) :=
  match kind with
  | .common usual => commonRest usual cs
  | .file => fileRest cs
  | .other => otherRest cs

end Reader

/-- The address that a text spells. -/
def read (text : String) : Except UrlError Url := do
  match Reader.scheme? (Reader.clean text.toList) with
  | none => throw .relative
  | some (scheme, cs) =>
    let kind := Kind.ofScheme scheme
    let (cs, fragment) := Reader.cut '#' cs
    let (cs, query) := Reader.cut '?' cs
    let (authority, path) ← Reader.rest kind cs
    return ⟨scheme, authority, path,
      query.map (Percent.encode (Percent.inQuery (kind != .other))),
      fragment.map (Percent.encode Percent.inFragment)⟩

end Url

end GatewayDesk
