import GatewayDesk.Text.Utf8
import GatewayDesk.Url.Domain
import GatewayDesk.Url.Error
import GatewayDesk.Url.Percent

/-!
# Hosts

A host is a domain or an address of the fourth or the sixth version of the Internet protocol. A
domain whose last label is a number is an address.
-/

namespace GatewayDesk

/-- Who is addressed. -/
inductive Host where
  | domain (name : List Char)
  /-- An address of 32 bits. -/
  | v4 (address : Nat)
  /-- An address of eight pieces of 16 bits. -/
  | v6 (pieces : List Nat)
  deriving DecidableEq, Repr

namespace Host

/-! ## Addresses of version four -/

/-- What a part of an address spells. -/
inductive Part where
  | number (n : Nat)
  | notNumber

/-- The number that a part spells, in base ten, eight or sixteen. -/
def part (cs : List Char) : Part :=
  let (base, digits) : Nat × List Char :=
    match cs with
    | '0' :: 'x' :: rest => (16, rest)
    | '0' :: 'X' :: rest => (16, rest)
    | '0' :: c :: rest => (8, c :: rest)
    | _ => (10, cs)
  if cs.isEmpty then .notNumber
  else
    match Digits.ofDigits? base digits with
    | some n => .number n
    | none => .notNumber

/-- The parts of a domain, without an empty one at the end. -/
def parts (cs : List Char) : List (List Char) :=
  let ls := Domain.labels cs
  if ls.getLast? == some [] then ls.dropLast else ls

/-- Whether the last part of a domain is a number. -/
def endsInNumber (cs : List Char) : Bool :=
  match (parts cs).getLast? with
  | none => false
  | some last =>
    (!last.isEmpty && last.all Digits.isDigit) ||
      match part last with
      | .number _ => true
      | .notNumber => false

/-- The address that numbers spell: each but the last is a byte, the last fills up. -/
def v4OfNumbers (numbers : List Nat) : Option Nat :=
  match numbers.getLast? with
  | none => none
  | some last =>
    let front := numbers.dropLast
    if 3 < front.length then none
    else if front.any (255 < ·) then none
    else if Nat.pow 256 (4 - front.length) ≤ last then none
    else some (front.foldl (fun n b => n * 256 + b) 0 * Nat.pow 256 (4 - front.length) + last)

/-- The number that a part must be. -/
def number? (cs : List Char) : Option Nat :=
  match part cs with
  | .number n => some n
  | .notNumber => none

/-- The address of version four that a domain spells. -/
def v4? (cs : List Char) : Option Nat := do
  v4OfNumbers (← (parts cs).mapM number?)

/-- The text of an address of version four. -/
def v4Text (address : Nat) : List Char :=
  Domain.join <|
    [address / 16777216, address / 65536 % 256, address / 256 % 256, address % 256].map
      Digits.digits

/-! ## Addresses of version six -/

/-- The parts of a text between colons. -/
def colonParts : List Char → List (List Char)
  | [] => [[]]
  | c :: cs =>
    match colonParts cs with
    | [] => [[c]]
    | p :: ps => if c = ':' then [] :: p :: ps else (c :: p) :: ps

/-- A byte in base ten. -/
def byte? (cs : List Char) : Option Nat :=
  match cs with
  | ['0'] => some 0
  | '0' :: _ => none
  | [] => none
  | _ => if cs.length ≤ 3 && cs.all Digits.isDigit && Digits.ofDigits cs ≤ 255 then
      some (Digits.ofDigits cs)
    else none

/-- The two pieces that four bytes with dots between them make. -/
def dotted? (cs : List Char) : Option (List Nat) := do
  match ← (Domain.labels cs).mapM byte? with
  | [a, b, c, d] => some [a * 256 + b, c * 256 + d]
  | _ => none

/-- A piece of 16 bits. -/
def piece? (cs : List Char) : Option (List Nat) :=
  if cs.isEmpty || 4 < cs.length then none else (Digits.ofDigits? 16 cs).map ([·])

/-- The pieces of a text; `final` says that four bytes may stand at its end. -/
def pieces? (final : Bool) (cs : List Char) : Option (List Nat) :=
  if cs.isEmpty then some []
  else do
    let ps := colonParts cs
    let front ← ps.dropLast.mapM piece?
    let last := ps.getLastD []
    let back ← if final && last.contains '.' then dotted? last else piece? last
    some (front.flatten ++ back)

/-- The text before the first two colons in a row, and the text after them. -/
def splitGap : List Char → Option (List Char × List Char)
  | ':' :: ':' :: rest => some ([], rest)
  | c :: rest => (splitGap rest).map fun (a, b) => (c :: a, b)
  | [] => none

/-- The pieces of an address of version six. -/
def v6? (cs : List Char) : Option (List Nat) :=
  match splitGap cs with
  | none => do
    let ps ← pieces? true cs
    if ps.length = 8 then some ps else none
  | some (a, b) => do
    let front ← pieces? false a
    let back ← pieces? true b
    if front.length + back.length < 8 then
      some (front ++ List.replicate (8 - front.length - back.length) 0 ++ back)
    else none

/-- The start and the length of the first longest run of zeros, `here` being the index. -/
def longestGap (here : Nat) : List Nat → Nat × Nat
  | [] => (here, 0)
  | p :: ps =>
    let (start, length) := longestGap (here + 1) ps
    let run := ((p :: ps).takeWhile (· == 0)).length
    if length ≤ run then (here, run) else (start, length)

/-- Pieces with colons between them. -/
def colons : List Nat → List Char
  | [] => []
  | [p] => Digits.hex p
  | p :: ps => Digits.hex p ++ ':' :: colons ps

/-- The text of an address of version six. -/
def v6Text (pieces : List Nat) : List Char :=
  let (start, length) := longestGap 0 pieces
  if length < 2 then colons pieces
  else colons (pieces.take start) ++ ':' :: ':' :: colons (pieces.drop (start + length))

/-! ## Hosts -/

/-- The text of a host. -/
def text : Host → List Char
  | .domain name => name
  | .v4 address => v4Text address
  | .v6 pieces => '[' :: v6Text pieces ++ [']']

/-- An address between brackets. -/
def bracketed? (cs : List Char) : Except UrlError Host :=
  if cs.getLast? == some ']' then
    match v6? cs.tail.dropLast with
    | some pieces => .ok (.v6 pieces)
    | none => .error .badV6
  else .error .badV6

/-- The host of an address with a common scheme. -/
def ofText (cs : List Char) : Except UrlError Host :=
  if cs.head? == some '[' then bracketed? cs
  else
    match Utf8.decode ⟨(Percent.decode cs).toArray⟩ with
    | .error _ => .error .badDomain
    | .ok decoded =>
      match Domain.toAscii? decoded.toList with
      | none => .error .badDomain
      | some name =>
        if name.isEmpty then .error .noHost
        else if endsInNumber name then
          match v4? name with
          | some address => .ok (.v4 address)
          | none => .error .badV4
        else .ok (.domain name)

/-- The host of an address with another scheme. -/
def ofOpaque (cs : List Char) : Except UrlError Host :=
  if cs.head? == some '[' then bracketed? cs
  else if cs.any fun c =>
      ['\x00', '\t', '\n', '\r', ' ', '#', '/', ':', '<', '>', '?', '@', '[', '\\', ']', '^',
        '|'].contains c then .error .badHostCharacter
  else .ok (.domain (Percent.encode Percent.inOpaque cs))

end Host

end GatewayDesk
