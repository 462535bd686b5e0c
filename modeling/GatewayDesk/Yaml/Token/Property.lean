import GatewayDesk.Numeric.Digits
import GatewayDesk.Yaml.Token.Basic

/-!
# Anchors, tags and directives

The parts of a text that say something about a node or a document. Each reader takes the row at the
part's first character and gives the part's sign and the row after it.
-/

namespace GatewayDesk

namespace Yaml

/-- Whether a character may stand in a name: a letter, a digit, a dash or an underscore of ASCII. -/
def isNameChar (c : Char) : Bool :=
  let n := c.toNat
  (48 ≤ n && n ≤ 57) || (65 ≤ n && n ≤ 90) || (97 ≤ n && n ≤ 122) || c == '-' || c == '_'

/-- The name at the front of a row, maybe empty. -/
def nameOf (row : Row) : List Char :=
  (row.takeWhile fun g => isNameChar g.char).map Glyph.char

/-- The row after the name at its front. -/
def afterName (row : Row) : Row := row.dropWhile fun g => isNameChar g.char

namespace Property

/-! ## Anchors and aliases -/

/-- Whether a name may end here. -/
def endsName (row : Row) : Bool :=
  Row.separates row || ['?', ':', ',', ']', '\x7d', '%', '@', '\x60'].contains (Row.char row)

/-- An anchor, or an alias of one. -/
def reference (activity : Activity) (sign : String → Sign) (row : Row) :
    Except Fault (Sign × Row) :=
  let inside := row.drop 1
  let name := nameOf inside
  let rest := afterName inside
  if name.isEmpty || !endsName rest then
    .error (.problem .noName (Row.mark rest) (some (activity, Row.mark row)))
  else .ok (sign (String.ofList name), rest)

/-! ## Addresses -/

/-- Whether a character may stand in an address; commas and brackets only where nothing else uses
them. -/
def isAddressChar (wide : Bool) (c : Char) : Bool :=
  isNameChar c ||
  [';', '/', '?', ':', '@', '&', '=', '+', '$', '.', '%', '!', '~', '*', '\'', '(', ')'].contains
    c ||
  (wide && [',', '[', ']'].contains c)

/-- The octet that two hexadecimal digits spell. -/
def octet? (row : Row) : Option Nat :=
  match row with
  | a :: b :: _ => Digits.ofDigits? 16 [a.char, b.char]
  | _ => none

/-- How many octets follow a leading one. -/
def octetsAfter? (n : Nat) : Option Nat :=
  if n < 0x80 then some 0
  else if n / 0x20 == 6 then some 1
  else if n / 0x10 == 14 then some 2
  else if n / 8 == 30 then some 3
  else none

/-- The address at the front of a row and the row after it: `skip` glyphs of an escape are still to
pass, `pending` is how many octets a character still needs, and `done` is the address so far in
reverse. Whether the octets of a character spell one is not asked. -/
def address (wide : Bool) (during : Activity × Mark) (row : Row) (skip pending : Nat)
    (done : Address) : Except Fault (Address × Row) :=
  let fail (what : Problem) (g : Glyph) : Except Fault (Address × Row) :=
    .error (.problem what g.mark (some during))
  match row, skip with
  | [], _ => .ok (done.reverse, [])
  | _ :: rest, skip + 1 => address wide during rest skip pending done
  | g :: rest, 0 =>
    if g.char == '%' then
      match octet? rest, pending with
      | none, _ => fail .noOctet g
      | some n, 0 =>
        match octetsAfter? n with
        | none => fail .badLeadingOctet g
        | some more => address wide during rest 2 more (n.toUInt8 :: done)
      | some n, more + 1 =>
        if n / 64 != 2 then fail .badTrailingOctet g
        else address wide during rest 2 more (n.toUInt8 :: done)
    else if pending != 0 then fail .noOctet g
    else if isAddressChar wide g.char then
      address wide during rest 0 0 (g.char.toNat.toUInt8 :: done)
    else .ok (done.reverse, g :: rest)

/-- An address after the start of it that has been read already; one of the two is not empty. The
address ends before its first null octet. -/
def addressAfter (head : List Char) (wide : Bool) (during : Activity × Mark) (row : Row) :
    Except Fault (Address × Row) := do
  let (octets, rest) ← address wide during row 0 0 []
  if head.isEmpty && octets.isEmpty then
    .error (.problem .noAddress (Row.mark rest) (some during))
  else return ((Utf8.encode (head.drop 1) ++ octets).takeWhile (· != 0), rest)

/-! ## Tags -/

/-- A bang, a name and maybe another bang. -/
def handle (activity : Activity) (since : Mark) (row : Row) : Except Fault (List Char × Row) :=
  if Row.char row == '!' then
    let name := nameOf (row.drop 1)
    let rest := afterName (row.drop 1)
    if Row.char rest == '!' then .ok ('!' :: name ++ ['!'], rest.drop 1)
    else .ok ('!' :: name, rest)
  else .error (.problem .noBang (Row.mark row) (some (activity, since)))

/-- Whether a tag handle has a bang at both ends. -/
def isClosed (handle : List Char) : Bool := 1 < handle.length && handle.getLast? == some '!'

/-- A tag without the check of what follows it. -/
def tagBody (row : Row) : Except Fault (Sign × Row) := do
  let since := Row.mark row
  let during := (Activity.tagAddress, since)
  if Row.char (row.drop 1) == '<' then
    let (octets, rest) ← addressAfter [] true during (row.drop 2)
    if Row.char rest == '>' then return (.tag "" octets, rest.drop 1)
    else .error (.problem .noCloseOfTag (Row.mark rest) (some (.tag, since)))
  else
    let (name, rest) ← handle .tag since row
    if isClosed name then
      let (octets, rest) ← addressAfter [] false during rest
      return (.tag (String.ofList name) octets, rest)
    else
      let (octets, rest) ← addressAfter name false during rest
      if octets.isEmpty then return (.tag "" (Utf8.encode ['!']), rest)
      else return (.tag "!" octets, rest)

/-- A tag. Between brackets and braces a comma may follow it at once. -/
def tag (flow : Bool) (row : Row) : Except Fault (Sign × Row) := do
  let (sign, rest) ← tagBody row
  if (flow && Row.char rest == ',') || Row.separates rest then return (sign, rest)
  else .error (.problem .noSpaceOrBreak (Row.mark rest) (some (.tag, Row.mark row)))

/-! ## Directives -/

/-- A number of at most nine digits. -/
def versionNumber (since : Mark) (row : Row) : Except Fault (Nat × Row) :=
  let ds := row.takeWhile fun g => Digits.isDigit g.char
  let fail (what : Problem) (at_ : Row) : Except Fault (Nat × Row) :=
    .error (.problem what (Row.mark at_) (some (.versionDirective, since)))
  if 9 < ds.length then fail .longVersion (row.drop 9)
  else if ds.isEmpty then fail .noVersion row
  else .ok (Digits.ofDigits (ds.map Glyph.char), row.drop ds.length)

/-- The two numbers of a version. -/
def version (since : Mark) (row : Row) : Except Fault (Sign × Row) := do
  let (major, rest) ← versionNumber since (Row.skipSpaces row)
  if Row.char rest == '.' then
    let (minor, rest) ← versionNumber since (rest.drop 1)
    return (.version major minor, rest)
  else .error (.problem .noDigitOrDot (Row.mark rest) (some (.versionDirective, since)))

/-- A tag handle and the address that it stands for. -/
def tagDirective (since : Mark) (row : Row) : Except Fault (Sign × Row) := do
  let (name, rest) ← handle .tagDirectiveHandle since (Row.skipSpaces row)
  if !isClosed name && name != ['!'] then
    .error (.problem .noBang (Row.mark rest) (some (.tagDirectiveHandle, since)))
  else if !(rest.head?.any Glyph.isSpace) then
    .error (.problem .noSpace (Row.mark rest) (some (.tagDirective, since)))
  else
    let (octets, rest) ←
      addressAfter [] true (.tagDirectiveAddress, since) (Row.skipSpaces rest)
    if Row.separates rest then return (.handle (String.ofList name) octets, rest)
    else .error (.problem .noSpaceOrBreak (Row.mark rest) (some (.tagDirective, since)))

/-- A directive, to the end of its line. -/
def directive (row : Row) : Except Fault (Sign × Row) := do
  let since := Row.mark row
  let inside := row.drop 1
  let name := nameOf inside
  let rest := afterName inside
  let fail (what : Problem) (at_ : Row) : Except Fault (Sign × Row) :=
    .error (.problem what (Row.mark at_) (some (.directive, since)))
  if name.isEmpty then fail .noDirectiveName rest
  else if !Row.separates rest then fail .badDirectiveName rest
  else
    let (sign, rest) ←
      if name == ['Y', 'A', 'M', 'L'] then version since rest
      else if name == ['T', 'A', 'G'] then tagDirective since rest
      else fail .unknownDirective rest
    let rest := Row.skipComment (Row.skipSpaces rest)
    if Row.endsLine rest then return (sign, Row.skipBreak rest)
    else fail .noCommentOrBreak rest

end Property

end Yaml

end GatewayDesk
