import GatewayDesk.Text.Marks
import GatewayDesk.Url.Domain.Direction
import GatewayDesk.Url.Domain.Image
import GatewayDesk.Url.Domain.Joining
import GatewayDesk.Url.Punycode

/-!
# Domains

A domain is a row of labels with dots between them. Its characters are replaced by what they stand
for, and the text is brought into its normal form; a label with characters beyond ASCII is then
written in Punycode, and one that claims to be in Punycode must spell such a label.
-/

namespace GatewayDesk

namespace Domain

/-! ## Labels -/

/-- The labels of a domain. -/
def labels : List Char → List (List Char)
  | [] => [[]]
  | c :: cs =>
    match labels cs with
    | [] => [[c]]
    | l :: ls => if c = '.' then [] :: l :: ls else (c :: l) :: ls

/-- Labels with dots between them. -/
def join : List (List Char) → List Char
  | [] => []
  | [label] => label
  | label :: rest => label ++ '.' :: join rest

/-- Whether a label claims to be in Punycode. -/
def isMarked (label : List Char) : Bool := ['x', 'n', '-', '-'].isPrefixOf label

/-- Whether all characters of a text are of ASCII. -/
def isAscii (cs : List Char) : Bool := cs.all fun c => c.toNat < 0x80

/-- Whether no domain may hold a character of ASCII. -/
def isForbidden (c : Char) : Bool :=
  c.toNat ≤ 0x20 || c.toNat == 0x7F ||
  ['%', '#', '/', ':', '<', '>', '?', '@', '[', '\\', ']', '^', '|'].contains c

/-- How many characters a label with characters beyond ASCII may have, and twice as many bytes in
Punycode. -/
def lengthLimit : Nat := 1000

/-- Whether a label with characters beyond ASCII may stand in a domain: it starts with no mark, and
its joiners are seen. -/
def isProper (label : List Char) : Bool :=
  !label.head?.any Char.isMark && joinsProperly [] label && label.length ≤ lengthLimit

/-- A label as it is shown and as it is written. -/
structure Label where
  shown : List Char
  written : List Char
  deriving DecidableEq, Repr

/-- The label that a label in Punycode spells. -/
def Label.spelled? (label : List Char) : Option Label := do
  let code := label.drop 4
  let shown ← Punycode.decode? code
  let settled := shown.all fun c => isSettled c && !isForbidden c && c != '.'
  if code.length ≤ 2 * lengthLimit && settled && !isAscii shown &&
      Text.Normal.form shown == shown && isProper shown && Punycode.encode shown == code then
    some ⟨shown, label⟩
  else none

/-- The label of a text in normal form. -/
def Label.of? (label : List Char) : Option Label :=
  if isAscii label then if isMarked label then spelled? label else some ⟨label, label⟩
  else if isMarked label || !isProper label then none
  else some ⟨label, ['x', 'n', '-', '-'] ++ Punycode.encode label⟩

/-! ## Domains -/

/-- The domain in ASCII. -/
def toAscii? (cs : List Char) : Option (List Char) := do
  let images ← cs.mapM image?
  let text := Text.Normal.form images.flatten
  if text.any isForbidden then none
  else
    let found ← (labels text).mapM Label.of?
    if flowTogether (found.map Label.shown) then some (join (found.map Label.written)) else none

end Domain

end GatewayDesk
