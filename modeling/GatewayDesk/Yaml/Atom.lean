import GatewayDesk.Json.Basic
import GatewayDesk.Numeric.DecimalText
import GatewayDesk.Yaml.Error
import GatewayDesk.Yaml.Token.Basic

/-!
# The values of scalars

A plain scalar without a tag is null, a truth value, a number or a text, by its spelling. A scalar
with one of four tags must have a spelling of that kind; any other scalar is a text.

`ofPlain_null` says which plain scalars are null.
-/

namespace GatewayDesk

namespace Yaml

/-- The value of a scalar. -/
inductive Atom where
  | null
  | boolean (value : Bool)
  | number (value : Json.Number)
  /-- An integer that 64 bits do not hold. -/
  | wide (value : Int)
  | infinity (negative : Bool)
  | notNumber
  | text (value : String)
  deriving DecidableEq, Repr

namespace Atom

/-- The kind of the value. -/
def found : Atom → Found
  | .null => .null
  | .boolean b => .boolean b
  | .number n => n.found
  | .wide z => .wide z
  | .infinity true => .unbounded "-inf"
  | .infinity false => .unbounded "inf"
  | .notNumber => .unbounded "NaN"
  | .text s => .string s

/-- The value as JSON, which has no number that is not finite and no integer beyond 64 bits. -/
def toJson : Atom → Except Reason Json
  | .null => .ok .null
  | .boolean b => .ok (.boolean b)
  | .number n => .ok (.number n)
  | .wide _ => .error .numberOutOfRange
  | .infinity _ => .ok .null
  | .notNumber => .ok .null
  | .text s => .ok (.string s)

/-! ## Spellings -/

/-- Whether a text is a word for null. -/
def isNull (cs : List Char) : Bool :=
  [['n', 'u', 'l', 'l'], ['N', 'u', 'l', 'l'], ['N', 'U', 'L', 'L'], ['~']].contains cs

/-- The truth value that a text spells. -/
def boolean? (cs : List Char) : Option Bool :=
  if [['t', 'r', 'u', 'e'], ['T', 'r', 'u', 'e'], ['T', 'R', 'U', 'E']].contains cs then some true
  else if
    [['f', 'a', 'l', 's', 'e'], ['F', 'a', 'l', 's', 'e'], ['F', 'A', 'L', 'S', 'E']].contains cs
  then some false
  else none

/-- Whether a text is a row of digits that starts with a needless zero. -/
def isPadded (cs : List Char) : Bool :=
  match (DecimalText.sign cs).2 with
  | '0' :: c :: rest => (c :: rest).all Digits.isDigit
  | _ => false

/-- The base that a letter after a zero names. -/
def base? (c : Char) : Option Nat :=
  if c == 'x' then some 16 else if c == 'o' then some 8 else if c == 'b' then some 2 else none

/-- The natural that a text spells, in base ten or with a base before it. -/
def natural? (cs : List Char) : Option Nat :=
  let decimal := if cs.isEmpty then none else Digits.ofDigits? 10 cs
  match cs with
  | '0' :: c :: rest =>
    match base? c with
    | some base => if rest.isEmpty then none else Digits.ofDigits? base rest
    | none => decimal
  | _ => decimal

/-- The integer that a text spells. -/
def integer? (cs : List Char) : Option Int :=
  if isPadded cs then none
  else
    let (negative, digits) := DecimalText.sign cs
    (natural? digits).map fun n => if negative then -(n : Int) else n

/-- One more than the largest integer of 128 bits with a sign. -/
def widest : Int := 0x80000000000000000000000000000000

/-- The value of an integer: a number if 64 bits hold it, and none if 128 bits do not. -/
def ofInteger? (z : Int) : Option Atom :=
  match Json.Number.ofInt? z with
  | some n => some (.number n)
  | none => if -widest ≤ z && z < 2 * widest then some (.wide z) else none

/-- The value that a text spells as an integer. -/
def readInteger? (cs : List Char) : Option Atom := (integer? cs).bind ofInteger?

/-- The value that a text spells as a fraction or one of the words for other numbers. -/
def readFraction? (cs : List Char) : Option Atom :=
  let words : List (List Char × Atom) :=
    [(['.', 'i', 'n', 'f'], .infinity false), (['.', 'I', 'n', 'f'], .infinity false),
      (['.', 'I', 'N', 'F'], .infinity false), (['+', '.', 'i', 'n', 'f'], .infinity false),
      (['+', '.', 'I', 'n', 'f'], .infinity false), (['+', '.', 'I', 'N', 'F'], .infinity false),
      (['-', '.', 'i', 'n', 'f'], .infinity true), (['-', '.', 'I', 'n', 'f'], .infinity true),
      (['-', '.', 'I', 'N', 'F'], .infinity true), (['.', 'n', 'a', 'n'], .notNumber),
      (['.', 'N', 'a', 'N'], .notNumber), (['.', 'N', 'A', 'N'], .notNumber)]
  match words.lookup cs with
  | some atom => some atom
  | none => do
    let d ← DecimalText.read? cs
    let x ← Binary64.ofDecimal? d.negative d.coefficient d.exponent
    some (.number (.fraction x))

/-! ## Scalars -/

/-- The value of a plain scalar without a tag. -/
def ofPlain (text : String) : Atom :=
  let cs := text.toList
  if cs.isEmpty || isNull cs then .null
  else
    match boolean? cs with
    | some b => .boolean b
    | none =>
      match readInteger? cs with
      | some atom => atom
      | none =>
        if isPadded cs then .text text else (readFraction? cs).getD (.text text)

/-- The tags that a scalar's spelling must fit. -/
inductive CoreTag where
  | boolean
  | integer
  | fraction
  | null

/-- The core tag that a tag is. -/
def CoreTag.of? (tag : Address) : Option CoreTag :=
  if tag == Utf8.encode "tag:yaml.org,2002:bool".toList then some .boolean
  else if tag == Utf8.encode "tag:yaml.org,2002:int".toList then some .integer
  else if tag == Utf8.encode "tag:yaml.org,2002:float".toList then some .fraction
  else if tag == Utf8.encode "tag:yaml.org,2002:null".toList then some .null
  else none

/-- The value of a scalar with a core tag. -/
def ofCore (tag : CoreTag) (text : String) : Except Reason Atom :=
  let cs := text.toList
  let orElse (atom : Option Atom) (wanted : String) : Except Reason Atom :=
    match atom with
    | some atom => .ok atom
    | none => .error (.badText text wanted)
  match tag with
  | .boolean => orElse ((boolean? cs).map .boolean) "a boolean"
  | .integer => orElse (readInteger? cs) "an integer"
  | .fraction => orElse (readFraction? cs) "a float"
  | .null => orElse (if isNull cs then some .null else none) "null"

/-- Whether a tag is one of the text's own. -/
def isLocal (tag : Address) : Bool := tag.head? == some 0x21

/-- The value of a scalar; a tag that has been taken already does not count. -/
def ofScalar (tag : Option Address) (style : Style) (text : String) : Except Reason Atom :=
  let own : Atom := if style == .plain then ofPlain text else .text text
  match tag with
  | none => .ok own
  | some tag =>
    match CoreTag.of? tag with
    | some core => ofCore core text
    | none => .ok (if isLocal tag then own else .text text)

/-- A plain scalar without a tag is null if it is empty or a word for null, and only then. -/
theorem ofPlain_null {text : String} :
    ofPlain text = .null ↔ text.toList = [] ∨ isNull text.toList = true := by
  have fraction_ne : ∀ {cs atom}, readFraction? cs = some atom → atom ≠ .null := by
    intro cs atom h
    simp only [readFraction?] at h
    split at h
    case h_1 a ha =>
      obtain rfl := Option.some.inj h
      simp only [List.lookup_cons, List.lookup_nil] at ha
      repeat' split at ha
      all_goals first
        | (obtain rfl := Option.some.inj ha; simp)
        | cases ha
    case h_2 =>
      simp only [Option.bind_eq_bind, Option.bind_eq_some_iff] at h
      obtain ⟨d, -, x, -, h⟩ := h
      obtain rfl := Option.some.inj h
      simp
  have integer_ne : ∀ {cs atom}, readInteger? cs = some atom → atom ≠ .null := by
    intro cs atom h
    simp only [readInteger?, Option.bind_eq_some_iff] at h
    obtain ⟨z, -, h⟩ := h
    simp only [ofInteger?] at h
    split at h
    · obtain rfl := Option.some.inj h
      simp
    · split at h
      · obtain rfl := Option.some.inj h
        simp
      · cases h
  constructor
  · intro h
    simp only [ofPlain] at h
    split at h
    case isTrue hc => simpa using hc
    case isFalse =>
      split at h
      · simp at h
      · split at h
        case h_1 ha => exact absurd h (integer_ne ha)
        case h_2 =>
          split at h
          · simp at h
          · cases hf : readFraction? text.toList with
            | none => simp [hf] at h
            | some atom =>
              rw [hf] at h
              exact absurd h (fraction_ne hf)
  · intro h
    have hc : (text.toList.isEmpty || isNull text.toList) = true := by simpa using h
    simp only [ofPlain, hc, if_true]

end Atom

end Yaml

end GatewayDesk
