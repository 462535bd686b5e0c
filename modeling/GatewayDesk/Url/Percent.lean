import GatewayDesk.Numeric.Digits

/-!
# Percent encoding

A byte is written as a percent sign and two digits of base sixteen. The parts of an address differ
in which characters are encoded; characters beyond ASCII always are, byte by byte.

`encode_eq_self` says that a text without such characters stays as it is.
-/

namespace GatewayDesk

namespace Percent

/-- A byte with its percent sign. -/
def byte (b : UInt8) : List Char :=
  ['%', Digits.upperHexChar (b.toNat / 16), Digits.upperHexChar (b.toNat % 16)]

/-- A text with some of its characters encoded. -/
def encode (escapes : Char → Bool) (cs : List Char) : List Char :=
  cs.flatMap fun c => if escapes c then (String.utf8EncodeChar c).flatMap byte else [c]

theorem encode_eq_self {escapes : Char → Bool} {cs : List Char}
    (h : ∀ c ∈ cs, escapes c = false) : encode escapes cs = cs := by
  induction cs with
  | nil => rfl
  | cons c cs ih =>
    have rest := ih fun d hd => h d (List.mem_cons_of_mem _ hd)
    simp only [encode, List.flatMap_cons, h c List.mem_cons_self] at rest ⊢
    simp [rest]

/-- The bytes of a text, where a percent sign and two digits of base sixteen stand for one. -/
def decode : List Char → List UInt8
  | [] => []
  | '%' :: a :: b :: cs =>
    match Digits.hexValue? a, Digits.hexValue? b with
    | some x, some y => UInt8.ofNat (x * 16 + y) :: decode cs
    | _, _ => 0x25 :: decode (a :: b :: cs)
  | c :: cs => String.utf8EncodeChar c ++ decode cs

/-! ## What is encoded in each part -/

/-- Controls, and all beyond ASCII. -/
def inOpaque (c : Char) : Bool := c.toNat < 0x20 || 0x7E < c.toNat

/-- What is encoded in a fragment. -/
def inFragment (c : Char) : Bool := inOpaque c || [' ', '"', '<', '>', '\x60'].contains c

/-- What is encoded in a path. -/
def inPath (c : Char) : Bool := inFragment c || ['#', '?', '\x7b', '\x7d'].contains c

/-- What is encoded in a user name or a password. -/
def inUser (c : Char) : Bool :=
  inPath c || ['/', ':', ';', '=', '@', '[', '\\', ']', '^', '|'].contains c

/-- What is encoded in a query; in addresses of the common schemes a single quote is, too. -/
def inQuery (common : Bool) (c : Char) : Bool :=
  inOpaque c || [' ', '"', '#', '<', '>'].contains c || (common && c == '\'')

end Percent

end GatewayDesk
