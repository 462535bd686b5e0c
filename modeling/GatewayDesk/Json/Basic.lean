import GatewayDesk.Mismatch
import GatewayDesk.Ordered

/-!
# JSON values

A number is an exact integer where 64 bits hold it, with or without a sign, and a finite fraction
otherwise. An object is a list of members. `Json.Canonical` says that in every object the keys
ascend, so that no key stands twice; `Json.canonical` brings a value into that form, the last member
of a key being the one that counts.

* `canonical_canonical`: the result is canonical.
* `canonical_eq_self`: a canonical value is its own canonical form.
-/

namespace GatewayDesk

/-- A JSON number. -/
inductive Json.Number where
  | integer (value : Int) (range : -0x8000000000000000 ≤ value ∧ value < 0x10000000000000000)
  | fraction (value : Binary64)
  deriving DecidableEq, Repr

/-- A JSON value. -/
inductive Json where
  | null
  | boolean (value : Bool)
  | number (value : Json.Number)
  | string (value : String)
  | array (items : List Json)
  | object (members : List (String × Json))
  deriving Repr

namespace Json

instance : Inhabited Json := ⟨.null⟩

/-- The members of an object. -/
abbrev Members := List (String × Json)

/-! ## Numbers -/

namespace Number

/-- The integer as a number, if 64 bits hold it. -/
def ofInt? (z : Int) : Option Number :=
  if h : -0x8000000000000000 ≤ z ∧ z < 0x10000000000000000 then some (.integer z h) else none

/-- Equality of numbers: an integer never equals a fraction, and the two zeros are equal. -/
def same : Number → Number → Bool
  | .integer a _, .integer b _ => a == b
  | .fraction x, .fraction y => x.same y
  | _, _ => false

/-- The number as it is written. -/
def text : Number → List Char
  | .integer z _ => Digits.decimal z
  | .fraction x => FloatText.scientific x

/-- The kind of the number. -/
def found : Number → Found
  | .integer z _ => .integer z
  | .fraction x => .fraction x

end Number

/-! ## Kinds -/

/-- The kind of a value. -/
def found : Json → Found
  | .null => .null
  | .boolean b => .boolean b
  | .number n => n.found
  | .string s => .string s
  | .array _ => .sequence
  | .object _ => .map

/-- The text of a string value. -/
def string? : Json → Option String
  | .string s => some s
  | _ => none

/-- The truth value of a boolean. -/
def boolean? : Json → Option Bool
  | .boolean b => some b
  | _ => none

/-- The integer, if 64 bits with a sign hold it. -/
def integer? : Json → Option Int
  | .number (.integer z _) => if z < 0x8000000000000000 then some z else none
  | _ => none

/-! ## The canonical form -/

mutual

/-- Whether the keys ascend in every object of the value. -/
def Canonical : Json → Prop
  | .array items => CanonicalItems items
  | .object members => Ordered.Ascending members ∧ CanonicalMembers members
  | _ => True

/-- Whether all items are canonical. -/
def CanonicalItems : List Json → Prop
  | [] => True
  | item :: rest => item.Canonical ∧ CanonicalItems rest

/-- Whether the values of all members are canonical. -/
def CanonicalMembers : Members → Prop
  | [] => True
  | (_, value) :: rest => value.Canonical ∧ CanonicalMembers rest

end

mutual

/-- The value with ascending keys; of two members with one key the last counts. -/
def canonical : Json → Json
  | .array items => .array (canonicalItems items)
  | .object members => .object (canonicalMembers members)
  | .null => .null
  | .boolean b => .boolean b
  | .number n => .number n
  | .string s => .string s

/-- The canonical forms of the items. -/
def canonicalItems : List Json → List Json
  | [] => []
  | item :: rest => item.canonical :: canonicalItems rest

/-- The members in canonical form. -/
def canonicalMembers : Members → Members
  | [] => []
  | (key, value) :: rest => Ordered.insertOlder key value.canonical (canonicalMembers rest)

end

/-! ## Equality -/

mutual

/-- Equality of values: members and items one by one, numbers by `Number.same`. -/
def same : Json → Json → Bool
  | .null, .null => true
  | .boolean a, .boolean b => a == b
  | .number a, .number b => a.same b
  | .string a, .string b => a == b
  | .array as, .array bs => sameItems as bs
  | .object as, .object bs => sameMembers as bs
  | _, _ => false

/-- Equality of two lists of values. -/
def sameItems : List Json → List Json → Bool
  | [], [] => true
  | a :: as, b :: bs => a.same b && sameItems as bs
  | _, _ => false

/-- Equality of two lists of members. -/
def sameMembers : Members → Members → Bool
  | [], [] => true
  | (j, a) :: as, (k, b) :: bs => j == k && a.same b && sameMembers as bs
  | _, _ => false

end

/-! ## Laws -/

/-- Insertion of a canonical value keeps the values canonical. -/
theorem CanonicalMembers.insert {members : Members} (h : CanonicalMembers members)
    {value : Json} (hv : value.Canonical) (key : String) :
    CanonicalMembers (Ordered.insert key value members) := by
  induction members with
  | nil => exact ⟨hv, trivial⟩
  | cons m rest ih =>
    obtain ⟨j, v⟩ := m
    simp only [Ordered.insert]
    split
    · exact ⟨hv, h⟩
    · split
      · exact ⟨hv, h.2⟩
      · exact ⟨h.1, ih h.2⟩

private theorem CanonicalMembers.insertOlder {members : Members} (h : CanonicalMembers members)
    {value : Json} (hv : value.Canonical) (key : String) :
    CanonicalMembers (Ordered.insertOlder key value members) := by
  induction members with
  | nil => exact ⟨hv, trivial⟩
  | cons m rest ih =>
    obtain ⟨j, v⟩ := m
    simp only [Ordered.insertOlder]
    split
    · exact ⟨hv, h⟩
    · split
      · exact h
      · exact ⟨h.1, ih h.2⟩

mutual

theorem canonical_canonical : (value : Json) → value.canonical.Canonical
  | .null => trivial
  | .boolean _ => trivial
  | .number _ => trivial
  | .string _ => trivial
  | .array items => canonicalItems_canonical items
  | .object members => canonicalMembers_canonical members

theorem canonicalItems_canonical : (items : List Json) → CanonicalItems (canonicalItems items)
  | [] => trivial
  | item :: rest => ⟨canonical_canonical item, canonicalItems_canonical rest⟩

theorem canonicalMembers_canonical : (members : Members) →
    Ordered.Ascending (canonicalMembers members) ∧ CanonicalMembers (canonicalMembers members)
  | [] => ⟨.nil, trivial⟩
  | (key, value) :: rest =>
    let h := canonicalMembers_canonical rest
    ⟨h.1.insertOlder key _, h.2.insertOlder (canonical_canonical value) key⟩

end

mutual

theorem canonical_eq_self : (value : Json) → value.Canonical → value.canonical = value
  | .null, _ => rfl
  | .boolean _, _ => rfl
  | .number _, _ => rfl
  | .string _, _ => rfl
  | .array items, h => by simp only [canonical, canonicalItems_eq_self items h]
  | .object members, h => by simp only [canonical, canonicalMembers_eq_self members h.1 h.2]

theorem canonicalItems_eq_self : (items : List Json) → CanonicalItems items →
    canonicalItems items = items
  | [], _ => rfl
  | item :: rest, h => by
    simp only [canonicalItems, canonical_eq_self item h.1, canonicalItems_eq_self rest h.2]

theorem canonicalMembers_eq_self : (members : Members) → Ordered.Ascending members →
    CanonicalMembers members → canonicalMembers members = members
  | [], _, _ => rfl
  | (key, value) :: rest, ha, hc => by
    obtain ⟨hk, hrest⟩ := List.pairwise_cons.1 ha
    simp only [canonicalMembers, canonical_eq_self value hc.1,
      canonicalMembers_eq_self rest hrest hc.2]
    exact Ordered.insertOlder_of_forall_lt hk

end

end Json

end GatewayDesk
