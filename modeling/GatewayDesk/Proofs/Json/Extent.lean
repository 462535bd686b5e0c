import GatewayDesk.Json.Basic

/-!
# Depth and numbers of a value

`Json.depth` counts the containers that are open at the deepest place of a value, the value itself
among them. `Json.EachNumber` says that all numbers in a value have a property, and
`Json.Number.IsInteger` is the property of those that are integers. `Json.mapNumbers` puts other
numbers in the place of those in a value.

* `mapNumbers_eq_self_iff`: a value stays the same exactly if all its numbers do.
* `canonical_mapNumbers`: other numbers change no order of keys.
-/

namespace GatewayDesk

namespace Json

/-- Whether a number is an integer; 64 bits hold it, with or without a sign. -/
def Number.IsInteger : Number → Prop
  | .integer _ _ => True
  | .fraction _ => False

instance : DecidablePred Number.IsInteger
  | .integer _ _ => isTrue trivial
  | .fraction _ => isFalse id

/-! ## Depth -/

mutual

/-- How many containers are open at the deepest place of a value. -/
def depth : Json → Nat
  | .array items => depthOfItems items + 1
  | .object members => depthOfMembers members + 1
  | _ => 0

/-- The depth of the deepest item. -/
def depthOfItems : List Json → Nat
  | [] => 0
  | item :: rest => max item.depth (depthOfItems rest)

/-- The depth of the deepest value of a member. -/
def depthOfMembers : Members → Nat
  | [] => 0
  | (_, value) :: rest => max value.depth (depthOfMembers rest)

end

/-! ## Numbers -/

mutual

/-- Whether all numbers in a value have a property. -/
def EachNumber (p : Number → Prop) : Json → Prop
  | .number n => p n
  | .array items => EachNumberOfItems p items
  | .object members => EachNumberOfMembers p members
  | _ => True

/-- Whether all numbers in some items have a property. -/
def EachNumberOfItems (p : Number → Prop) : List Json → Prop
  | [] => True
  | item :: rest => item.EachNumber p ∧ EachNumberOfItems p rest

/-- Whether all numbers in the values of some members have a property. -/
def EachNumberOfMembers (p : Number → Prop) : Members → Prop
  | [] => True
  | (_, value) :: rest => value.EachNumber p ∧ EachNumberOfMembers p rest

end

section Decidable

variable {p : Number → Prop} [DecidablePred p]

mutual

/-- Decides whether all numbers in a value have a property. -/
def decideEachNumber : (value : Json) → Decidable (value.EachNumber p)
  | .null => isTrue trivial
  | .boolean _ => isTrue trivial
  | .number n => inferInstanceAs (Decidable (p n))
  | .string _ => isTrue trivial
  | .array items => decideEachNumberOfItems items
  | .object members => decideEachNumberOfMembers members

/-- Decides whether all numbers in some items have a property. -/
def decideEachNumberOfItems : (items : List Json) → Decidable (EachNumberOfItems p items)
  | [] => isTrue trivial
  | item :: rest =>
    @instDecidableAnd _ _ (decideEachNumber item) (decideEachNumberOfItems rest)

/-- Decides whether all numbers in the values of some members have a property. -/
def decideEachNumberOfMembers : (members : Members) → Decidable (EachNumberOfMembers p members)
  | [] => isTrue trivial
  | (_, value) :: rest =>
    @instDecidableAnd _ _ (decideEachNumber value) (decideEachNumberOfMembers rest)

end

instance (value : Json) : Decidable (value.EachNumber p) := decideEachNumber value

end Decidable

mutual

theorem EachNumber.imp {p q : Number → Prop} (h : ∀ n, p n → q n) :
    (value : Json) → value.EachNumber p → value.EachNumber q
  | .null, _ => trivial
  | .boolean _, _ => trivial
  | .number n, hn => h n hn
  | .string _, _ => trivial
  | .array items, hi => EachNumberOfItems.imp h items hi
  | .object members, hm => EachNumberOfMembers.imp h members hm

theorem EachNumberOfItems.imp {p q : Number → Prop} (h : ∀ n, p n → q n) :
    (items : List Json) → EachNumberOfItems p items → EachNumberOfItems q items
  | [], _ => trivial
  | item :: rest, hi => ⟨EachNumber.imp h item hi.1, EachNumberOfItems.imp h rest hi.2⟩

theorem EachNumberOfMembers.imp {p q : Number → Prop} (h : ∀ n, p n → q n) :
    (members : Members) → EachNumberOfMembers p members → EachNumberOfMembers q members
  | [], _ => trivial
  | (_, value) :: rest, hm => ⟨EachNumber.imp h value hm.1, EachNumberOfMembers.imp h rest hm.2⟩

end

mutual

theorem EachNumber.of_forall {p : Number → Prop} (h : ∀ n, p n) :
    (value : Json) → value.EachNumber p
  | .null => trivial
  | .boolean _ => trivial
  | .number n => h n
  | .string _ => trivial
  | .array items => EachNumberOfItems.of_forall h items
  | .object members => EachNumberOfMembers.of_forall h members

theorem EachNumberOfItems.of_forall {p : Number → Prop} (h : ∀ n, p n) :
    (items : List Json) → EachNumberOfItems p items
  | [] => trivial
  | item :: rest => ⟨EachNumber.of_forall h item, EachNumberOfItems.of_forall h rest⟩

theorem EachNumberOfMembers.of_forall {p : Number → Prop} (h : ∀ n, p n) :
    (members : Members) → EachNumberOfMembers p members
  | [] => trivial
  | (_, value) :: rest => ⟨EachNumber.of_forall h value, EachNumberOfMembers.of_forall h rest⟩

end

/-! ## Other numbers -/

section Map

variable (f : Number → Number)

mutual

/-- The value with other numbers. -/
def mapNumbers : Json → Json
  | .number n => .number (f n)
  | .array items => .array (mapNumbersOfItems items)
  | .object members => .object (mapNumbersOfMembers members)
  | .null => .null
  | .boolean b => .boolean b
  | .string s => .string s

/-- The items with other numbers. -/
def mapNumbersOfItems : List Json → List Json
  | [] => []
  | item :: rest => item.mapNumbers :: mapNumbersOfItems rest

/-- The members with other numbers in their values. -/
def mapNumbersOfMembers : Members → Members
  | [] => []
  | (key, value) :: rest => (key, value.mapNumbers) :: mapNumbersOfMembers rest

end

mutual

/-- A value stays the same exactly if all its numbers do. -/
theorem mapNumbers_eq_self_iff : (value : Json) →
    (value.mapNumbers f = value ↔ value.EachNumber fun n => f n = n)
  | .null => iff_of_true rfl trivial
  | .boolean _ => iff_of_true rfl trivial
  | .number n => by rw [mapNumbers, EachNumber, Json.number.injEq]
  | .string _ => iff_of_true rfl trivial
  | .array items => by
    rw [mapNumbers, EachNumber, Json.array.injEq, mapNumbersOfItems_eq_self_iff items]
  | .object members => by
    rw [mapNumbers, EachNumber, Json.object.injEq, mapNumbersOfMembers_eq_self_iff members]

theorem mapNumbersOfItems_eq_self_iff : (items : List Json) →
    (mapNumbersOfItems f items = items ↔ EachNumberOfItems (fun n => f n = n) items)
  | [] => iff_of_true rfl trivial
  | item :: rest => by
    rw [mapNumbersOfItems, EachNumberOfItems, List.cons.injEq, mapNumbers_eq_self_iff item,
      mapNumbersOfItems_eq_self_iff rest]

theorem mapNumbersOfMembers_eq_self_iff : (members : Members) →
    (mapNumbersOfMembers f members = members ↔ EachNumberOfMembers (fun n => f n = n) members)
  | [] => iff_of_true rfl trivial
  | (key, value) :: rest => by
    rw [mapNumbersOfMembers, EachNumberOfMembers, List.cons.injEq, Prod.mk.injEq,
      mapNumbers_eq_self_iff value, mapNumbersOfMembers_eq_self_iff rest]
    exact and_congr_left fun _ => and_iff_right rfl

end

theorem keys_mapNumbersOfMembers (members : Members) :
    (mapNumbersOfMembers f members).map Prod.fst = members.map Prod.fst := by
  induction members with
  | nil => rfl
  | cons m rest ih => exact congrArg (m.1 :: ·) ih

theorem ascending_mapNumbers {members : Members} (h : Ordered.Ascending members) :
    Ordered.Ascending (mapNumbersOfMembers f members) := by
  unfold Ordered.Ascending at h ⊢
  rw [← List.pairwise_map (f := Prod.fst) (R := (· < ·))] at h ⊢
  rwa [keys_mapNumbersOfMembers]

mutual

/-- Other numbers change no order of keys. -/
theorem canonical_mapNumbers : (value : Json) → value.Canonical → (value.mapNumbers f).Canonical
  | .null, _ => trivial
  | .boolean _, _ => trivial
  | .number _, _ => trivial
  | .string _, _ => trivial
  | .array items, h => canonicalItems_mapNumbers items h
  | .object members, h => ⟨ascending_mapNumbers f h.1, canonicalMembers_mapNumbers members h.2⟩

theorem canonicalItems_mapNumbers : (items : List Json) → CanonicalItems items →
    CanonicalItems (mapNumbersOfItems f items)
  | [], _ => trivial
  | item :: rest, h => ⟨canonical_mapNumbers item h.1, canonicalItems_mapNumbers rest h.2⟩

theorem canonicalMembers_mapNumbers : (members : Members) → CanonicalMembers members →
    CanonicalMembers (mapNumbersOfMembers f members)
  | [], _ => trivial
  | (_, value) :: rest, h =>
    ⟨canonical_mapNumbers value h.1, canonicalMembers_mapNumbers rest h.2⟩

end

end Map

end Json

end GatewayDesk
