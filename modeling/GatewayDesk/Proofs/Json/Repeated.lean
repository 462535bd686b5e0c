import GatewayDesk.Json.Basic
import GatewayDesk.Proofs.Ordered

/-!
# Repeated keys

A key that is written twice in an object holds the value that is written last, in the object itself
and in every object inside it. `Json.at?` follows a path of keys and places into a value and takes
the last member of a key; the canonical form has the same at every path.

* `get?_canonicalMembers`: what a key of an object in canonical form holds.
* `at?_canonical`: what stands at a path of a value in canonical form.
-/

namespace GatewayDesk

namespace Json

/-- A way into a container. -/
inductive Way where
  | key (name : String)
  | place (index : Nat)
  deriving DecidableEq, Repr

/-- What stands at a key or a place; of two members with one key the last counts. -/
def child? : Json → Way → Option Json
  | .object members, .key name => Ordered.get? members.reverse name
  | .array items, .place index => items[index]?
  | _, _ => none

/-- What stands at a path. -/
def at? (value : Json) : List Way → Option Json
  | [] => some value
  | way :: path => (value.child? way).bind fun inner => inner.at? path

/-- A key of an object in canonical form holds what was written last. -/
theorem get?_canonicalMembers (members : Members) (key : String) :
    Ordered.get? (canonicalMembers members) key =
      (Ordered.get? members.reverse key).map canonical := by
  induction members with
  | nil => rfl
  | cons m rest ih =>
    obtain ⟨j, value⟩ := m
    have alone : (Ordered.get? [(j, value)] key).map canonical =
        if j = key then some value.canonical else none :=
      apply_ite (Option.map canonical) ..
    rw [canonicalMembers, Ordered.get?_insertOlder (canonicalMembers_canonical rest).1, ih,
      List.reverse_cons, Ordered.get?_append, Option.map_or, alone]

theorem canonicalItems_eq_map (items : List Json) :
    canonicalItems items = items.map canonical := by
  induction items with
  | nil => rfl
  | cons item rest ih => rw [canonicalItems, ih, List.map_cons]

theorem child?_canonical (value : Json) (way : Way) :
    value.canonical.child? way = (value.child? way).map canonical := by
  cases value with
  | object members =>
    cases way with
    | key name =>
      have ascending := (canonicalMembers_canonical members).1
      rw [canonical, child?, child?, ascending.get?_reverse, get?_canonicalMembers]
    | place index => rfl
  | array items =>
    cases way with
    | key name => rfl
    | place index => rw [canonical, child?, child?, canonicalItems_eq_map, List.getElem?_map]
  | _ => rfl

/-- At every path the canonical form has what was written last there. -/
theorem at?_canonical (value : Json) (path : List Way) :
    value.canonical.at? path = (value.at? path).map canonical := by
  induction path generalizing value with
  | nil => rfl
  | cons way path ih =>
    rw [at?, at?, child?_canonical, Option.bind_map, Option.map_bind]
    exact congrArg _ (funext ih)

end Json

end GatewayDesk
