import GatewayDesk.Device
import GatewayDesk.Proofs.Json.Records
import GatewayDesk.Proofs.Json.Unambiguous
import GatewayDesk.Proofs.Ordered
import GatewayDesk.Proofs.Text.ByteOrder

/-!
# One record, one text

A record does not remember how it was made: it holds for every key what was set last, and its text
lists the keys once, in the order of their bytes. Records whose numbers are integers are equal
exactly if their texts are.

* `get?_setAll`: what a record holds after members were set.
* `ext_get?`: records that hold the same are the same.
* `mem_keys_iff`, `keys_ascend`: the keys of a record.
* `setAll_compact`: records made by setting members.
-/

namespace GatewayDesk

namespace Device

variable {a b device : Device} {steps others : List (String × Json)}

/-- The record with members set one after the other. -/
def setAll (device : Device) (steps : List (String × Json)) : Device :=
  steps.foldl (fun device step => device.set step.1 step.2) device

/-- A key holds what was set last, or what it held before. -/
theorem get?_setAll (device : Device) (steps : List (String × Json)) (key : String) :
    (device.setAll steps).get? key =
      ((Ordered.get? steps.reverse key).map Json.canonical).or (device.get? key) := by
  induction steps generalizing device with
  | nil => rfl
  | cons step steps ih =>
    obtain ⟨j, value⟩ := step
    have alone : (Ordered.get? [(j, value)] key).map Json.canonical =
        if j = key then some value.canonical else none :=
      apply_ite (Option.map Json.canonical) ..
    have first : (device.set j value).get? key =
        (if j = key then some value.canonical else none).or (device.get? key) := by
      rw [get?_set]
      split <;> rfl
    have later := ih (device.set j value)
    rw [first, ← Option.or_assoc] at later
    rw [List.reverse_cons, Ordered.get?_append, Option.map_or, alone]
    exact later

/-- Records that hold the same are the same. -/
theorem ext_get? (same : ∀ key, a.get? key = b.get? key) : a = b := by
  obtain ⟨x, hx⟩ := a
  obtain ⟨y, hy⟩ := b
  obtain rfl : x = y := hx.1.ext hy.1 same
  rfl

/-- The keys of a record, in the order in which its text lists them. -/
def keys (device : Device) : List String := device.members.map Prod.fst

theorem mem_keys_iff {key : String} : key ∈ device.keys ↔ device.get? key ≠ none :=
  Ordered.mem_keys_iff

/-- The keys ascend by their bytes. -/
theorem keys_ascend (device : Device) :
    device.keys.Pairwise fun j k => Utf8.encode j.toList < Utf8.encode k.toList := by
  rw [keys, List.pairwise_map]
  exact device.canonical.1.imp fun before => Utf8.encode_lt_iff.2 before

/-! ## Records made by setting members -/

theorem get?_setAll_empty (steps : List (String × Json)) (key : String) :
    (empty.setAll steps).get? key = (Ordered.get? steps.reverse key).map Json.canonical := by
  rw [get?_setAll]
  exact Option.or_none

theorem mem_keys_setAll_iff {key : String} :
    key ∈ (empty.setAll steps).keys ↔ key ∈ steps.map Prod.fst := by
  rw [mem_keys_iff, get?_setAll_empty, ne_eq, Option.map_eq_none_iff, ← ne_eq,
    ← Ordered.mem_keys_iff, List.map_reverse, List.mem_reverse]

/-- Records whose numbers are integers are equal exactly if their texts are the same. -/
theorem same_iff_compact (ha : a.toJson.EachNumber Json.Number.IsInteger)
    (hb : b.toJson.EachNumber Json.Number.IsInteger) :
    a.same b = true ↔ a.compact.toUTF8 = b.compact.toUTF8 :=
  (Json.same_iff_compact ha hb).trans String.toByteArray_inj.symm

/-- A record that is made from nothing by setting members holds for every key the value that was set
last, and nothing for a key that was never set. Its text lists every key that was set once, in the
order of the bytes. Steps that leave the same values make the same record, with the same text. And
records whose numbers are integers are equal exactly if the bytes of their texts are. -/
theorem setAll_compact :
    (∀ steps : List (String × Json),
        let device := empty.setAll steps
        (∀ key, device.get? key = (Ordered.get? steps.reverse key).map Json.canonical) ∧
        ((∀ step ∈ steps, step.2.Canonical) →
          ∀ key, device.get? key = Ordered.get? steps.reverse key) ∧
        device.compact = "\x7b" ++ ",".intercalate (device.members.map Json.entry) ++ "\x7d" ∧
        (∀ key, key ∈ device.keys ↔ key ∈ steps.map Prod.fst) ∧
        device.keys.Nodup ∧
        device.keys.Pairwise fun j k => Utf8.encode j.toList < Utf8.encode k.toList) ∧
      (∀ steps others : List (String × Json),
        (∀ key, (Ordered.get? steps.reverse key).map Json.canonical =
          (Ordered.get? others.reverse key).map Json.canonical) →
        empty.setAll steps = empty.setAll others ∧
          (empty.setAll steps).same (empty.setAll others) = true ∧
          (empty.setAll steps).compact.toUTF8 = (empty.setAll others).compact.toUTF8) ∧
      ∀ a b : Device, a.toJson.EachNumber Json.Number.IsInteger →
        b.toJson.EachNumber Json.Number.IsInteger →
        (a.same b = true ↔ a.compact.toUTF8 = b.compact.toUTF8) := by
  refine ⟨?_, ?_, fun a b => same_iff_compact⟩
  · intro steps device
    have ascend := keys_ascend (empty.setAll steps)
    refine ⟨get?_setAll_empty steps, fun canonical key => ?_, Json.compact_object _,
      fun key => mem_keys_setAll_iff, ?_, ascend⟩
    · show (empty.setAll steps).get? key = _
      rw [get?_setAll_empty]
      cases found : Ordered.get? steps.reverse key with
      | none => rfl
      | some value =>
        have mem := List.mem_reverse.1 (Ordered.mem_of_get? found)
        exact congrArg some (Json.canonical_eq_self value (canonical _ mem))
    · exact ascend.imp fun {j k} before (same : j = k) =>
        absurd before (same ▸ List.lt_irrefl _)
  · intro steps others same
    have one : empty.setAll steps = empty.setAll others :=
      ext_get? fun key => by rw [get?_setAll_empty, get?_setAll_empty, same]
    rw [one]
    exact ⟨rfl, Json.same_self _, rfl⟩

/-- A key that is set again, and keys whose UTF-16 units stand in another order than their bytes. -/
theorem setAll_compact_reordered :
    let z : Json := .number (.integer (-1) (by decide))
    let steps := [("😀", z), ("\uffff", .null), ("😀", .object [("b", .null), ("a", z)])]
    let others := [("😀", .object [("a", z), ("b", .null)]), ("\uffff", .null)]
    (empty.setAll steps).get? "😀" = some (.object [("a", z), ("b", .null)]) ∧
      (empty.setAll others).get? "😀" = some (.object [("a", z), ("b", .null)]) ∧
      (empty.setAll steps).keys = ["\uffff", "😀"] ∧
      (empty.setAll steps).compact.toUTF8 = (empty.setAll others).compact.toUTF8 ∧
      (empty.setAll steps).same (empty.setAll [("😀", z)]) = false := by
  intro z steps others
  have sorted : (Json.object [("a", z), ("b", .null)]).Canonical :=
    ⟨List.pairwise_pair.2 (by decide +kernel), trivial, trivial, trivial⟩
  have again := Json.canonical_eq_self _ sorted
  have inner : (Json.object [("b", .null), ("a", z)]).canonical =
      .object [("a", z), ("b", .null)] := by
    have after : ¬"b" < "a" := by decide +kernel
    have other : ¬"b" = "a" := by decide
    simp only [Json.canonical, Json.canonicalMembers, Ordered.insertOlder, if_neg after,
      if_neg other, z]
  have last : ∀ key, (Ordered.get? steps.reverse key).map Json.canonical =
      (Ordered.get? others.reverse key).map Json.canonical := by
    intro key
    by_cases first : "😀" = key
    · subst first
      simp [steps, others, Ordered.get?, inner, again]
    · by_cases second : "\uffff" = key <;> simp [steps, others, Ordered.get?, first, second]
  have canonical : ∀ step ∈ others, step.2.Canonical :=
    List.forall_mem_cons.2 ⟨sorted, List.forall_mem_singleton.2 trivial⟩
  have numbers : (empty.setAll steps).toJson.EachNumber Json.Number.IsInteger ∧
      (empty.setAll [("😀", z)]).toJson.EachNumber Json.Number.IsInteger := by decide +kernel
  refine ⟨?_, (setAll_compact.1 others).2.1 canonical "😀", ?_,
    (setAll_compact.2.1 steps others last).2.2, ?_⟩
  · rw [(setAll_compact.1 steps).1 "😀", ← inner]
    rfl
  · decide +kernel
  · have texts : (empty.setAll steps).compact.toUTF8 ≠
        (empty.setAll [("😀", z)]).compact.toUTF8 := by decide +kernel
    exact Bool.eq_false_iff.2 fun same =>
      texts ((setAll_compact.2.2 _ _ numbers.1 numbers.2).1 same)

end Device

end GatewayDesk
