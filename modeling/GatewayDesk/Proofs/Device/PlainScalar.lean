import GatewayDesk.Proofs.Device.Agreement
import GatewayDesk.Proofs.Device.Input
import GatewayDesk.Proofs.Yaml.Atom
import GatewayDesk.Proofs.Yaml.Path

/-!
# Plain scalars in device files

At every path of a YAML device file at which a plain scalar without a tag stands, the record holds
what the scalar's spelling says. JSON has no numbers without bounds, so the words for them become
null like the words for null; no other scalar does.

* `parse_yaml_plain`: what the record holds at the path of a plain scalar.
-/

namespace GatewayDesk

namespace DeviceFile

open Yaml (Atom Document Mark)

/-- Whether at a path of a YAML text a plain scalar without a tag stands that is spelled so. -/
def plainAt (text : String) (path : List Json.Way) (spelling : String) : Bool :=
  match (Document.ofText text.toList).at? (Document.ofText text.toList).root path with
  | some (.scalar _ _ none .plain found) => found == spelling
  | _ => false

theorem plainAt_eq_true_iff {text : String} {path : List Json.Way} {spelling : String} :
    plainAt text path spelling = true ↔ ∃ mark anchor,
      (Document.ofText text.toList).at? (Document.ofText text.toList).root path =
        some (.scalar mark anchor none .plain spelling) := by
  unfold plainAt
  constructor
  · intro h
    split at h
    case h_1 mark anchor found stands =>
      rw [← eq_of_beq h]
      exact ⟨mark, anchor, stands⟩
    case h_2 => cases h
  · rintro ⟨mark, anchor, stands⟩
    rw [stands]
    exact beq_self_eq_true spelling

theorem eq_null_of_found {value : Json} (h : value.found = .null) : value = .null := by
  cases value with
  | null => rfl
  | number n => cases n <;> cases h
  | _ => cases h

/-- The value of a scalar is in canonical form. -/
theorem canonical_of_toJson {atom : Atom} {value : Json} (h : atom.toJson = .ok value) :
    value.canonical = value := by
  cases atom with
  | wide z => cases h
  | _ =>
    cases h
    rfl

/-- At the path of a plain scalar without a tag, the record of a YAML file holds the value that the
scalar's spelling says: null if it is a word for null, but also if it is a word for a number without
bounds, and otherwise a truth value, a number, or the spelling as a text. -/
theorem parse_yaml_plain {text : String} {device : Device} (h : parse text .yaml = .ok device)
    {path : List Json.Way} (inside : path ≠ []) {mark : Mark} {anchor : Option String}
    {spelling : String}
    (stands : (Document.ofText text.toList).at? (Document.ofText text.toList).root path =
      some (.scalar mark anchor none .plain spelling)) :
    ∃ value, device.toJson.at? path = some value ∧ (Atom.ofPlain spelling).toJson = .ok value ∧
      (value = .null ↔ spelling ∈ Atom.nullWords ∨ spelling ∈ Atom.unboundedWords) ∧
      (value ≠ .null →
        (∃ b, value = .boolean b) ∨ (∃ n, value = .number n) ∨ value = .string spelling) := by
  obtain ⟨members, read, rfl⟩ := Except.map_eq_ok.1 (parse_yaml_eq_ok_iff.1 h)
  obtain ⟨inner, value, scalar, found, reads⟩ :=
    Yaml.Reading.at?_of_object (Yaml.Reading.finds_of_run read) inside stands
  obtain ⟨atom, made, json⟩ := Yaml.Reading.scalar_of_reads reads scalar
  cases made
  have held : (Device.ofMembers members).toJson.at? path = some value := by
    have canonical := Json.at?_canonical (.object members) path
    rw [found, Option.map_some, canonical_of_toJson json] at canonical
    exact canonical
  obtain ⟨null, kept⟩ := Atom.toJson_ofPlain json
  exact ⟨value, held, json, null, kept⟩

/-- An alias three levels deep, for an integer in base sixteen. -/
theorem parse_yaml_plain_alias :
    ∃ device value, parse "config: \x7bports: [&a 0x1F, *a]\x7d" .yaml = .ok device ∧
      device.toJson.at? [.key "config", .key "ports", .place 1] = some value ∧
      value ≠ .null ∧ ((∃ b, value = .boolean b) ∨ (∃ n, value = .number n) ∨
        value = .string "0x1F") := by
  have accepted : (parse "config: \x7bports: [&a 0x1F, *a]\x7d" .yaml).toOption.any
      (fun _ => true) = true := by decide +kernel
  obtain ⟨device, read, -⟩ := Except.exists_of_any accepted
  obtain ⟨mark, anchor, stands⟩ := plainAt_eq_true_iff.1 (by decide +kernel : plainAt
    "config: \x7bports: [&a 0x1F, *a]\x7d" [.key "config", .key "ports", .place 1] "0x1F" = true)
  obtain ⟨value, held, -, null, kept⟩ := parse_yaml_plain read (List.cons_ne_nil _ _) stands
  have ne : value ≠ .null := fun e => absurd (null.1 e) (by decide)
  exact ⟨device, value, read, held, ne, kept ne⟩

/-- A scalar that is no word for null may be null in the record. -/
theorem parse_yaml_notNumber :
    ∃ device mark anchor, parse "id: .nan" .yaml = .ok device ∧
      (Document.ofText "id: .nan".toList).at? (Document.ofText "id: .nan".toList).root [.key "id"] =
        some (.scalar mark anchor none .plain ".nan") ∧
      ".nan" ∉ Atom.nullWords ∧ device.toJson.at? [.key "id"] = some .null := by
  have accepted : (parse "id: .nan" .yaml).toOption.any (fun device =>
      (device.toJson.at? [.key "id"]).any fun value => decide (value.found = .null)) = true := by
    decide +kernel
  obtain ⟨device, read, fine⟩ := Except.exists_of_any accepted
  obtain ⟨mark, anchor, stands⟩ :=
    plainAt_eq_true_iff.1 (by decide +kernel : plainAt "id: .nan" [.key "id"] ".nan" = true)
  obtain ⟨value, held, null⟩ := Option.any_eq_true _ _ |>.1 fine
  obtain rfl := eq_null_of_found (of_decide_eq_true null)
  exact ⟨device, mark, anchor, read, stands, by decide, held⟩

end DeviceFile

end GatewayDesk
