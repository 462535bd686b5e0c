import GatewayDesk.DeviceFile
import GatewayDesk.Proofs.Files.Component

/-!
# The format of a device file

The last component of a path says in which format the file is. The directories before it, whatever
their names are, do not matter.

* `ofPath_eq_yaml_iff`: which paths are those of YAML files.
* `ofPath_component`: that, and the same path in another directory.
-/

namespace GatewayDesk

namespace DeviceFile

namespace Format

theorem lowerAscii_eq (c : Char) : lowerAscii c = c.toLower := by
  have large : ('A' ≤ c ∧ c ≤ 'Z') ↔ c.val ≥ 'A'.val ∧ c.val ≤ 'Z'.val := Iff.rfl
  unfold lowerAscii Char.toLower
  split
  case isTrue h =>
    have small : c.val.toNat ≤ 90 := h.2
    have valid : (c.val.toNat + 32).isValidChar := .inl (by omega)
    have step : ('a'.val - 'A'.val).toNat = 32 := rfl
    rw [dif_pos (large.1 h), Char.toNat, Char.ofNat, dif_pos valid]
    apply Char.toNat_inj.1
    show c.val.toNat + 32 = (c.val + ('a'.val - 'A'.val)).toNat
    rw [UInt32.toNat_add, step, Nat.mod_eq_of_lt (by omega)]
  case isFalse h => rw [dif_neg fun e => h (large.2 e)]

/-- A path is that of a YAML file if its last component is a stem, a dot and one of two suffixes in
letters of either case. -/
theorem ofPath_eq_yaml_iff {path : String} :
    ofPath path = .yaml ↔ ∃ stem suffix : List Char,
      (Path.components path).getLast? = some (stem ++ '.' :: suffix) ∧
        stem ++ '.' :: suffix ≠ ['.', '.'] ∧ stem ≠ [] ∧ '.' ∉ suffix ∧
        (suffix.map Char.toLower = ['y', 'a', 'm', 'l'] ∨
          suffix.map Char.toLower = ['y', 'm', 'l']) := by
  have same : lowerAscii = Char.toLower := funext lowerAscii_eq
  have suffixes : ofPath path = .yaml ↔ ∃ suffix, Path.suffix? path = some suffix ∧
      (suffix.map Char.toLower = ['y', 'a', 'm', 'l'] ∨
        suffix.map Char.toLower = ['y', 'm', 'l']) := by
    unfold ofPath
    rw [same]
    cases Path.suffix? path with
    | none => simp
    | some suffix =>
      simp only [Option.map_some, Option.some.injEq, exists_eq_left']
      split <;> simp_all
  rw [suffixes]
  simp only [Path.suffix?_eq_some_iff]
  constructor
  · rintro ⟨suffix, ⟨stem, last, dots, nonempty, dotless⟩, known⟩
    exact ⟨stem, suffix, last, dots, nonempty, dotless, known⟩
  · rintro ⟨stem, suffix, last, dots, nonempty, dotless, known⟩
    exact ⟨suffix, ⟨stem, last, dots, nonempty, dotless⟩, known⟩

/-- Whether a file is YAML is a matter of the last component of its path: what is left of the path
without slashes at the end and single dots, after the last slash. It must be there, be no two dots,
and be a stem that is not empty, a dot, and `yaml` or `yml` in letters of either case. So a path
means the same in every directory. -/
theorem ofPath_component :
    (∀ path : String, ofPath path = .yaml ↔ ∃ stem suffix : List Char,
        (Path.components path).getLast? = some (stem ++ '.' :: suffix) ∧
          stem ++ '.' :: suffix ≠ ['.', '.'] ∧ stem ≠ [] ∧ '.' ∉ suffix ∧
          (suffix.map Char.toLower = ['y', 'a', 'm', 'l'] ∨
            suffix.map Char.toLower = ['y', 'm', 'l'])) ∧
      ∀ directory path : String, Path.components path ≠ [] →
        ofPath (directory ++ "/" ++ path) = ofPath path := by
  refine ⟨fun path => ofPath_eq_yaml_iff, fun directory path named => ?_⟩
  have last : (Path.components (directory ++ "/" ++ path)).getLast? =
      (Path.components path).getLast? := by
    rw [Path.components_append, List.getLast?_append, List.getLast?_eq_some_getLast named,
      Option.some_or]
  have same : ofPath (directory ++ "/" ++ path) = .yaml ↔ ofPath path = .yaml := by
    rw [ofPath_eq_yaml_iff, ofPath_eq_yaml_iff, last]
  cases inner : ofPath path with
  | yaml => exact same.2 inner
  | json =>
    cases outer : ofPath (directory ++ "/" ++ path) with
    | json => rfl
    | yaml => exact absurd (same.1 outer) (by rw [inner]; decide)

/-- A file without a stem is no YAML, whatever stands above it, and a YAML file is one with slashes,
dots and capital letters about it. -/
theorem ofPath_component_hidden :
    ofPath ("plant.yaml/line.d" ++ "/" ++ ".yaml/./") = .json ∧
      ofPath ("a.json/.." ++ "/" ++ "line.tar.YmL//.") = .yaml := by
  have hidden : ofPath ".yaml/./" = .json := by decide +kernel
  have named : Path.components ".yaml/./" = [['.', 'y', 'a', 'm', 'l']] := by decide +kernel
  have parts : Path.components "line.tar.YmL//." = ["line.tar.YmL".toList] := by decide +kernel
  refine ⟨(ofPath_component.2 _ _ (by rw [named]; decide)).trans hidden,
    (ofPath_component.2 _ _ (by rw [parts]; decide +kernel)).trans ?_⟩
  exact (ofPath_component.1 _).2 ⟨"line.tar".toList, ['Y', 'm', 'L'], by rw [parts]; rfl,
    by decide +kernel, by decide +kernel, by decide, .inr (by decide)⟩

end Format

end DeviceFile

end GatewayDesk
