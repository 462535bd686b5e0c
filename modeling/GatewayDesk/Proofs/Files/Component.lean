import GatewayDesk.Proofs.Files.Path

/-!
# Components

The components of a path are its pieces without the idle ones: slashes that are repeated or stand at
the end, and single dots, name nothing. The file name of a path is its last component, unless that
is two dots, and the suffix is what follows the last dot of it.

* `components_append`: the components of a path after another.
* `fileName?_eq`: the file name is the last component.
* `suffix?_eq_some_iff`: which path has which suffix.
-/

namespace GatewayDesk

namespace Path

variable {path : String} {stem suffix : List Char}

/-- The pieces of a path that say something. -/
def components (path : String) : List (List Char) := (pieces path).filter fun piece => !isIdle piece

theorem components_append (front path : String) :
    components (front ++ "/" ++ path) = components front ++ components path := by
  have text : (front ++ "/" ++ path).toList = front.toList ++ '/' :: path.toList := by
    rw [String.toList_append, String.toList_append, List.append_assoc]
    rfl
  rw [components, pieces, text, split_slash, List.filter_append]
  rfl

/-- The last piece of a path that is left is its last component. Where there is none, an idle piece
is left. -/
theorem last_eq (path : String) :
    (components path).getLast? = some (last path) ∨
      components path = [] ∧ isIdle (last path) = true := by
  obtain ⟨first, rest, whole⟩ := List.exists_cons_of_ne_nil (split_ne_nil path.toList)
  have parts : components path = (first :: rest).filter fun piece => !isIdle piece := by
    rw [components, pieces, whole]
  have left : last path = (rest.reverse.dropWhile isIdle).head?.getD first := by
    rw [last, pieces, whole, trimmed, List.getLastD_cons, List.getLastD_eq_getLast?,
      List.getLast?_reverse]
  have found : (rest.reverse.dropWhile isIdle).head? = rest.reverse.find? fun p => !isIdle p := by
    rw [List.find?_eq_head?_dropWhile_not]
    simp only [Bool.not_not]
  rw [parts, left, found, List.getLast?_filter, List.reverse_cons, List.find?_append]
  cases later : rest.reverse.find? fun p => !isIdle p with
  | some name => exact .inl rfl
  | none =>
    cases idle : isIdle first with
    | false => exact .inl (by simp [idle])
    | true =>
      have none : ∀ piece ∈ rest, isIdle piece = true := by
        simpa using List.find?_eq_none.1 later
      exact .inr ⟨by simpa [idle] using none, idle⟩

/-- The file name of a path is its last component, unless that is two dots. -/
theorem fileName?_eq (path : String) :
    fileName? path = (components path).getLast?.filter (· != ['.', '.']) := by
  rcases last_eq path with some | ⟨none, idle⟩
  · have visible : isIdle (last path) = false := by
      have mem := List.mem_of_getLast? some
      simpa using (List.mem_filter.1 mem).2
    simp only [isIdle, Bool.or_eq_false_iff] at visible
    rw [some, fileName?]
    by_cases dots : last path = ['.', '.'] <;> simp [visible, dots, Option.filter]
  · have nameless : (last path == [] || last path == ['.'] || last path == ['.', '.']) = true :=
      Bool.or_eq_true_iff.2 (.inl idle)
    rw [none, fileName?]
    exact if_pos nameless

/-- A stem, a dot and a suffix without dots are taken apart again. -/
theorem splitSuffix_append (nonempty : stem ≠ []) (dotless : '.' ∉ suffix) :
    splitSuffix (stem ++ '.' :: suffix) = (stem, some suffix) := by
  have back : (stem ++ '.' :: suffix).reverse = suffix.reverse ++ '.' :: stem.reverse := by simp
  have visible : ∀ c ∈ suffix.reverse, (c != '.') = true := fun c mem => by
    rw [bne_iff_ne]
    rintro rfl
    exact dotless (List.mem_reverse.1 mem)
  have after : (stem ++ '.' :: suffix).reverse.takeWhile (· != '.') = suffix.reverse := by
    rw [back, List.takeWhile_append_of_pos visible]
    simp
  have before : (stem ++ '.' :: suffix).length - suffix.length - 1 = stem.length := by
    rw [List.length_append, List.length_cons]
    omega
  rw [splitSuffix, after, List.reverse_reverse, before, List.take_left]
  simp [nonempty]

/-- A path has a suffix if its last component is a stem, a dot and the suffix, in which there is no
dot, and not two dots. -/
theorem suffix?_eq_some_iff :
    suffix? path = some suffix ↔ ∃ stem, (components path).getLast? = some (stem ++ '.' :: suffix) ∧
      stem ++ '.' :: suffix ≠ ['.', '.'] ∧ stem ≠ [] ∧ '.' ∉ suffix := by
  rw [suffix?, fileName?_eq, Option.bind_eq_some_iff]
  constructor
  · rintro ⟨name, named, h⟩
    obtain ⟨some, dots⟩ := Option.filter_eq_some_iff.1 named
    cases parts : splitSuffix name with
    | mk stem other =>
      rw [parts] at h
      obtain rfl : other = Option.some suffix := h
      obtain ⟨rfl, dotless, nonempty⟩ := splitSuffix_eq_some parts
      exact ⟨stem, some, by simpa using dots, nonempty, dotless⟩
  · rintro ⟨stem, some, dots, nonempty, dotless⟩
    refine ⟨_, Option.filter_eq_some_iff.2 ⟨some, by simpa using dots⟩, ?_⟩
    rw [splitSuffix_append nonempty dotless]

end Path

end GatewayDesk
