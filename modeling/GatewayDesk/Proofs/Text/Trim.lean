import GatewayDesk.Text.Blank
import Mathlib.Data.List.DropRight

/-!
# Trimmed texts

What is left of a text without the white space at its end, and at both ends.

* `trimEnd_append_of_mem`, `trimEnd_append_of_blank`: what is left of a text with another after it.
* `not_isBlank_getLast_trimEnd`: a trimmed text does not end in white space.
* `trim_eq_singleton_iff`: the texts that are a single character without the white space.
-/

namespace GatewayDesk

namespace Text

variable {a b cs : List Char} {c : Char}

theorem trimEnd_eq (cs : List Char) : trimEnd cs = cs.rdropWhile Char.isBlank := rfl

theorem isPrefix_trimEnd (cs : List Char) : trimEnd cs <+: cs := List.rdropWhile_prefix _ _

theorem trimEnd_concat (h : Char.isBlank c = false) (a : List Char) :
    trimEnd (a ++ [c]) = a ++ [c] := by
  rw [trimEnd_eq, List.rdropWhile_concat_neg _ _ _ (by simp [h])]

theorem not_isBlank_getLast_trimEnd (h : (trimEnd cs).getLast? = some c) :
    Char.isBlank c = false := by
  obtain ⟨some, rfl⟩ := List.mem_getLast?_eq_getLast h
  exact Bool.eq_false_iff.2 (List.rdropWhile_last_not Char.isBlank cs some)

theorem trimEnd_append_of_blank (h : ∀ c ∈ b, Char.isBlank c = true) (a : List Char) :
    trimEnd (a ++ b) = trimEnd a := by
  induction b using List.reverseRecOn with
  | nil => rw [List.append_nil]
  | append_singleton b c ih =>
    rw [← List.append_assoc, trimEnd_eq,
      List.rdropWhile_concat_pos _ _ _ (h c (by simp)), ← trimEnd_eq]
    exact ih fun d hd => h d (by simp [hd])

theorem trimEnd_append_of_mem (h : c ∈ b) (hc : Char.isBlank c = false) (a : List Char) :
    trimEnd (a ++ b) = a ++ trimEnd b := by
  induction b using List.reverseRecOn with
  | nil => cases h
  | append_singleton b d ih =>
    rw [← List.append_assoc]
    by_cases hd : Char.isBlank d = true
    · -- The last character goes in both, so the one that stays is before it.
      have before : c ∈ b := by
        rcases List.mem_append.1 h with before | last
        · exact before
        · rw [List.mem_singleton.1 last, hd] at hc
          cases hc
      have end_blank : ∀ e ∈ [d], Char.isBlank e = true := by simpa using hd
      rw [trimEnd_append_of_blank end_blank, trimEnd_append_of_blank end_blank]
      exact ih before
    · rw [trimEnd_concat (by simpa using hd), trimEnd_concat (by simpa using hd), List.append_assoc]

/-- A text is left as it is up to its own end if another one stands after it. -/
theorem isPrefix_trimEnd_append (a b : List Char) : trimEnd a <+: trimEnd (a ++ b) := by
  by_cases h : ∃ c ∈ b, Char.isBlank c = false
  · obtain ⟨c, mem, hc⟩ := h
    rw [trimEnd_append_of_mem mem hc]
    exact (isPrefix_trimEnd a).trans (List.prefix_append a _)
  · simp only [not_exists, not_and, Bool.not_eq_false] at h
    have same : trimEnd (a ++ b) = trimEnd a := trimEnd_append_of_blank h a
    exact same ▸ List.prefix_rfl

theorem trimStart_append (h : ∀ c ∈ a, Char.isBlank c = true) (b : List Char) :
    trimStart (a ++ b) = trimStart b :=
  List.dropWhile_append_of_pos h

/-- A text is a single character without its white space if it is that character between two runs of
white space. -/
theorem trim_eq_singleton_iff (hc : Char.isBlank c = false) :
    trim cs = [c] ↔
      ∃ before after, cs = before ++ c :: after ∧ ∀ d ∈ before ++ after, Char.isBlank d = true := by
  constructor
  · intro h
    have front := List.takeWhile_append_dropWhile (p := Char.isBlank) (l := cs)
    have back := List.rdropWhile_append_rtakeWhile (p := Char.isBlank) (l := trimStart cs)
    rw [← trimEnd_eq, ← trim, h, List.singleton_append] at back
    refine ⟨cs.takeWhile Char.isBlank, (trimStart cs).rtakeWhile Char.isBlank, ?_, fun d hd => ?_⟩
    · rw [back]
      exact front.symm
    · rcases List.mem_append.1 hd with hd | hd
      · exact List.mem_takeWhile_imp hd
      · exact List.mem_rtakeWhile_imp hd
  · rintro ⟨before, after, rfl, blank⟩
    have first : trimStart (c :: after) = c :: after := by simp [trimStart, hc]
    rw [trim, trimStart_append fun d hd => blank d (by simp [hd]), first,
      ← List.singleton_append, trimEnd_append_of_blank fun d hd => blank d (by simp [hd])]
    exact trimEnd_concat hc []

end Text

end GatewayDesk
