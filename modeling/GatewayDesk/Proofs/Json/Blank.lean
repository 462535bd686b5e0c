import GatewayDesk.Json.Reader
import GatewayDesk.Text.Blank

/-!
# Blank texts

White space of Unicode is more than the four characters that may stand between tokens. None of it
starts a value, so a text that holds nothing else is no JSON, whatever shape is expected.
-/

namespace GatewayDesk

namespace Json

namespace Reader

variable {shape : Shape} {c : Char}

theorem isDigit_of_isBlank (h : Char.isBlank c = true) : Digits.isDigit c = false := by
  simp only [Char.isBlank, Bool.or_eq_true, Bool.and_eq_true, decide_eq_true_eq, beq_iff_eq] at h
  simp only [Digits.isDigit, Bool.and_eq_false_iff, decide_eq_false_iff_not]
  omega

/-- No white space starts a value. -/
theorem startValue_of_isBlank (h : Char.isBlank c = true) (stack : List Frame) :
    startValue shape stack c = .error (.noValue, 1) := by
  have ne (d : Char) (hd : Char.isBlank d = false) : c ≠ d := by
    rintro rfl
    rw [hd] at h
    cases h
  simp [startValue, isDigit_of_isBlank h, ne '\x7b' rfl, ne '[' rfl, ne '"' rfl, ne '-' rfl,
    ne 'n' rfl, ne 't' rfl, ne 'f' rfl]

/-- Before a value, white space is passed over or a fault. -/
theorem run_start_of_isBlank (shape : Shape) {cs : List Char} (h : ∀ c ∈ cs, Char.isBlank c = true)
    (offset : Nat) :
    run shape start cs offset = .ok start ∨ ∃ fault, run shape start cs offset = .error fault := by
  induction cs generalizing offset with
  | nil => exact .inl rfl
  | cons c cs ih =>
    rw [List.forall_mem_cons] at h
    have first : step shape start c =
        if isSpace c then .ok start else startValue shape [] c := rfl
    rw [run, first]
    cases isSpace c with
    | true => exact ih h.2 _
    | false =>
      rw [startValue_of_isBlank h.1]
      exact .inr ⟨_, rfl⟩

end Reader

/-- A text that holds nothing but white space is no JSON. -/
theorem read_of_isBlank {text : String} (h : ∀ c ∈ text.toList, Char.isBlank c = true)
    (shape : Shape) : ∃ e, read shape text = .error e := by
  unfold read
  rcases Reader.run_start_of_isBlank shape h 0 with run | ⟨fault, run⟩
  · simp only [run]
    exact ⟨_, rfl⟩
  · simp only [run]
    exact ⟨_, rfl⟩

end Json

end GatewayDesk
