import GatewayDesk.Json.Numeral
import GatewayDesk.Proofs.Numeric.Digits

/-!
# Numerals and their digits

What a numeral keeps of rows of digits. The rows grow at their end, as the digits are read, so the
inductions are on the end of a list.

* `steps_whole`: digits before the point.
* `steps_decimal`: digits with a point between them.
* `steps_markSign_digits`, `steps_down_digits`: the digits of an exponent.
-/

namespace GatewayDesk

namespace Json

namespace Numeral

/-- What has been read of a numeral after further characters, if all are part of it. -/
def steps (n : Numeral) : List Char → Option Numeral
  | [] => some n
  | c :: cs =>
    match n.step c with
    | .more n => n.steps cs
    | _ => none

section Steps

variable {n m : Numeral} {a : List Char} {c : Char}

theorem steps_append_of_eq (h : n.steps a = some m) (b : List Char) :
    n.steps (a ++ b) = m.steps b := by
  induction a generalizing n with
  | nil =>
    cases h
    rfl
  | cons c cs ih =>
    rw [steps] at h
    rw [List.cons_append, steps]
    split at h
    case h_1 => exact ih h
    case h_2 => cases h

theorem steps_singleton (h : n.step c = .more m) : n.steps [c] = some m := by
  rw [steps, h]
  rfl

end Steps

theorem fits_eq_true {m d : Nat} (h : m * 10 + d < 2 ^ 64) : fits m d = true :=
  decide_eq_true h

/-! ## Significands -/

section Significand

variable {c : Char} {cs pre post : List Char}

/-- Digits before the point, the first of which is not zero. -/
theorem steps_whole (hc : c ≠ '0') (hd : ∀ d ∈ c :: cs, Digits.isDigit d = true)
    (h : Digits.ofDigits (c :: cs) < 2 ^ 64) :
    sign.steps (c :: cs) = some (.whole (Digits.ofDigits (c :: cs))) := by
  induction cs using List.reverseRecOn with
  | nil =>
    refine steps_singleton ?_
    simp [step, hc, hd c List.mem_cons_self, Digits.ofDigits]
  | append_singleton cs d ih =>
    rw [← List.cons_append, Digits.ofDigits_append_singleton] at h ⊢
    rw [← List.cons_append, List.forall_mem_append, List.forall_mem_singleton] at hd
    rw [steps_append_of_eq (ih hd.1 (by omega))]
    refine steps_singleton ?_
    simp only [step, hd.2, fits_eq_true h, if_true]

/-- Digits after the point. -/
theorem steps_fraction (hne : post ≠ []) (hd : ∀ d ∈ post, Digits.isDigit d = true)
    (h : Digits.ofDigits (pre ++ post) < 2 ^ 64) :
    (point (Digits.ofDigits pre) 0).steps post =
      some (.fraction (Digits.ofDigits (pre ++ post)) (-post.length)) := by
  induction post using List.reverseRecOn with
  | nil => exact absurd rfl hne
  | append_singleton post d ih =>
    rw [← List.append_assoc, Digits.ofDigits_append_singleton] at h ⊢
    rw [List.forall_mem_append, List.forall_mem_singleton] at hd
    have scale : (-((post ++ [d]).length : Nat) : Int) = -(post.length : Nat) - 1 := by
      rw [List.length_append, List.length_singleton]
      omega
    rw [scale]
    -- The first digit is read after the point, the others after a digit.
    by_cases first : post = []
    · subst first
      rw [List.append_nil] at h ⊢
      refine steps_singleton ?_
      simp only [step, hd.2, fits_eq_true h, if_true]
      rfl
    · rw [steps_append_of_eq (ih first hd.1 (by omega))]
      refine steps_singleton ?_
      simp only [step, hd.2, fits_eq_true h, if_true]

/-- Digits with a point between them, where the first one is zero only right before the point. -/
theorem steps_decimal (hpre : pre = ['0'] ∨ ∃ c cs, pre = c :: cs ∧ c ≠ '0') (hpost : post ≠ [])
    (hd : ∀ d ∈ pre ++ post, Digits.isDigit d = true)
    (h : Digits.ofDigits (pre ++ post) < 2 ^ 64) :
    sign.steps (pre ++ '.' :: post) =
      some (.fraction (Digits.ofDigits (pre ++ post)) (-post.length)) := by
  rw [List.forall_mem_append] at hd
  rw [← steps_fraction hpost hd.2 h]
  rcases hpre with rfl | ⟨c, cs, rfl, hc⟩
  · rfl
  · have le : Digits.ofDigits (c :: cs) ≤ Digits.ofDigits ((c :: cs) ++ post) := by
      rw [Digits.ofDigits_append]
      exact Nat.le_trans (Nat.le_mul_of_pos_right _ (Nat.pow_pos (by decide)))
        (Nat.le_add_right _ _)
    rw [steps_append_of_eq (steps_whole hc hd.1 (Nat.lt_of_le_of_lt le h))]
    rfl

end Significand

/-! ## Exponents -/

section Exponent

variable {m : Nat} {k : Int}

theorem steps_markSign_digits {down : Bool} {n : Nat} (h : n < 2 ^ 31) :
    (markSign m k down).steps (Digits.digits n) = some (.exponent m k down n) := by
  induction n using Digits.digits.induct with
  | case1 n hn =>
    rw [Digits.digits_of_lt hn]
    refine steps_singleton ?_
    simp only [step, Digits.isDigit_char hn, Digits.value_char hn, if_true]
  | case2 n hn ih =>
    have last : n % 10 < 10 := by omega
    have whole : n / 10 * 10 + n % 10 = n := by omega
    rw [Digits.digits_of_le (by omega), steps_append_of_eq (ih (by omega))]
    refine steps_singleton ?_
    simp only [step, Digits.isDigit_char last, Digits.value_char last, whole, if_true]
    exact if_pos h

/-- A negative exponent, however large, is no fault. -/
theorem steps_down_digits (m : Nat) (k : Int) (n : Nat) :
    ∃ t, (markSign m k true).steps (Digits.digits n) = some t ∧
      (t = .vanished ∨ ∃ e, t = .exponent m k true e) := by
  induction n using Digits.digits.induct with
  | case1 n hn => exact ⟨_, steps_markSign_digits (Nat.lt_trans hn (by decide)), .inr ⟨n, rfl⟩⟩
  | case2 n hn ih =>
    have last : n % 10 < 10 := by omega
    obtain ⟨t, ht, known⟩ := ih
    rw [Digits.digits_of_le (by omega), steps_append_of_eq ht]
    rcases known with rfl | ⟨e, rfl⟩
    · refine ⟨.vanished, steps_singleton ?_, .inl rfl⟩
      simp only [step, Digits.isDigit_char last, if_true]
    · by_cases small : e * 10 + n % 10 < 0x80000000
      · refine ⟨.exponent m k true (e * 10 + n % 10), steps_singleton ?_, .inr ⟨_, rfl⟩⟩
        simp only [step, Digits.isDigit_char last, Digits.value_char last, if_true, small]
      · refine ⟨.vanished, steps_singleton ?_, .inl rfl⟩
        simp [step, Digits.isDigit_char last, Digits.value_char last, small]

end Exponent

end Numeral

end Json

end GatewayDesk
