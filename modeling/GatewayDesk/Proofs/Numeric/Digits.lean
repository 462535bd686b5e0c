import GatewayDesk.Numeric.Digits
import Mathlib.Algebra.Group.Nat.Defs
import Mathlib.Data.List.Induction

/-!
# Digits read back

* `ofDigits_digits`: the digits of a natural spell that natural.
* `ofDigits_append`, `ofDigits_lt`: what rows of digits spell.
* `digits_eq_cons`: the first digit is zero only where it is the only one.
* `pow_length_le`, `lt_pow_length`: how large a natural of so many digits is.
* `ofList_decimal`: the text of an integer.
* `hexPadded_four`, `upperHexPadded_four`: a byte in four digits of base sixteen.
-/

namespace GatewayDesk

namespace Digits

/-! ## Single digits -/

theorem isDigit_char {d : Nat} (h : d < 10) : isDigit (char d) = true := by
  have all : ∀ d < 10, isDigit (char d) = true := by decide
  exact all d h

theorem value_char {d : Nat} (h : d < 10) : value (char d) = d := by
  have all : ∀ d < 10, value (char d) = d := by decide
  exact all d h

theorem value_lt {c : Char} (h : isDigit c = true) : value c < 10 := by
  have : 48 ≤ c.toNat ∧ c.toNat ≤ 57 := by simpa [isDigit] using h
  unfold value
  omega

theorem char_eq_zero {d : Nat} (h : d < 10) : char d = '0' ↔ d = 0 := by
  have all : ∀ d < 10, char d = '0' ↔ d = 0 := by decide
  exact all d h

theorem hexValue?_hexChar {d : Nat} (h : d < 16) : hexValue? (hexChar d) = some d := by
  have all : ∀ d < 16, hexValue? (hexChar d) = some d := by decide
  exact all d h

theorem hexValue?_upperHexChar {d : Nat} (h : d < 16) : hexValue? (upperHexChar d) = some d := by
  have all : ∀ d < 16, hexValue? (upperHexChar d) = some d := by decide
  exact all d h

theorem utf8Size_hexChar {d : Nat} (h : d < 16) : (hexChar d).utf8Size = 1 := by
  have all : ∀ d < 16, (hexChar d).utf8Size = 1 := by decide
  exact all d h

/-! ## Base ten -/

theorem digits_of_lt {n : Nat} (h : n < 10) : digits n = [char n] := by
  rw [digits, if_pos h]

theorem digits_of_le {n : Nat} (h : 10 ≤ n) :
    digits n = digits (n / 10) ++ [char (n % 10)] := by
  rw [digits, if_neg (by omega)]

theorem isDigit_of_mem_digits {n : Nat} {c : Char} (h : c ∈ digits n) : isDigit c = true := by
  induction n using digits.induct with
  | case1 n hn =>
    rw [digits_of_lt hn, List.mem_singleton] at h
    rw [h]; exact isDigit_char hn
  | case2 n hn ih =>
    rw [digits_of_le (by omega), List.mem_append, List.mem_singleton] at h
    rcases h with h | rfl
    · exact ih h
    · exact isDigit_char (by omega)

theorem ofDigits_append_singleton (cs : List Char) (c : Char) :
    ofDigits (cs ++ [c]) = ofDigits cs * 10 + value c := by
  simp [ofDigits]

theorem ofDigits_append (a b : List Char) :
    ofDigits (a ++ b) = ofDigits a * 10 ^ b.length + ofDigits b := by
  induction b using List.reverseRecOn with
  | nil => simp [ofDigits]
  | append_singleton b c ih =>
    rw [← List.append_assoc, ofDigits_append_singleton, ofDigits_append_singleton, ih,
      List.length_append, List.length_singleton, Nat.pow_succ, Nat.add_mul, Nat.mul_assoc,
      Nat.add_assoc]

theorem ofDigits_replicate (k : Nat) : ofDigits (List.replicate k '0') = 0 := by
  induction k with
  | zero => rfl
  | succ k ih => exact ih

/-- What digits spell is as small as their number says. -/
theorem ofDigits_lt {cs : List Char} (h : ∀ c ∈ cs, isDigit c = true) :
    ofDigits cs < 10 ^ cs.length := by
  induction cs using List.reverseRecOn with
  | nil => exact Nat.one_pos
  | append_singleton cs c ih =>
    rw [List.forall_mem_append, List.forall_mem_singleton] at h
    have := value_lt h.2
    have := ih h.1
    rw [ofDigits_append_singleton, List.length_append, List.length_singleton, Nat.pow_succ]
    omega

theorem ofDigits_digits (n : Nat) : ofDigits (digits n) = n := by
  induction n using digits.induct with
  | case1 n hn =>
    rw [digits_of_lt hn]
    simp [ofDigits, value_char hn]
  | case2 n hn ih =>
    rw [digits_of_le (by omega), ofDigits_append_singleton, ih, value_char (by omega)]
    omega

/-- The first digit is zero only where it is the only one. -/
theorem digits_eq_cons (n : Nat) : ∃ c cs, digits n = c :: cs ∧ (c = '0' → n = 0 ∧ cs = []) := by
  induction n using digits.induct with
  | case1 n hn => exact ⟨_, [], digits_of_lt hn, fun h => ⟨(char_eq_zero hn).1 h, rfl⟩⟩
  | case2 n hn ih =>
    obtain ⟨c, cs, hcs, hz⟩ := ih
    refine ⟨c, cs ++ [char (n % 10)], ?_, fun h => ?_⟩
    · rw [digits_of_le (by omega), hcs, List.cons_append]
    · have := (hz h).1
      omega

theorem length_digits_pos (n : Nat) : 0 < (digits n).length := by
  obtain ⟨c, cs, h, -⟩ := digits_eq_cons n
  rw [h]
  exact Nat.succ_pos _

/-- A natural is as large as its number of digits says. -/
theorem pow_length_le {n : Nat} (h : 0 < n) : 10 ^ ((digits n).length - 1) ≤ n := by
  induction n using digits.induct with
  | case1 n hn =>
    rw [digits_of_lt hn]
    exact h
  | case2 n hn ih =>
    obtain ⟨k, hk⟩ := Nat.exists_eq_add_one.2 (length_digits_pos (n / 10))
    have le := ih (by omega)
    rw [hk, Nat.add_sub_cancel] at le
    rw [digits_of_le (by omega), List.length_append, List.length_singleton, hk, Nat.add_sub_cancel,
      Nat.pow_succ]
    omega

theorem lt_pow_length (n : Nat) : n < 10 ^ (digits n).length := by
  induction n using digits.induct with
  | case1 n hn =>
    rw [digits_of_lt hn]
    exact hn
  | case2 n hn ih =>
    rw [digits_of_le (by omega), List.length_append, List.length_singleton, Nat.pow_succ]
    omega

/-- The digits of a natural are those that the library writes. -/
theorem digits_eq_toDigits (n : Nat) : digits n = Nat.toDigits 10 n := by
  have single : ∀ d < 10, char d = Nat.digitChar d := by decide
  induction n using digits.induct with
  | case1 n hn => rw [digits_of_lt hn, Nat.toDigits_of_lt_base hn, single n hn]
  | case2 n hn ih =>
    rw [digits_of_le (by omega), Nat.toDigits_of_base_le (by decide) (by omega), ih,
      single _ (by omega)]

/-- The text of an integer is the one that the library writes. -/
theorem ofList_decimal (z : Int) : String.ofList (decimal z) = toString z := by
  cases z with
  | ofNat n =>
    show String.ofList (digits n) = String.ofList (Nat.toDigits 10 n)
    rw [digits_eq_toDigits]
  | negSucc n =>
    have text : decimal (.negSucc n) = '-' :: digits n.succ := if_pos (Int.negSucc_lt_zero n)
    rw [Int.toString_eq_repr, Int.repr, Nat.repr_eq_ofList_toDigits, ← digits_eq_toDigits, text,
      ← String.toList_inj]
    simp only [String.toList_append, String.toList_ofList]
    rfl

/-! ## Base sixteen -/

theorem hex_of_lt {n : Nat} (h : n < 16) : hex n = [hexChar n] := by
  rw [hex, if_pos h]

theorem hex_of_le {n : Nat} (h : 16 ≤ n) : hex n = hex (n / 16) ++ [hexChar (n % 16)] := by
  rw [hex, if_neg (by omega)]

/-- A byte in four digits. -/
theorem hexPadded_four {n : Nat} (h : n < 256) :
    hexPadded 4 n = ['0', '0', hexChar (n / 16), hexChar (n % 16)] := by
  by_cases hn : n < 16
  · have h0 : n / 16 = 0 := by omega
    have h1 : n % 16 = n := by omega
    rw [h0, h1, hexPadded, hex_of_lt hn]
    rfl
  · rw [hexPadded, hex_of_le (by omega), hex_of_lt (by omega)]
    rfl

/-- A byte in four digits, in upper case. -/
theorem upperHexPadded_four {n : Nat} (h : n < 256) :
    upperHexPadded 4 n = ['0', '0', upperHexChar (n / 16), upperHexChar (n % 16)] := by
  have upper : ∀ d < 16, (if (hexChar d).toNat ≤ 57 then hexChar d
      else Char.ofNat ((hexChar d).toNat - 32)) = upperHexChar d := by decide
  rw [upperHexPadded, hexPadded_four h]
  simp only [List.map_cons, List.map_nil, upper (n / 16) (by omega), upper (n % 16) (by omega)]
  rfl

end Digits

end GatewayDesk
