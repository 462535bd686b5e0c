import GatewayDesk.Numeric.Binary64
import Mathlib.Algebra.Order.Field.Power
import Mathlib.Data.Nat.Log
import Mathlib.Tactic.FieldSimp
import Mathlib.Tactic.Linarith
import Mathlib.Tactic.NormNum
import Mathlib.Tactic.Positivity
import Mathlib.Tactic.Ring

/-!
# Rounding to 53 bits

* `ofRatio?_isSome`: a ratio below the largest value and half its last unit is rounded to a value.
* `magnitude_le_of_ofRatio?`: rounding adds no more than half a unit in the last place.
* `mul?_isSome`, `magnitude_ofWord_le`, `magnitude_tenPow_le`: what this says of products, of
  naturals and of powers of ten.
-/

namespace GatewayDesk

namespace Binary64

/-- The value without its sign. -/
def magnitude (x : Binary64) : ℚ := x.mantissa * (2 : ℚ) ^ x.exponent

/-- What is smaller is rounded to a finite value: the largest one and half a unit in its last
place. -/
def overflow : ℚ := (2 ^ 54 - 1) * 2 ^ 970

/-- The relative error of a rounding. -/
def roundoff : ℚ := 1 / 2 ^ 53

theorem overflow_eq : (2 : ℚ) ^ (1024 : Int) = overflow + 2 ^ 970 := by
  have split : (2 : ℚ) ^ (1024 : Int) = 2 ^ 54 * 2 ^ 970 := by
    rw [← pow_add]
    exact zpow_natCast 2 1024
  rw [split, overflow, sub_one_mul, sub_add_cancel]

theorem overflow_eq_natCast : overflow = (18014398509481983 * 2 ^ 970 : Nat) := by
  rw [overflow, Nat.cast_mul, Nat.cast_pow]
  norm_num only

theorem lt_overflow : (10 : ℚ) ^ 308 < overflow := by
  have lt : 10 ^ 308 < 18014398509481983 * 2 ^ 970 := by decide +kernel
  rw [overflow_eq_natCast]
  exact_mod_cast lt

theorem overflow_lt : overflow < (10 : ℚ) ^ 309 := by
  have lt : 18014398509481983 * 2 ^ 970 < 10 ^ 309 := by decide +kernel
  rw [overflow_eq_natCast]
  exact_mod_cast lt

theorem magnitude_nonneg (x : Binary64) : 0 ≤ x.magnitude := by
  unfold magnitude
  positivity

theorem magnitude_zero (negative : Bool) : (zero negative).magnitude = 0 := by
  simp [magnitude, zero]

theorem magnitude_lt (x : Binary64) : x.magnitude < (2 : ℚ) ^ 1024 := by
  have mantissa : (x.mantissa : ℚ) < 2 ^ 53 := by exact_mod_cast x.canonical.1
  have wide : (2 : ℚ) ^ x.exponent ≤ 2 ^ 971 := by
    rw [← zpow_natCast]
    exact zpow_le_zpow_right₀ one_le_two x.canonical.2.2.1
  calc x.magnitude < 2 ^ 53 * 2 ^ 971 := by
        unfold magnitude
        exact mul_lt_mul mantissa wide (by positivity) (by positivity)
    _ = _ := by rw [← pow_add]

/-! ## Ratios -/

theorem ratio_pos (x : Binary64) : 0 < x.ratio.2 := by
  unfold ratio
  split
  · exact Nat.one_pos
  · exact Nat.two_pow_pos _

theorem ratio_eq (x : Binary64) : (x.ratio.1 : ℚ) / x.ratio.2 = x.magnitude := by
  unfold ratio magnitude
  split
  case h_1 k h =>
    rw [h]
    simp
  case h_2 k h =>
    rw [h, zpow_negSucc, ← div_eq_mul_inv]
    simp

theorem scaled_pos {num den : Nat} (hd : 0 < den) (e : Int) : 0 < (scaled num den e).2 := by
  unfold scaled
  split
  · exact Nat.mul_pos hd (Nat.two_pow_pos _)
  · exact hd

theorem scaled_eq (num den : Nat) (e : Int) :
    ((scaled num den e).1 : ℚ) / (scaled num den e).2 = num / den / (2 : ℚ) ^ e := by
  unfold scaled
  split
  case h_1 k =>
    simp [div_div]
  case h_2 k =>
    rw [zpow_negSucc]
    simp
    ring

/-! ## Integers -/

theorem roundDiv_ge {num den k : Nat} (hd : 0 < den) (h : k * den ≤ num) :
    k ≤ roundDiv num den := by
  have : k ≤ num / den := (Nat.le_div_iff_mul_le hd).2 h
  unfold roundDiv
  dsimp only
  split
  · exact this
  · split
    · omega
    · split <;> omega

theorem roundDiv_le {num den k : Nat} (hd : 0 < den) (h : num < k * den) :
    roundDiv num den ≤ k := by
  have : num / den < k := (Nat.div_lt_iff_lt_mul hd).2 h
  unfold roundDiv
  dsimp only
  split
  · omega
  · split
    · omega
    · split <;> omega

/-- Rounding adds no more than a half. -/
theorem two_mul_roundDiv_le (num den : Nat) : 2 * roundDiv num den * den ≤ 2 * num + den := by
  have split := Nat.div_add_mod num den
  unfold roundDiv
  dsimp only
  have comm : num / den * den = den * (num / den) := Nat.mul_comm _ _
  have next : (num / den + 1) * den = num / den * den + den := Nat.succ_mul _ _
  split
  · rw [Nat.mul_assoc]
    omega
  · split
    · rw [Nat.mul_assoc]
      omega
    · split <;> rw [Nat.mul_assoc] <;> omega

/-! ## The unit in the last place -/

/-- A ratio lies between powers of two that its parts say. -/
theorem ratio_between {num den : Nat} (hn : 0 < num) (hd : 0 < den) :
    (2 : ℚ) ^ ((num.log2 : Int) - den.log2 - 1) ≤ num / den ∧
      (num : ℚ) / den < 2 ^ ((num.log2 : Int) - den.log2 + 1) := by
  have den_pos : (0 : ℚ) < den := by exact_mod_cast hd
  have low : ((2 : ℚ) ^ num.log2) ≤ num := by exact_mod_cast Nat.log2_self_le hn.ne'
  have high : (num : ℚ) < 2 ^ (num.log2 + 1) := by exact_mod_cast Nat.lt_log2_self
  have low' : ((2 : ℚ) ^ den.log2) ≤ den := by exact_mod_cast Nat.log2_self_le hd.ne'
  have high' : (den : ℚ) < 2 ^ (den.log2 + 1) := by exact_mod_cast Nat.lt_log2_self
  constructor
  · rw [le_div_iff₀ den_pos, sub_sub, zpow_sub₀ two_ne_zero, div_mul_eq_mul_div,
      div_le_iff₀ (by positivity)]
    exact mul_le_mul (by exact_mod_cast low) (by exact_mod_cast high'.le) den_pos.le (by positivity)
  · rw [div_lt_iff₀ den_pos]
    calc (num : ℚ) < 2 ^ (num.log2 + 1) := high
      _ = 2 ^ ((num.log2 : Int) - den.log2 + 1) * 2 ^ den.log2 := by
        rw [← zpow_natCast, ← zpow_natCast, ← zpow_add₀ two_ne_zero]
        congr 1
        push_cast
        ring
      _ ≤ _ := by gcongr

/-- The unit in the last place of a ratio is as small as 53 bits or the format allow. -/
theorem unitExponent_spec {num den : Nat} (hn : 0 < num) (hd : 0 < den) :
    (num : ℚ) / den < 2 ^ (unitExponent num den + 53) ∧ -1074 ≤ unitExponent num den ∧
      (unitExponent num den ≠ -1074 → (2 : ℚ) ^ (unitExponent num den + 52) ≤ num / den) := by
  obtain ⟨low, high⟩ := ratio_between hn hd
  unfold unitExponent
  dsimp only
  generalize hh : (num.log2 : Int) - den.log2 - 52 = h
  have low : (2 : ℚ) ^ (h + 51) ≤ num / den := by convert low using 2; omega
  have high : (num : ℚ) / den < 2 ^ (h + 53) := by convert high using 2; omega
  have wide {a b : Int} (hab : a ≤ b) : (2 : ℚ) ^ a ≤ 2 ^ b := zpow_le_zpow_right₀ one_le_two hab
  have whole : 0x10000000000000 ≤ (scaled num den h).1 / (scaled num den h).2 ↔
      (2 : ℚ) ^ (h + 52) ≤ num / den := by
    have pos : (0 : ℚ) < (scaled num den h).2 := by exact_mod_cast scaled_pos hd h
    rw [Nat.le_div_iff_mul_le (scaled_pos hd h), ← Nat.cast_le (α := ℚ), Nat.cast_mul,
      ← le_div_iff₀ pos, scaled_eq, le_div_iff₀ (by positivity), zpow_add₀ two_ne_zero, mul_comm]
    norm_num
  by_cases hw : 0x10000000000000 ≤ (scaled num den h).1 / (scaled num den h).2
  · rw [if_pos hw]
    refine ⟨high.trans_le (wide (by omega)), Int.le_max_left _ _, fun ne => ?_⟩
    have e : max (-1074) h = h := by omega
    rw [e]
    exact whole.1 hw
  · rw [if_neg hw]
    have high : (num : ℚ) / den < 2 ^ (h + 52) := not_le.1 fun le => hw (whole.2 le)
    refine ⟨high.trans_le (wide (by omega)), Int.le_max_left _ _, fun ne => ?_⟩
    have e : max (-1074) (h - 1) = h - 1 := by omega
    rw [e]
    convert low using 2
    omega

/-! ## Rounding -/

theorem ofParts?_isSome {negative : Bool} {m : Nat} {e : Int} (hm : m < 0x20000000000000)
    (low : -1074 ≤ e) (high : e ≤ 971) (normal : m < 0x10000000000000 → e = -1074) :
    (ofParts? negative m e).isSome := by
  rw [ofParts?, dif_pos ⟨hm, low, high, normal⟩]
  rfl

theorem magnitude_of_ofParts? {negative : Bool} {m : Nat} {e : Int} {x : Binary64}
    (h : ofParts? negative m e = some x) : x.magnitude = m * (2 : ℚ) ^ e := by
  unfold ofParts? at h
  split at h
  · cases h
    rfl
  · cases h

/-- The significand that a ratio is rounded to. -/
def significand (num den : Nat) : Nat :=
  roundDiv (scaled num den (unitExponent num den)).1 (scaled num den (unitExponent num den)).2

theorem ofRatio?_eq {num den : Nat} (hn : 0 < num) (negative : Bool) :
    ofRatio? negative num den =
      if significand num den == 0x20000000000000 then
        ofParts? negative 0x10000000000000 (unitExponent num den + 1)
      else ofParts? negative (significand num den) (unitExponent num den) := by
  have : (num == 0) = false := by simpa using hn.ne'
  rw [ofRatio?, this]
  rfl

theorem significand_le {num den : Nat} (hn : 0 < num) (hd : 0 < den) :
    significand num den ≤ 0x20000000000000 := by
  obtain ⟨high, -, -⟩ := unitExponent_spec hn hd
  have pos : (0 : ℚ) < (scaled num den (unitExponent num den)).2 := by
    exact_mod_cast scaled_pos hd _
  refine roundDiv_le (scaled_pos hd _) ?_
  rw [← Nat.cast_lt (α := ℚ), Nat.cast_mul, ← div_lt_iff₀ pos, scaled_eq,
    div_lt_iff₀ (by positivity)]
  rw [zpow_add₀ two_ne_zero, mul_comm] at high
  norm_num at high ⊢
  exact high

theorem le_significand {num den : Nat} (hn : 0 < num) (hd : 0 < den)
    (h : unitExponent num den ≠ -1074) : 0x10000000000000 ≤ significand num den := by
  obtain ⟨-, -, low⟩ := unitExponent_spec hn hd
  have pos : (0 : ℚ) < (scaled num den (unitExponent num den)).2 := by
    exact_mod_cast scaled_pos hd _
  refine roundDiv_ge (scaled_pos hd _) ?_
  rw [← Nat.cast_le (α := ℚ), Nat.cast_mul, ← le_div_iff₀ pos, scaled_eq,
    le_div_iff₀ (by positivity)]
  have low := low h
  rw [zpow_add₀ two_ne_zero, mul_comm] at low
  norm_num at low ⊢
  exact low

/-- The significand is off by no more than a half. -/
theorem significand_mul_le (num den : Nat) (hd : 0 < den) :
    (significand num den : ℚ) * 2 ^ unitExponent num den ≤
      num / den + 2 ^ unitExponent num den / 2 := by
  have pos : (0 : ℚ) < (scaled num den (unitExponent num den)).2 := by
    exact_mod_cast scaled_pos hd _
  have twice := two_mul_roundDiv_le (scaled num den (unitExponent num den)).1
    (scaled num den (unitExponent num den)).2
  have half : (significand num den : ℚ) ≤ num / den / 2 ^ unitExponent num den + 1 / 2 := by
    rw [← scaled_eq, ← sub_le_iff_le_add, le_div_iff₀ pos]
    have twice : (2 * significand num den * (scaled num den (unitExponent num den)).2 : ℚ) ≤
        2 * (scaled num den (unitExponent num den)).1 +
          (scaled num den (unitExponent num den)).2 := by exact_mod_cast twice
    linarith
  have unit : (0 : ℚ) < 2 ^ unitExponent num den := by positivity
  calc (significand num den : ℚ) * 2 ^ unitExponent num den
      ≤ (num / den / 2 ^ unitExponent num den + 1 / 2) * 2 ^ unitExponent num den := by gcongr
    _ = _ := by
      rw [add_mul, div_mul_cancel₀ _ unit.ne']
      ring

/-- Where a ratio is rounded to no value, it is as large as the overflow bound. -/
theorem ofRatio?_isSome {num den : Nat} (hd : 0 < den) (h : (num : ℚ) / den < overflow)
    (negative : Bool) : (ofRatio? negative num den).isSome := by
  rcases Nat.eq_zero_or_pos num with rfl | hn
  · rfl
  obtain ⟨-, lowest, low⟩ := unitExponent_spec hn hd
  have few : unitExponent num den ≤ 971 := by
    refine not_lt.1 fun many => ?_
    have wide : (2 : ℚ) ^ (1024 : Int) ≤ 2 ^ (unitExponent num den + 52) :=
      zpow_le_zpow_right₀ one_le_two (by omega)
    have large := (wide.trans (low (by omega))).trans_lt h
    rw [overflow_eq] at large
    exact absurd large (not_lt.2 (le_add_of_nonneg_right (by positivity)))
  rw [ofRatio?_eq hn]
  split
  case isTrue carry =>
    refine ofParts?_isSome (by decide) (by omega) ?_ (by omega)
    refine Classical.not_not.1 fun many => ?_
    have last : unitExponent num den = 971 := by omega
    have near := significand_mul_le num den hd
    have unit : (2 : ℚ) ^ (971 : Int) = 2 * 2 ^ 970 := by
      rw [← pow_succ']
      exact zpow_natCast 2 971
    have top : ((0x20000000000000 : Nat) : ℚ) * (2 * 2 ^ 970) = overflow + 2 ^ 970 := by
      rw [← overflow_eq, show (1024 : Int) = (54 + 970 : Nat) by rfl, zpow_natCast, pow_add,
        ← mul_assoc]
      norm_num
    rw [eq_of_beq carry, last, unit, top, mul_div_cancel_left₀ _ two_ne_zero] at near
    exact absurd h (not_lt.2 (le_of_add_le_add_right near))
  case isFalse carry =>
    refine ofParts?_isSome ?_ lowest few fun small => ?_
    · have := significand_le hn hd
      have : significand num den ≠ 0x20000000000000 := by simpa using carry
      omega
    · refine Classical.not_not.1 fun ne => ?_
      have := le_significand hn hd ne
      omega

/-- A ratio of one or more is rounded up by no more than the relative error. -/
theorem magnitude_le_of_ofRatio? {num den : Nat} (hd : 0 < den) (one : den ≤ num) {negative : Bool}
    {x : Binary64} (h : ofRatio? negative num den = some x) :
    x.magnitude ≤ num / den * (1 + roundoff) := by
  have hn : 0 < num := hd.trans_le one
  obtain ⟨-, -, low⟩ := unitExponent_spec hn hd
  have value : x.magnitude = significand num den * 2 ^ unitExponent num den := by
    rw [ofRatio?_eq hn] at h
    split at h
    case isTrue carry =>
      rw [magnitude_of_ofParts? h, eq_of_beq carry, zpow_add₀ two_ne_zero]
      norm_num
      ring
    case isFalse => exact magnitude_of_ofParts? h
  have unit : (2 : ℚ) ^ unitExponent num den / 2 ≤ num / den * roundoff := by
    have least : (2 : ℚ) ^ unitExponent num den * 2 ^ 52 ≤ num / den := by
      by_cases he : unitExponent num den = -1074
      · have whole : (1 : ℚ) ≤ num / den := by
          rw [one_le_div (by exact_mod_cast hd)]
          exact_mod_cast one
        refine le_trans ?_ whole
        rw [he, ← zpow_natCast, ← zpow_add₀ two_ne_zero]
        exact zpow_le_one_of_nonpos₀ one_le_two (by norm_num)
      · have := low he
        rw [zpow_add₀ two_ne_zero] at this
        exact_mod_cast this
    unfold roundoff
    linarith
  rw [value, mul_add, mul_one]
  exact (significand_mul_le num den hd).trans (by linarith)

/-! ## Products -/

/-- A product that stays below the overflow bound is a value. -/
theorem mul?_isSome {x y : Binary64} (h : x.magnitude * y.magnitude < overflow) :
    (x.mul? y).isSome := by
  refine ofRatio?_isSome (Nat.mul_pos x.ratio_pos y.ratio_pos) ?_ _
  rw [← ratio_eq, ← ratio_eq, div_mul_div_comm] at h
  exact_mod_cast h

theorem two_pow_lt_overflow : (2 : ℚ) ^ 65 < overflow := by
  refine lt_of_le_of_lt ?_ lt_overflow
  calc (2 : ℚ) ^ 65 ≤ 10 ^ 20 := by norm_num
    _ ≤ _ := pow_le_pow_right₀ (by norm_num) (by norm_num)

/-- A natural of 64 bits is rounded up by no more than the relative error. -/
theorem magnitude_ofWord_le {m : Nat} (h : m < 2 ^ 64) :
    (ofWord false m).magnitude ≤ m * (1 + roundoff) := by
  rcases Nat.eq_zero_or_pos m with rfl | some
  · exact (magnitude_zero false).le.trans (by simp)
  · have small : (m : ℚ) / (1 : Nat) < overflow := by
      have word : (m : ℚ) < 2 ^ 64 := by exact_mod_cast h
      rw [Nat.cast_one, div_one]
      exact (word.trans (by norm_num)).trans two_pow_lt_overflow
    obtain ⟨x, hx⟩ := Option.isSome_iff_exists.1 (ofRatio?_isSome Nat.one_pos small false)
    rw [ofWord, hx, Option.getD_some]
    simpa using magnitude_le_of_ofRatio? Nat.one_pos some hx

/-- A power of ten that the format holds is, too. -/
theorem magnitude_tenPow_le {k : Nat} (h : k ≤ 308) :
    (tenPow k).magnitude ≤ 10 ^ k * (1 + roundoff) := by
  have small : ((Nat.pow 10 k : Nat) : ℚ) / (1 : Nat) < overflow := by
    have le : (10 : ℚ) ^ k ≤ 10 ^ 308 := pow_le_pow_right₀ (by norm_num) h
    rw [Nat.cast_one, div_one]
    exact_mod_cast le.trans_lt lt_overflow
  obtain ⟨x, hx⟩ := Option.isSome_iff_exists.1 (ofRatio?_isSome Nat.one_pos small false)
  rw [tenPow, hx, Option.getD_some]
  simpa using magnitude_le_of_ofRatio? Nat.one_pos (Nat.one_le_pow _ _ (by decide)) hx

end Binary64

end GatewayDesk
