import GatewayDesk.Json.Numeral
import GatewayDesk.Proofs.Numeric.Shortest

/-!
# Scaling

A significand is scaled with a rounding for itself, one for the power of ten and one for the
product. Scaling down always gives a value, scaling up wherever the exact product, with the errors
of the first two roundings, stays below the overflow bound. The decimal that stands for a value
does, unless the value is one of the largest four. For those, scaling is carried out.

* `scaleBy_isSome`, `scaleBy_word_isSome`: what is scaled to a value.
* `scaleBy_of_isSome`: the decimal of a value is.
-/

namespace GatewayDesk

namespace Json

namespace Numeral

open Binary64 (overflow roundoff)
open Shortest (interval search strip)

theorem roundoff_nonneg : 0 ≤ roundoff := by
  unfold roundoff
  positivity

/-! ## Significands -/

/-- Scaling down comes to an end. -/
theorem scaleBy_neg_isSome (x : Binary64) {e : Int} (h : e < 0) : (scaleBy x e).isSome := by
  rw [scaleBy, if_neg (by omega)]
  split
  · rfl
  · split
    · rfl
    · exact scaleBy_neg_isSome _ (by omega)
termination_by (-e).toNat
decreasing_by omega

/-- Scaling up to less than the overflow bound, errors included, gives a value. -/
theorem scaleBy_isSome {m : Nat} (hm : m < 2 ^ 64) {e : Nat}
    (h : m * 10 ^ e * (1 + roundoff) ^ 2 < overflow) :
    (scaleBy (Binary64.ofWord false m) e).isSome := by
  have nonneg := roundoff_nonneg
  rw [scaleBy, if_pos (by omega)]
  split
  case isTrue few =>
    refine Binary64.mul?_isSome (lt_of_le_of_lt ?_ h)
    have left := Binary64.magnitude_ofWord_le hm
    have right := Binary64.magnitude_tenPow_le (k := e) (by omega)
    have := (Binary64.tenPow e).magnitude_nonneg
    calc (Binary64.ofWord false m).magnitude * (Binary64.tenPow (e : Int).toNat).magnitude
        ≤ (m * (1 + roundoff)) * (10 ^ e * (1 + roundoff)) := by
          rw [Int.toNat_natCast]
          gcongr
      _ = _ := by ring
  case isFalse many =>
    rcases Nat.eq_zero_or_pos m with rfl | some
    · rfl
    · refine absurd h (not_lt.2 ?_)
      have le : (10 : ℚ) ^ 309 ≤ 10 ^ e := pow_le_pow_right₀ (by norm_num) (by omega)
      have one : (1 : ℚ) ≤ m := by exact_mod_cast some
      have unit : (1 : ℚ) ≤ (1 + roundoff) ^ 2 := one_le_pow₀ (by linarith)
      calc overflow ≤ 10 ^ e := Binary64.overflow_lt.le.trans le
        _ ≤ m * 10 ^ e := le_mul_of_one_le_left (by positivity) one
        _ ≤ _ := le_mul_of_one_le_right (by positivity) unit

/-- A significand that is not scaled up gives a value. -/
theorem scaleBy_word_isSome {m : Nat} (hm : m < 2 ^ 64) {e : Int} (h : e ≤ 0) :
    (scaleBy (Binary64.ofWord false m) e).isSome := by
  rcases h.lt_or_eq with down | rfl
  · exact scaleBy_neg_isSome _ down
  · refine scaleBy_isSome (e := 0) hm (lt_of_le_of_lt ?_ Binary64.two_pow_lt_overflow)
    have word : (m : ℚ) ≤ 2 ^ 64 := by exact_mod_cast hm.le
    have unit : (1 + roundoff) ^ 2 ≤ 2 := by norm_num [roundoff]
    calc (m : ℚ) * 10 ^ 0 * (1 + roundoff) ^ 2 ≤ 2 ^ 64 * 1 * 2 := by
          rw [pow_zero]
          gcongr
      _ = 2 ^ 65 := by norm_num

/-! ## Decimals -/

variable {x : Binary64}

/-- Whether the decimal found for an interval with 309 digits before the point gives a value. -/
def scales (i : Shortest.Interval) : Bool :=
  let found := search i 308 1 16
  let decimal := strip found.coefficient found.exponent 20
  0 ≤ decimal.exponent && decimal.exponent ≤ 308 &&
    ((Binary64.ofWord false decimal.coefficient).mul?
      (Binary64.tenPow decimal.exponent.toNat)).isSome

/-- The four largest values. -/
def largest (k : Fin 4) : Binary64 := ⟨false, 2 ^ 53 - 4 + k, 971, by omega⟩

theorem scales_largest (k : Fin 4) : scales (interval (largest k)) = true := by
  decide +kernel +revert

theorem scaleBy_of_isSome_of_large (h : x.isZero = false) (he : x.exponent = 971)
    (large : 2 ^ 53 - 4 ≤ x.mantissa) :
    (scaleBy (Binary64.ofWord false (Shortest.of x).coefficient)
      (Shortest.of x).exponent).isSome := by
  have found : scales (interval x) = true := by
    have bound := x.canonical.1
    have same : x.mantissa = (largest ⟨x.mantissa - (2 ^ 53 - 4), by omega⟩).mantissa := by
      dsimp only [largest]
      omega
    rw [Shortest.interval_congr same he]
    exact scales_largest _
  have digits : (10 : ℚ) ^ 308 ≤ x.magnitude := by
    have le : 10 ^ 308 ≤ (2 ^ 53 - 4) * 2 ^ 971 := by decide +kernel
    have : 10 ^ 308 ≤ x.mantissa * 2 ^ 971 := le.trans (Nat.mul_le_mul_right _ large)
    rw [Binary64.magnitude, he]
    exact_mod_cast this
  rw [Shortest.of_eq h, Shortest.leading_of_le h digits]
  simp only [scales, Bool.and_eq_true, decide_eq_true_eq] at found
  obtain ⟨⟨low, high⟩, product⟩ := found
  rw [scaleBy, if_pos low, if_pos high]
  exact product

/-- Below the largest values the decimal stays below the overflow bound, errors included. -/
theorem scaleBy_of_isSome_of_le (h : x.isZero = false)
    (small : x.magnitude ≤ (2 ^ 53 - 5) * 2 ^ 971) :
    (scaleBy (Binary64.ofWord false (Shortest.of x).coefficient)
      (Shortest.of x).exponent).isSome := by
  rcases lt_or_ge (Shortest.of x).exponent 0 with down | up
  · exact scaleBy_neg_isSome _ down
  obtain ⟨e, he⟩ := Int.eq_ofNat_of_zero_le up
  have most : (Shortest.of x).value ≤ (2 ^ 53 - 5) * 2 ^ 971 * (1 + 1 / 2 ^ 52) := by
    rcases Shortest.value_of_le h with le | le
    · exact le.trans (by gcongr)
    · have one : (1 : ℚ) ≤ 2 ^ 971 := one_le_pow₀ one_le_two
      calc (Shortest.of x).value ≤ 2 := le
        _ ≤ (2 ^ 53 - 5) * 1 * (1 + 1 / 2 ^ 52) := by norm_num
        _ ≤ _ := by
          refine mul_le_mul_of_nonneg_right (mul_le_mul_of_nonneg_left one ?_) ?_
          · norm_num
          · norm_num
  have bound : overflow = (2 ^ 53 - 1 / 2) * 2 ^ 971 := by
    have twice : (2 : ℚ) ^ 54 - 1 = (2 ^ 53 - 1 / 2) * 2 := by norm_num
    rw [overflow, twice, mul_assoc, ← pow_succ']
  have factors : ((2 : ℚ) ^ 53 - 5) * (1 + 1 / 2 ^ 52) * (1 + roundoff) ^ 2 < 2 ^ 53 - 1 / 2 := by
    norm_num [roundoff]
  rw [Shortest.value, he, zpow_natCast] at most
  rw [he]
  refine scaleBy_isSome ((Shortest.coefficient_le h).trans_lt (by decide)) ?_
  calc (Shortest.of x).coefficient * (10 : ℚ) ^ e * (1 + roundoff) ^ 2
      ≤ (2 ^ 53 - 5) * 2 ^ 971 * (1 + 1 / 2 ^ 52) * (1 + roundoff) ^ 2 :=
        mul_le_mul_of_nonneg_right most (sq_nonneg _)
    _ = (2 ^ 53 - 5) * (1 + 1 / 2 ^ 52) * (1 + roundoff) ^ 2 * 2 ^ 971 := by
      rw [mul_right_comm _ ((2 : ℚ) ^ 971), mul_right_comm _ ((2 : ℚ) ^ 971)]
    _ < (2 ^ 53 - 1 / 2) * 2 ^ 971 := by gcongr
    _ = overflow := bound.symm

/-- The decimal that stands for a value is scaled to a value. -/
theorem scaleBy_of_isSome (h : x.isZero = false) :
    (scaleBy (Binary64.ofWord false (Shortest.of x).coefficient)
      (Shortest.of x).exponent).isSome := by
  by_cases large : x.exponent = 971 ∧ 2 ^ 53 - 4 ≤ x.mantissa
  · exact scaleBy_of_isSome_of_large h large.1 large.2
  refine scaleBy_of_isSome_of_le h ?_
  have mantissa := x.canonical.1
  unfold Binary64.magnitude
  by_cases last : x.exponent = 971
  · have le : (x.mantissa : ℚ) ≤ 2 ^ 53 - 5 := by
      have : x.mantissa ≤ 2 ^ 53 - 5 := by omega
      exact (Nat.cast_le.2 this).trans (by norm_num)
    have unit : (2 : ℚ) ^ (971 : Int) = 2 ^ 971 := zpow_natCast 2 971
    rw [last, unit]
    gcongr
  · have le : (x.mantissa : ℚ) ≤ 2 ^ 53 := by exact_mod_cast mantissa.le
    have wide : (2 : ℚ) ^ x.exponent ≤ 2 ^ 970 := by
      rw [← zpow_natCast]
      have := x.canonical.2.2.1
      exact zpow_le_zpow_right₀ one_le_two (by omega)
    calc (x.mantissa : ℚ) * 2 ^ x.exponent ≤ 2 ^ 53 * 2 ^ 970 := by gcongr
      _ ≤ ((2 ^ 53 - 5) * 2) * 2 ^ 970 := by gcongr; norm_num
      _ = _ := by rw [mul_assoc, ← pow_succ']

end Numeral

end Json

end GatewayDesk
