import GatewayDesk.Numeric.Shortest
import GatewayDesk.Proofs.Numeric.Digits
import GatewayDesk.Proofs.Numeric.Rounding

/-!
# The size of shortest decimals

The decimal that stands for a value has 17 digits and is hardly larger than the value.

* `coefficient_pos`, `coefficient_le`: it is not zero, and how many digits it has.
* `value_of_le`: by how much it may be larger.
* `length_add_exponent_lt`: its leading digit stands for a power of ten that the format holds.
-/

namespace GatewayDesk

namespace Shortest

/-- The value of a decimal. -/
def value (s : Shortest) : ℚ := s.coefficient * (10 : ℚ) ^ s.exponent

/-! ## Intervals -/

theorem interval_pos (x : Binary64) : 0 < (interval x).denominator := by
  unfold interval
  dsimp only
  split
  · exact Nat.succ_pos 3
  · exact Nat.mul_pos (Nat.succ_pos 3) (Nat.two_pow_pos _)

theorem interval_value (x : Binary64) :
    ((interval x).value : ℚ) / (interval x).denominator = x.magnitude := by
  unfold interval Binary64.magnitude
  dsimp only
  split
  case h_1 k h =>
    rw [h]
    split <;> simp <;> ring
  case h_2 k h =>
    rw [h, zpow_negSucc]
    split <;> simp <;> field_simp

theorem interval_high (x : Binary64) :
    ((interval x).high : ℚ) / (interval x).denominator =
      x.magnitude + 2 ^ x.exponent / 2 := by
  unfold interval Binary64.magnitude
  dsimp only
  split
  case h_1 k h =>
    rw [h]
    split <;> simp <;> ring
  case h_2 k h =>
    rw [h, zpow_negSucc]
    split <;> simp <;> field_simp <;> ring

theorem interval_low_pos {x : Binary64} (h : x.isZero = false) : 0 < (interval x).low := by
  have some : x.mantissa ≠ 0 := by simpa [Binary64.isZero] using h
  unfold interval
  dsimp only
  split
  · split
    · exact Nat.mul_pos (by omega) (Nat.two_pow_pos _)
    · exact Nat.mul_pos (by omega) (Nat.two_pow_pos _)
  · split <;> dsimp only <;> omega

theorem interval_value_pos {x : Binary64} (h : x.isZero = false) : 0 < (interval x).value := by
  have some : x.mantissa ≠ 0 := by simpa [Binary64.isZero] using h
  unfold interval
  dsimp only
  split
  · split
    · exact Nat.mul_pos (by omega) (Nat.two_pow_pos _)
    · exact Nat.mul_pos (by omega) (Nat.two_pow_pos _)
  · split <;> dsimp only <;> omega

namespace Interval

variable {i : Interval}

theorem le_of_holds (hd : 0 < i.denominator) {c : Nat} {e : Int} (h : i.holds c e = true) :
    (c : ℚ) * 10 ^ e ≤ i.high / i.denominator := by
  have pos : (0 : ℚ) < i.denominator := by exact_mod_cast hd
  cases e with
  | ofNat k =>
    have le : c * 10 ^ k * i.denominator ≤ i.high := by
      simp only [holds, Nat.mul_one] at h
      split at h <;> simp only [Bool.and_eq_true, decide_eq_true_eq] at h
      · exact h.2
      · exact h.2.le
    rw [Int.ofNat_eq_natCast, zpow_natCast, le_div_iff₀ pos]
    exact_mod_cast le
  | negSucc k =>
    have le : c * i.denominator ≤ i.high * 10 ^ (k + 1) := by
      simp only [holds] at h
      split at h <;> simp only [Bool.and_eq_true, decide_eq_true_eq] at h
      · exact h.2
      · exact h.2.le
    rw [zpow_negSucc, ← div_eq_mul_inv, div_le_div_iff₀ (by positivity) pos]
    exact_mod_cast le

theorem pos_of_holds (low : 0 < i.low) {c : Nat} {e : Int} (h : i.holds c e = true) : 0 < c := by
  refine Nat.pos_of_ne_zero fun zero => ?_
  subst zero
  have ten (k : Nat) : 0 < i.low * 10 ^ k := by positivity
  cases e with
  | ofNat k =>
    simp only [holds, Nat.zero_mul, Nat.mul_one] at h
    split at h
    · simp at h
      omega
    · simp at h
  | negSucc k =>
    have := ten (k + 1)
    simp only [holds, Nat.zero_mul] at h
    split at h
    · simp at h
      omega
    · simp at h

theorem floor_le (hd : 0 < i.denominator) (e : Int) :
    ((i.floor e).1 : ℚ) * 10 ^ e ≤ i.value / i.denominator := by
  have pos : (0 : ℚ) < i.denominator := by exact_mod_cast hd
  cases e with
  | ofNat k =>
    have le : i.value / (i.denominator * 10 ^ k) * (i.denominator * 10 ^ k) ≤ i.value :=
      Nat.div_mul_le_self _ _
    rw [Int.ofNat_eq_natCast, zpow_natCast, le_div_iff₀ pos, mul_assoc, mul_comm (10 ^ k : ℚ)]
    exact_mod_cast le
  | negSucc k =>
    have le : i.value * 10 ^ (k + 1) / i.denominator * i.denominator ≤ i.value * 10 ^ (k + 1) :=
      Nat.div_mul_le_self _ _
    rw [zpow_negSucc, ← div_eq_mul_inv, div_le_div_iff₀ (by positivity) pos]
    exact_mod_cast le

theorem lt_floor (hd : 0 < i.denominator) (e : Int) :
    (i.value : ℚ) / i.denominator < ((i.floor e).1 + 1) * 10 ^ e := by
  have pos : (0 : ℚ) < i.denominator := by exact_mod_cast hd
  cases e with
  | ofNat k =>
    have lt : i.value < (i.value / (i.denominator * 10 ^ k) + 1) * (i.denominator * 10 ^ k) := by
      rw [mul_comm]
      exact Nat.lt_mul_div_succ _ (by positivity)
    rw [Int.ofNat_eq_natCast, zpow_natCast, div_lt_iff₀ pos, mul_assoc, mul_comm (10 ^ k : ℚ)]
    exact_mod_cast lt
  | negSucc k =>
    have lt : i.value * 10 ^ (k + 1) <
        (i.value * 10 ^ (k + 1) / i.denominator + 1) * i.denominator := by
      rw [mul_comm _ i.denominator]
      exact Nat.lt_mul_div_succ _ hd
    rw [zpow_negSucc, ← div_eq_mul_inv, div_lt_div_iff₀ pos (by positivity)]
    exact_mod_cast lt

/-- The leading digit of a value stands for no more than the value. -/
theorem leading_le (hd : 0 < i.denominator) (hv : 0 < i.value) :
    (10 : ℚ) ^ i.leading ≤ i.value / i.denominator := by
  have pos : (0 : ℚ) < i.denominator := by exact_mod_cast hd
  unfold leading
  dsimp only
  split
  case isTrue whole =>
    have some : 0 < i.value / i.denominator := Nat.div_pos whole hd
    have le : 10 ^ ((Digits.digits (i.value / i.denominator)).length - 1) * i.denominator ≤
        i.value :=
      (Nat.mul_le_mul_right _ (Digits.pow_length_le some)).trans (Nat.div_mul_le_self _ _)
    rw [le_div_iff₀ pos, ← Nat.cast_pred (Digits.length_digits_pos _), zpow_natCast]
    exact_mod_cast le
  case isFalse =>
    obtain ⟨k, hk⟩ := Nat.exists_eq_add_one.2 (Digits.length_digits_pos (i.denominator / i.value))
    rw [hk, Nat.add_sub_cancel]
    split
    case isTrue le =>
      have e : (1 : Int) - (k + 1 : Nat) = -(k : Int) := by omega
      rw [e, zpow_neg, zpow_natCast, inv_le_iff_one_le_mul₀ (by positivity), div_mul_eq_mul_div,
        one_le_div pos]
      exact_mod_cast le
    case isFalse =>
      have lt : i.denominator < i.value * 10 ^ (k + 1) := by
        rw [← hk, mul_comm]
        exact (Nat.div_lt_iff_lt_mul hv).1 (Digits.lt_pow_length _)
      rw [zpow_neg, zpow_natCast, inv_le_iff_one_le_mul₀ (by positivity), div_mul_eq_mul_div,
        one_le_div pos]
      exact_mod_cast lt.le

/-- A value is less than the next power of ten. -/
theorem lt_leading (hd : 0 < i.denominator) (hv : 0 < i.value) :
    (i.value : ℚ) / i.denominator < 10 ^ (i.leading + 1) := by
  have pos : (0 : ℚ) < i.denominator := by exact_mod_cast hd
  unfold leading
  dsimp only
  split
  case isTrue whole =>
    have lt : i.value < 10 ^ (Digits.digits (i.value / i.denominator)).length * i.denominator :=
      (Nat.div_lt_iff_lt_mul hd).1 (Digits.lt_pow_length _)
    rw [div_lt_iff₀ pos, sub_add_cancel, zpow_natCast]
    exact_mod_cast lt
  case isFalse part =>
    obtain ⟨k, hk⟩ := Nat.exists_eq_add_one.2 (Digits.length_digits_pos (i.denominator / i.value))
    have some : 0 < i.denominator / i.value := Nat.div_pos (by omega) hv
    have ge : 10 ^ k * i.value ≤ i.denominator := by
      have := Digits.pow_length_le some
      rw [hk, Nat.add_sub_cancel] at this
      exact (Nat.mul_le_mul_right _ this).trans (Nat.div_mul_le_self _ _)
    rw [hk, Nat.add_sub_cancel]
    split
    case isTrue le =>
      have e : (1 : Int) - (k + 1 : Nat) + 1 = -(k : Int) + 1 := by omega
      have ge : (10 : ℚ) ^ k * i.value ≤ i.denominator := by exact_mod_cast ge
      have quotient : (i.value : ℚ) / i.denominator ≤ 10 ^ (-(k : Int)) := by
        rw [zpow_neg, zpow_natCast, div_le_iff₀ pos, ← div_eq_inv_mul, le_div_iff₀ (by positivity),
          mul_comm]
        exact ge
      rw [e]
      exact quotient.trans_lt (zpow_lt_zpow_right₀ (by norm_num) (by omega))
    case isFalse gt =>
      have e : -((k + 1 : Nat) : Int) + 1 = -(k : Int) := by omega
      rw [e, zpow_neg, zpow_natCast, div_lt_iff₀ pos, ← div_eq_inv_mul, lt_div_iff₀ (by positivity)]
      exact_mod_cast not_le.1 gt

theorem floor_lt (hd : 0 < i.denominator) (hv : 0 < i.value) (count : Nat) :
    (i.floor (i.leading - count + 1)).1 < 10 ^ count := by
  have lt : ((i.floor (i.leading - count + 1)).1 : ℚ) * 10 ^ (i.leading - count + 1) <
      10 ^ count * 10 ^ (i.leading - count + 1) := by
    refine ((floor_le hd _).trans_lt (lt_leading hd hv)).trans_eq ?_
    rw [← zpow_natCast, ← zpow_add₀ (by norm_num)]
    congr 1
    ring
  exact_mod_cast lt_of_mul_lt_mul_right lt (by positivity)

end Interval

/-! ## The search -/

/-- The two neighbours of a value are tried before more digits. -/
theorem search_eq (i : Interval) (leading : Int) (count fuel : Nat) :
    ∃ first second : Nat, (i.floor (leading - count + 1)).1 ≤ first ∧
      first ≤ (i.floor (leading - count + 1)).1 + 1 ∧
      second ≤ (i.floor (leading - count + 1)).1 + 1 ∧
      search i leading count fuel =
        if i.holds first (leading - count + 1) then ⟨first, leading - count + 1⟩
        else if i.holds second (leading - count + 1) then ⟨second, leading - count + 1⟩
        else
          match fuel with
          | 0 => ⟨first, leading - count + 1⟩
          | fuel + 1 => search i leading (count + 1) fuel := by
  rcases hf : i.floor (leading - count + 1) with ⟨below, up⟩
  refine ⟨if up then below + 1 else below, if up then below else below + 1, ?_, ?_, ?_, ?_⟩
  · split <;> omega
  · split <;> omega
  · split <;> omega
  · cases fuel <;> rw [search, hf]

theorem search_le {i : Interval} (hd : 0 < i.denominator) (leading : Int) (count fuel : Nat) :
    (search i leading count fuel).value ≤ i.high / i.denominator ∨
      (search i leading count fuel).value ≤
        i.value / i.denominator + 10 ^ (leading - (count + fuel : Nat) + 1) := by
  have near (e : Int) (first : Nat) (h : first ≤ (i.floor e).1 + 1) :
      (first : ℚ) * 10 ^ e ≤ i.value / i.denominator + 10 ^ e := by
    have le : (first : ℚ) ≤ (i.floor e).1 + 1 := by exact_mod_cast h
    calc (first : ℚ) * 10 ^ e ≤ ((i.floor e).1 + 1) * 10 ^ e := by gcongr
      _ = (i.floor e).1 * 10 ^ e + 10 ^ e := by ring
      _ ≤ _ := by gcongr; exact Interval.floor_le hd e
  induction fuel generalizing count with
  | zero =>
    obtain ⟨first, second, -, le, -, tried⟩ := search_eq i leading count 0
    rw [tried]
    split
    case isTrue h => exact .inl (Interval.le_of_holds hd h)
    · split
      case isTrue h => exact .inl (Interval.le_of_holds hd h)
      · exact .inr (near _ first le)
  | succ fuel ih =>
    obtain ⟨first, second, -, -, -, tried⟩ := search_eq i leading count (fuel + 1)
    rw [tried]
    split
    case isTrue h => exact .inl (Interval.le_of_holds hd h)
    · split
      case isTrue h => exact .inl (Interval.le_of_holds hd h)
      · have later := ih (count + 1)
        rwa [Nat.add_right_comm, Nat.add_assoc] at later

/-- The search finds no zero. -/
theorem search_pos {i : Interval} (hd : 0 < i.denominator) (low : 0 < i.low) {leading : Int}
    (hl : (10 : ℚ) ^ leading ≤ i.value / i.denominator) {count : Nat} (hc : 0 < count)
    (fuel : Nat) : 0 < (search i leading count fuel).coefficient := by
  induction fuel generalizing count with
  | zero =>
    have some : 0 < (i.floor (leading - count + 1)).1 := by
      have lt := hl.trans_lt (Interval.lt_floor hd (leading - count + 1))
      have le : (10 : ℚ) ^ (leading - count + 1) ≤ 10 ^ leading :=
        zpow_le_zpow_right₀ (by norm_num) (by omega)
      have one : (1 : ℚ) * 10 ^ leading <
          ((i.floor (leading - count + 1)).1 + 1) * 10 ^ leading := by
        rw [one_mul]
        exact lt.trans_le (by gcongr)
      have := lt_of_mul_lt_mul_right one (by positivity)
      exact_mod_cast (by linarith : (0 : ℚ) < (i.floor (leading - count + 1)).1)
    obtain ⟨first, second, ge, -, -, tried⟩ := search_eq i leading count 0
    rw [tried]
    split
    case isTrue h => exact Interval.pos_of_holds low h
    · split
      case isTrue h => exact Interval.pos_of_holds low h
      · exact some.trans_le ge
  | succ fuel ih =>
    obtain ⟨first, second, -, -, -, tried⟩ := search_eq i leading count (fuel + 1)
    rw [tried]
    split
    case isTrue h => exact Interval.pos_of_holds low h
    · split
      case isTrue h => exact Interval.pos_of_holds low h
      · exact ih (Nat.succ_pos count)

/-- The search finds as many digits as it has tried. -/
theorem search_coefficient_le {i : Interval} (hd : 0 < i.denominator) (hv : 0 < i.value)
    (count fuel : Nat) : (search i i.leading count fuel).coefficient ≤ 10 ^ (count + fuel) := by
  have near {n : Nat} (h : n ≤ (i.floor (i.leading - count + 1)).1 + 1) : n ≤ 10 ^ count :=
    h.trans (Interval.floor_lt hd hv count)
  induction fuel generalizing count with
  | zero =>
    obtain ⟨first, second, -, hf, hs, tried⟩ := search_eq i i.leading count 0
    rw [tried]
    split
    · exact near hf
    · split
      · exact near hs
      · exact near hf
  | succ fuel ih =>
    have wide : 10 ^ count ≤ 10 ^ (count + (fuel + 1)) :=
      Nat.pow_le_pow_right (by decide) (Nat.le_add_right _ _)
    obtain ⟨first, second, -, hf, hs, tried⟩ := search_eq i i.leading count (fuel + 1)
    rw [tried]
    split
    · exact (near hf).trans wide
    · split
      · exact (near hs).trans wide
      · have later := ih (count + 1) fun h => h.trans (Interval.floor_lt hd hv _)
        rwa [Nat.add_assoc, Nat.add_comm 1] at later

theorem strip_le (c : Nat) (e : Int) (fuel : Nat) : (strip c e fuel).coefficient ≤ c := by
  induction fuel generalizing c e with
  | zero => exact le_rfl
  | succ fuel ih =>
    rw [strip]
    split
    · exact (ih _ _).trans (Nat.div_le_self _ _)
    · exact le_rfl

theorem strip_pos {c : Nat} (h : 0 < c) (e : Int) (fuel : Nat) :
    0 < (strip c e fuel).coefficient := by
  induction fuel generalizing c e with
  | zero => exact h
  | succ fuel ih =>
    rw [strip]
    split
    case isTrue more =>
      obtain ⟨zero, -⟩ := Bool.and_eq_true_iff.1 more
      have := eq_of_beq zero
      exact ih (by omega) _
    case isFalse => exact h

theorem value_strip (c : Nat) (e : Int) (fuel : Nat) : (strip c e fuel).value = c * 10 ^ e := by
  induction fuel generalizing c e with
  | zero => rfl
  | succ fuel ih =>
    rw [strip]
    split
    case isTrue h =>
      obtain ⟨zero, -⟩ := Bool.and_eq_true_iff.1 h
      have whole : (c : ℚ) = (c / 10 : Nat) * 10 := by
        have := Nat.div_add_mod c 10
        rw [eq_of_beq zero] at this
        exact_mod_cast (by omega : c = c / 10 * 10)
      rw [ih, whole, zpow_add₀ (by norm_num), zpow_one]
      ring
    case isFalse => rfl

/-! ## Shortest decimals -/

theorem leading_le (x : Binary64) (h : x.isZero = false) :
    (10 : ℚ) ^ (interval x).leading ≤ x.magnitude := by
  rw [← interval_value]
  exact Interval.leading_le (interval_pos x) (interval_value_pos h)

theorem of_eq {x : Binary64} (h : x.isZero = false) :
    of x = strip (search (interval x) (interval x).leading 1 16).coefficient
      (search (interval x) (interval x).leading 1 16).exponent 20 := by
  rw [of, h]
  rfl

theorem coefficient_pos {x : Binary64} (h : x.isZero = false) : 0 < (of x).coefficient := by
  rw [of_eq h]
  exact strip_pos (search_pos (interval_pos x) (interval_low_pos h)
    (Interval.leading_le (interval_pos x) (interval_value_pos h)) Nat.one_pos 16) _ 20

theorem lt_leading (x : Binary64) (h : x.isZero = false) :
    x.magnitude < (10 : ℚ) ^ ((interval x).leading + 1) := by
  rw [← interval_value]
  exact Interval.lt_leading (interval_pos x) (interval_value_pos h)

/-- A decimal has 17 digits, or it is the power of ten after them. -/
theorem coefficient_le {x : Binary64} (h : x.isZero = false) : (of x).coefficient ≤ 10 ^ 17 := by
  rw [of_eq h]
  exact (strip_le _ _ _).trans (search_coefficient_le (interval_pos x) (interval_value_pos h) 1 16)

/-- The decimal of a value is hardly larger than the value, or it is small. -/
theorem value_of_le {x : Binary64} (h : x.isZero = false) :
    (of x).value ≤ x.magnitude * (1 + 1 / 2 ^ 52) ∨ (of x).value ≤ 2 := by
  have decimal : (of x).value = (search (interval x) (interval x).leading 1 16).value := by
    rw [of_eq h]
    exact value_strip _ _ _
  have bound := search_le (interval_pos x) (interval x).leading 1 16
  rw [interval_value, interval_high] at bound
  rw [decimal]
  have nonneg := x.magnitude_nonneg
  rcases bound with high | digits
  · by_cases normal : 0x10000000000000 ≤ x.mantissa
    · left
      have unit : (2 : ℚ) ^ x.exponent * 2 ^ 52 ≤ x.magnitude := by
        unfold Binary64.magnitude
        rw [mul_comm]
        have : (2 : ℚ) ^ 52 ≤ x.mantissa := by exact_mod_cast normal
        gcongr
      linarith
    · right
      have least : x.exponent = -1074 := x.canonical.2.2.2 (by omega)
      have tiny : (2 : ℚ) ^ x.exponent * 2 ^ 52 ≤ 1 := by
        rw [least, ← zpow_natCast, ← zpow_add₀ two_ne_zero]
        exact zpow_le_one_of_nonpos₀ one_le_two (by norm_num)
      have small : x.magnitude ≤ 2 ^ x.exponent * 2 ^ 52 := by
        unfold Binary64.magnitude
        rw [mul_comm]
        have : (x.mantissa : ℚ) ≤ 2 ^ 52 := by exact_mod_cast (by omega)
        gcongr
      have : (0 : ℚ) < 2 ^ x.exponent := by positivity
      linarith
  · left
    have grid : (10 : ℚ) ^ ((interval x).leading - (1 + 16 : Nat) + 1) =
        10 ^ (interval x).leading / 10 ^ 16 := by
      rw [← zpow_natCast, ← zpow_sub₀ (by norm_num)]
      congr 1
      push_cast
      ring
    have most := leading_le x h
    rw [grid] at digits
    linarith

theorem value_of_lt {x : Binary64} (h : x.isZero = false) : (of x).value < (10 : ℚ) ^ 309 := by
  have wide : (2 : ℚ) ^ 1024 * 2 < 10 ^ 309 := by
    have lt : (2 ^ 1024 * 2 : Nat) < 10 ^ 309 := by decide +kernel
    exact_mod_cast lt
  refine lt_of_le_of_lt ?_ wide
  rcases value_of_le h with le | le
  · refine le.trans (mul_le_mul x.magnitude_lt.le ?_ (by positivity) (by positivity))
    norm_num
  · exact le.trans (le_mul_of_one_le_left two_pos.le (one_le_pow₀ one_le_two))

/-- The leading digit of a decimal stands for a power of ten that the format holds. -/
theorem length_add_exponent_lt {x : Binary64} (h : x.isZero = false) :
    ((Digits.digits (of x).coefficient).length : Int) + (of x).exponent - 1 < 309 := by
  obtain ⟨k, hk⟩ := Nat.exists_eq_add_one.2 (Digits.length_digits_pos (of x).coefficient)
  have digits : (10 : ℚ) ^ k ≤ (of x).coefficient := by
    have le := Digits.pow_length_le (coefficient_pos h)
    rw [hk, Nat.add_sub_cancel] at le
    exact_mod_cast le
  have power : (10 : ℚ) ^ ((k : Int) + (of x).exponent) ≤ (of x).value := by
    rw [zpow_add₀ (by norm_num), zpow_natCast, value]
    gcongr
  have lt : (10 : ℚ) ^ ((k : Int) + (of x).exponent) < 10 ^ (309 : Int) :=
    power.trans_lt (value_of_lt h)
  have := (zpow_lt_zpow_iff_right₀ (by norm_num)).1 lt
  omega

/-! ## The largest values -/

theorem interval_congr {x y : Binary64} (hm : x.mantissa = y.mantissa)
    (he : x.exponent = y.exponent) : interval x = interval y := by
  unfold interval
  rw [hm, he]

/-- The values from `10 ^ 308` on have 309 digits before the point. -/
theorem leading_of_le {x : Binary64} (some : x.isZero = false)
    (h : (10 : ℚ) ^ 308 ≤ x.magnitude) : (interval x).leading = 308 := by
  have low : (10 : ℚ) ^ (308 : Int) < 10 ^ ((interval x).leading + 1) :=
    lt_of_le_of_lt h (lt_leading x some)
  have high : (10 : ℚ) ^ (interval x).leading < 10 ^ (309 : Int) := by
    have lt : (2 ^ 1024 : Nat) < 10 ^ 309 := by decide +kernel
    refine (leading_le x some).trans_lt (x.magnitude_lt.trans ?_)
    exact_mod_cast lt
  have := (zpow_lt_zpow_iff_right₀ (by norm_num)).1 low
  have := (zpow_lt_zpow_iff_right₀ (by norm_num)).1 high
  omega

end Shortest

end GatewayDesk
