import GatewayDesk.Proofs.Json.Reading
import GatewayDesk.Proofs.Json.Scaling

/-!
# Numbers that are read again

The text of every number is one numeral, which denotes a number: an integer denotes itself, and a
fraction is what scaling makes of its decimal. So every number is read, in every place as its text
alone is.

* `Json.Number.reread`: what a number is read as.
* `steps_scientific`: the numeral that the text of a fraction is.
* `readsAs_reread`: a number reads in every place as what it is read as on its own.
* `isStable_of_isInteger`: an integer is read as itself.
-/

namespace GatewayDesk

/-! ## Texts of fractions -/

namespace FloatText

/-- A text with a point has a digit before it, which is zero only alone, and one after it. -/
theorem withPoint_eq {c : Nat} (hc : 0 < c) (hl : c ≤ 10 ^ 17) {whole : Int} (hw : whole ≤ 16) :
    ∃ pre post, withPoint (Digits.digits c) whole = pre ++ '.' :: post ∧
      (pre = ['0'] ∨ ∃ d ds, pre = d :: ds ∧ d ≠ '0') ∧ post ≠ [] ∧
      (∀ d ∈ pre ++ post, Digits.isDigit d = true) ∧ Digits.ofDigits (pre ++ post) < 2 ^ 64 := by
  obtain ⟨d, ds, hds, plain⟩ := Digits.digits_eq_cons c
  have digit : ∀ e ∈ Digits.digits c, Digits.isDigit e = true := fun _ =>
    Digits.isDigit_of_mem_digits
  have zeros (k : Nat) : ∀ e ∈ List.replicate k '0', Digits.isDigit e = true := fun e he => by
    rw [List.eq_of_mem_replicate he]
    rfl
  have hd : d ≠ '0' := fun h => absurd (plain h).1 hc.ne'
  have small : Digits.ofDigits (Digits.digits c) < 2 ^ 64 := by
    rw [Digits.ofDigits_digits]
    omega
  unfold withPoint
  dsimp only
  split
  case isTrue =>
    refine ⟨['0'], _, rfl, .inl rfl, by simp [hds], ?_, ?_⟩
    · rw [List.forall_mem_append, List.forall_mem_append]
      exact ⟨List.forall_mem_singleton.2 rfl, zeros _, digit⟩
    · rw [Digits.ofDigits_append, Digits.ofDigits_append, Digits.ofDigits_replicate, Nat.zero_mul,
        Nat.zero_add]
      exact (Nat.add_eq_right.2 (Nat.zero_mul _)).trans_lt small
  case isFalse =>
    split
    case isTrue short =>
      have all : ∀ e ∈ Digits.digits c ++
          List.replicate (whole - (Digits.digits c).length).toNat '0' ++ ['0'],
            Digits.isDigit e = true := by
        rw [List.forall_mem_append, List.forall_mem_append]
        exact ⟨⟨digit, zeros _⟩, List.forall_mem_singleton.2 rfl⟩
      refine ⟨_, ['0'], rfl, .inr ⟨d, _, by rw [hds, List.cons_append], hd⟩, by decide, all, ?_⟩
      refine (Digits.ofDigits_lt all).trans_le ?_
      calc 10 ^ _ ≤ 10 ^ 17 := Nat.pow_le_pow_right (by decide) (by simp; omega)
        _ ≤ 2 ^ 64 := by decide
    case isFalse long =>
      obtain ⟨k, hk⟩ : ∃ k, whole.toNat = k + 1 := ⟨whole.toNat - 1, by omega⟩
      refine ⟨_, _, rfl, .inr ⟨d, ds.take k, by rw [hk, hds, List.take_succ_cons], hd⟩, ?_, ?_, ?_⟩
      · rw [Ne, List.drop_eq_nil_iff]
        omega
      · rw [List.take_append_drop]
        exact digit
      · rw [List.take_append_drop]
        exact small

/-- The text of a value with an exponent. -/
theorem scientific_eq {x : Binary64} {leading : Int} {d : Char} {ds : List Char}
    (hl : leading =
      (Digits.digits (Shortest.of x).coefficient).length + (Shortest.of x).exponent - 1)
    (outer : ¬(x.isZero || (-5 ≤ leading && leading < 16)) = true)
    (hds : Digits.digits (Shortest.of x).coefficient = d :: ds) :
    scientific x = sign x ++ ((if ds = [] then [d] else d :: '.' :: ds) ++
      ['e'] ++ ((if leading < 0 then ['-'] else ['+']) ++ Digits.digits leading.natAbs)) := by
  unfold scientific
  dsimp only
  rw [← hl, if_neg outer, hds]
  cases ds with
  | nil => simp only [if_true, List.append_assoc, List.cons_append, List.nil_append]
  | cons e rest =>
    rw [if_neg (List.cons_ne_nil e rest)]
    simp only [List.append_assoc, List.cons_append, List.nil_append]

end FloatText

namespace Json

/-! ## Numerals of fractions -/

namespace Numeral

/-- Whether a numeral denotes a number, with and without a sign. -/
def Denotes (n : Numeral) : Prop := ∀ negative, ∃ m, n.finish negative = .ok m

theorem scaled_eq_ok {negative : Bool} {m : Nat} {e : Int}
    (h : (scaleBy (Binary64.ofWord false m) e).isSome) : ∃ n, scaled negative m e = .ok n := by
  obtain ⟨x, hx⟩ := Option.isSome_iff_exists.1 h
  exact ⟨_, by rw [scaled, hx]⟩

theorem denotes_fraction {m : Nat} {k : Int} (hm : m < 2 ^ 64) (hk : k ≤ 0) :
    (fraction m k).Denotes :=
  fun _ => scaled_eq_ok (scaleBy_word_isSome hm hk)

variable {c : Nat}

/-- Digits of which the first stands before the point, and the mark of the exponent. -/
theorem steps_mark (hc : 0 < c) (hl : c ≤ 10 ^ 17) {d : Char} {ds : List Char}
    (hds : Digits.digits c = d :: ds) :
    sign.steps ((if ds = [] then [d] else d :: '.' :: ds) ++ ['e']) =
      some (.mark c (-ds.length)) := by
  have digit : ∀ e ∈ d :: ds, Digits.isDigit e = true := fun e he =>
    Digits.isDigit_of_mem_digits (n := c) (hds ▸ he)
  have value : Digits.ofDigits (d :: ds) = c := by rw [← hds, Digits.ofDigits_digits]
  have hd : d ≠ '0' := by
    obtain ⟨d', ds', hds', plain⟩ := Digits.digits_eq_cons c
    rw [hds'] at hds
    cases hds
    exact fun h => absurd (plain h).1 hc.ne'
  cases ds with
  | nil =>
    rw [if_pos rfl, steps_append_of_eq (steps_whole hd digit (by omega)), value]
    rfl
  | cons e rest =>
    have decimal := steps_decimal (.inr ⟨d, [], rfl, hd⟩) (List.cons_ne_nil e rest) digit
      (by rw [List.singleton_append, value]; omega)
    rw [List.singleton_append, List.singleton_append, value] at decimal
    rw [if_neg (List.cons_ne_nil e rest), steps_append_of_eq decimal]
    rfl

/-- A numeral after the mark of a negative exponent. -/
theorem steps_down {m : Nat} (hm : m < 2 ^ 64) {k : Int} (hk : k ≤ 0) (n : Nat) :
    ∃ t, (mark m k).steps ('-' :: Digits.digits n) = some t ∧ t.Denotes := by
  obtain ⟨t, ht, known⟩ := steps_down_digits m k n
  refine ⟨t, ht, ?_⟩
  rcases known with rfl | ⟨e, rfl⟩
  · exact fun negative => ⟨_, rfl⟩
  · refine fun negative => scaled_eq_ok (scaleBy_word_isSome hm ?_)
    rw [if_pos rfl]
    omega

/-- A numeral after the mark of an exponent that is not negative. -/
theorem steps_up {m n : Nat} {k : Int} (hn : n < 2 ^ 31)
    (h : (scaleBy (Binary64.ofWord false m) (k + n)).isSome) :
    ∃ t, (mark m k).steps ('+' :: Digits.digits n) = some t ∧ t.Denotes := by
  refine ⟨_, steps_markSign_digits hn, fun negative => scaled_eq_ok ?_⟩
  rwa [if_neg Bool.false_ne_true]

/-- The text of a value is a sign and one numeral, which denotes a number. -/
theorem steps_scientific (x : Binary64) :
    ∃ cs n, FloatText.scientific x = FloatText.sign x ++ cs ∧ sign.steps cs = some n ∧
      n.Denotes := by
  cases zero : x.isZero with
  | true =>
    have nothing : Shortest.of x = ⟨0, 0⟩ := by rw [Shortest.of, zero]; rfl
    have digit : Digits.digits 0 = ['0'] := Digits.digits_of_lt (by decide)
    refine ⟨['0', '.', '0'], .fraction 0 (-1), ?_, rfl, denotes_fraction (by decide) (by decide)⟩
    unfold FloatText.scientific
    rw [nothing, zero]
    dsimp only
    rw [digit]
    rfl
  | false =>
    have some := Shortest.coefficient_pos zero
    have few := Shortest.coefficient_le zero
    have scales := scaleBy_of_isSome zero
    generalize hl : ((Digits.digits (Shortest.of x).coefficient).length : Int) +
      (Shortest.of x).exponent - 1 = leading
    by_cases middle : (x.isZero || (-5 ≤ leading && leading < 16)) = true
    · have bound : leading + 1 ≤ 16 := by
        simp only [zero, Bool.false_or, Bool.and_eq_true, decide_eq_true_eq] at middle
        omega
      obtain ⟨pre, post, text, hpre, hpost, hd, lt⟩ := FloatText.withPoint_eq some few bound
      refine ⟨pre ++ '.' :: post, _, ?_, steps_decimal hpre hpost hd lt,
        denotes_fraction lt (by omega)⟩
      unfold FloatText.scientific
      dsimp only
      rw [hl, if_pos middle, text]
    · obtain ⟨d, ds, hds, -⟩ := Digits.digits_eq_cons (Shortest.of x).coefficient
      have text := FloatText.scientific_eq hl.symm middle hds
      have small := Shortest.length_add_exponent_lt zero
      rw [hds, List.length_cons] at hl small
      obtain ⟨t, ht, denotes⟩ : ∃ t, (mark (Shortest.of x).coefficient (-ds.length)).steps
          ((if leading < 0 then ['-'] else ['+']) ++ Digits.digits leading.natAbs) = .some t ∧
            t.Denotes := by
        split
        case isTrue => exact steps_down (few.trans_lt (by decide)) (by omega) _
        case isFalse =>
          -- The digits after the point and the exponent add up to the exponent of the decimal.
          have whole : -(ds.length : Int) + leading.natAbs = (Shortest.of x).exponent := by omega
          exact steps_up (by omega) (whole ▸ scales)
      exact ⟨_, t, text, (steps_append_of_eq (steps_mark some few hds) _).trans ht, denotes⟩

end Numeral

/-! ## What a number is read as -/

/-- What the text of a number is read as, if that is a number. -/
def Number.reread? (n : Number) : Option Number :=
  match read .any (String.ofList n.text) with
  | .ok (.number m) => some m
  | _ => none

/-- The number that the text of a number is read as. -/
def Number.reread (n : Number) : Number := n.reread?.getD n

/-- Whether the text of a number is read as the number. -/
def Number.IsStable (n : Number) : Prop := n.reread? = some n

instance : DecidablePred Number.IsStable := fun n =>
  inferInstanceAs (Decidable (n.reread? = some n))

namespace Reader

/-- The text of a fraction is read as one numeral, which denotes a number, wherever a value may
stand. -/
theorem reads_fraction (x : Binary64) :
    ∃ n m, Numeral.finish x.negative n = .ok m ∧
      ∀ (shape : Shape) (stack : List Frame) (phase : Phase), Awaits phase →
        Reads shape ⟨stack, phase⟩ (Number.fraction x).text ⟨stack, .numeral x.negative n⟩ := by
  obtain ⟨cs, n, text, steps, denotes⟩ := Numeral.steps_scientific x
  obtain ⟨m, hm⟩ := denotes x.negative
  have signed : (Number.fraction x).text = if x.negative then '-' :: cs else cs := by
    refine text.trans ?_
    unfold FloatText.sign
    cases x.negative <;> rfl
  have hne : cs ≠ [] := by
    rintro rfl
    cases steps
    cases hm
  refine ⟨n, m, hm, fun shape stack phase hp => ?_⟩
  rw [signed]
  exact reads_numeral hp x.negative steps hne

section Numeral

variable {n m : Number} {negative : Bool} {k : Numeral}

theorem reread?_of_finish (hf : k.finish negative = .ok m)
    (hr : ∀ (shape : Shape) (stack : List Frame) (phase : Phase), Awaits phase →
      Reads shape ⟨stack, phase⟩ n.text ⟨stack, .numeral negative k⟩) : n.reread? = some m := by
  have run : run .any start n.text 0 = .ok ⟨[], .numeral negative k⟩ :=
    hr .any [] .value (.inl rfl) 0
  have ends : finish .any ⟨[], .numeral negative k⟩ = .ok (.number m) := by
    simp only [finish, hf]
    rfl
  unfold Number.reread? Json.read
  simp only [String.toList_ofList, run, ends]
  rfl

theorem readsAs_of_finish (hf : k.finish negative = .ok m)
    (hr : ∀ (shape : Shape) (stack : List Frame) (phase : Phase), Awaits phase →
      Reads shape ⟨stack, phase⟩ n.text ⟨stack, .numeral negative k⟩) : ReadsAs n m :=
  fun shape stack phase hp hw => ⟨_, hr shape stack phase hp, settles_finish hw hf⟩

end Numeral

theorem isStable_of_isInteger (n : Number) (h : n.IsInteger) : n.IsStable := by
  cases n with
  | fraction x => exact h.elim
  | integer z range =>
    exact reread?_of_finish (finish_integer range) fun _ _ _ hp => reads_integer hp range

/-- Every number is read, in every place as its text alone is. -/
theorem exists_reread (n : Number) : ∃ m, n.reread? = some m ∧ ReadsAs n m := by
  cases n with
  | integer z range => exact ⟨_, isStable_of_isInteger _ trivial, readsBack_integer _ trivial⟩
  | fraction x =>
    obtain ⟨k, m, hf, hr⟩ := reads_fraction x
    exact ⟨m, reread?_of_finish hf hr, readsAs_of_finish hf hr⟩

theorem reread?_eq_some (n : Number) : n.reread? = some n.reread := by
  obtain ⟨m, hm, -⟩ := exists_reread n
  rw [Number.reread, hm]
  rfl

theorem readsAs_reread (n : Number) : ReadsAs n n.reread := by
  obtain ⟨m, hm, h⟩ := exists_reread n
  rw [Number.reread, hm]
  exact h

theorem isStable_iff {n : Number} : n.IsStable ↔ n.reread = n := by
  rw [Number.IsStable, reread?_eq_some, Option.some.injEq]

end Reader

end Json

end GatewayDesk
