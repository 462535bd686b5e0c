import GatewayDesk.Text.Width.Basic
import Mathlib.Algebra.GroupWithZero.Nat
import Mathlib.Data.List.Basic

/-!
# Widths of plain texts

Printable characters of ASCII and the unified ideographs of the first block join with nothing, so a
text of them is as wide as its characters together.

* `RangeTable.holds_eq_false`: a table does not hold what lies outside of all its ranges.
* `Width.measure_plain`: a plain text is measured character by character.
* `width_append`: the widths of two plain texts add up.
-/

namespace GatewayDesk

namespace RangeTable

variable {table : Array (Nat × Nat)} {n : Nat}

theorem search_eq_false (h : ∀ r ∈ table.toList, n < r.1 ∨ r.2 < n) (low high fuel : Nat) :
    search table n low high fuel = false := by
  induction fuel generalizing low high with
  | zero => rfl
  | succ fuel ih =>
    rw [search]
    split
    · cases hm : table[(low + high) / 2]? with
      | none => simp [hm]
      | some r =>
        obtain ⟨first, last⟩ := r
        have outside := h _ (List.mem_of_getElem? (by simpa using hm))
        simp only [hm]
        by_cases below : n < first
        · rw [if_pos below]
          exact ih _ _
        · rw [if_neg below, if_pos (by simp only at outside; omega)]
          exact ih _ _
    · rfl

theorem holds_eq_false (h : ∀ r ∈ table.toList, n < r.1 ∨ r.2 < n) : holds table n = false :=
  search_eq_false h _ _ _

end RangeTable

namespace Text

namespace Width

variable {c : Char}

/-- Whether a character is printable ASCII. -/
def IsPrintable (c : Char) : Prop := 0x20 ≤ c.toNat ∧ c.toNat ≤ 0x7E

instance : DecidablePred IsPrintable := fun _ => inferInstanceAs (Decidable (_ ∧ _))

theorem isPrintable_of_all {cs : List Char} (h : cs.all (fun c => decide (IsPrintable c)) = true) :
    ∀ c ∈ cs, IsPrintable c := by
  intro c hc
  exact of_decide_eq_true (List.all_eq_true.1 h c hc)

/-- Whether a character is printable ASCII or a unified ideograph of the first block. -/
def IsPlain (c : Char) : Prop := IsPrintable c ∨ isIdeograph c = true

/-- The columns that a plain character takes: two for an ideograph, and one for any other. -/
def columns (c : Char) : Nat := if isIdeograph c then 2 else 1

theorem isIdeograph_iff : isIdeograph c = true ↔ 0x4E00 ≤ c.toNat ∧ c.toNat ≤ 0x9FFF := by
  simp [isIdeograph]

theorem columns_printable (h : IsPrintable c) : columns c = 1 := by
  have := h.2
  rw [columns, if_neg]
  rw [isIdeograph_iff]
  omega

/-! ## Ideographs -/

theorem emojiRanges_apart : ∀ r ∈ emojiRanges.toList, 0x9FFF < r.1 ∨ r.2 < 0x4E00 := by
  decide +kernel

theorem isEmoji_ideograph (h : isIdeograph c = true) : isEmoji c = false := by
  rw [isIdeograph_iff] at h
  refine RangeTable.holds_eq_false fun r hr => ?_
  have := emojiRanges_apart r hr
  omega

theorem link_ideograph (h : isIdeograph c = true) : Link.ofChar c = .nothing := by
  have emoji := isEmoji_ideograph h
  rw [isIdeograph_iff] at h
  have tone : isSkinTone c = false := by simp [isSkinTone]; omega
  have flag : isIndicator c = false := by simp [isIndicator]; omega
  have apart (m : Nat) (hm : m < 0x4E00 ∨ 0x9FFF < m) : c.toNat ≠ m := by omega
  simp [Link.ofChar, emoji, tone, flag, apart, plainKhmer]
  rw [if_neg (by omega), if_neg (by omega), if_neg (by omega)]

theorem styleOf?_ideograph (h : isIdeograph c = true) : styleOf? c = none := by
  unfold styleOf?
  rw [if_neg, if_neg, if_neg]
  all_goals
    simp only [beq_iff_eq]
    rintro rfl
    revert h
    decide

theorem front_ideograph (h : isIdeograph c = true) : Front.ofChar c = .plain := by
  have style := styleOf?_ideograph h
  have link := link_ideograph h
  unfold styleOf? at style
  unfold Front.ofChar
  grind [Front.of, Front.plain]

theorem ofChar_ideograph (h : isIdeograph c = true) : ofChar c = 2 := by
  have range := isIdeograph_iff.1 h
  simp only [ofChar, h, if_true]
  rw [if_neg (by omega)]

/-! ## Plain characters -/

theorem step_ideograph (h : isIdeograph c = true) : step c .plain = (2, .plain) := by
  have range := isIdeograph_iff.1 h
  have high : step c .plain = add c .nothing := by
    rw [step, if_neg (by decide), if_neg (by omega), high, styleOf?_ideograph h]
    rfl
  rw [high, add]
  simp [Link.isOpen, Link.isLetter, joinEmoji?, joinLetter?, ofChar_ideograph h, front_ideograph h]

theorem step_printable (h : IsPrintable c) : step c .plain = (1, .plain) := by
  obtain ⟨above, below⟩ := h
  have feed : c ≠ '\n' := by
    rintro rfl
    revert above
    decide
  have ret : c ≠ '\r' := by
    rintro rfl
    revert above
    decide
  rw [step, if_neg (by decide), if_pos (by omega), low]
  simp [feed, ret]

/-- A plain character takes its own columns before a plain text, and joins with nothing. -/
theorem step_plain (h : IsPlain c) : step c .plain = ((columns c : Int), .plain) := by
  rcases h with h | h
  · rw [step_printable h, columns_printable h]
    rfl
  · rw [step_ideograph h, columns, if_pos h]
    rfl

theorem measure_plain {cs : List Char} (h : ∀ c ∈ cs, IsPlain c) :
    measure cs = ((((cs.map columns).sum : Nat) : Int), .plain) := by
  induction cs with
  | nil => rfl
  | cons c cs ih =>
    unfold measure
    rw [ih fun d hd => h d (by simp [hd])]
    simp only [step_plain (h c (by simp)), List.map_cons, List.sum_cons]
    simp [Int.add_comm]

end Width

open Width

theorem width_plain {cs : List Char} (h : ∀ c ∈ cs, IsPlain c) :
    width cs = (cs.map columns).sum := by
  rw [width, measure_plain h]
  exact Int.toNat_natCast _

theorem width_printable {cs : List Char} (h : ∀ c ∈ cs, IsPrintable c) : width cs = cs.length := by
  rw [width_plain fun c hc => .inl (h c hc)]
  induction cs with
  | nil => rfl
  | cons c cs ih =>
    rw [List.map_cons, List.sum_cons, columns_printable (h c (by simp)),
      ih fun d hd => h d (by simp [hd]), List.length_cons, Nat.add_comm]

theorem width_append {a b : List Char} (ha : ∀ c ∈ a, IsPlain c) (hb : ∀ c ∈ b, IsPlain c) :
    width (a ++ b) = width a + width b := by
  have both : ∀ c ∈ a ++ b, IsPlain c := by
    intro c hc
    exact (List.mem_append.1 hc).elim (ha c) (hb c)
  rw [width_plain both, width_plain ha, width_plain hb, List.map_append, List.sum_append]

end Text

end GatewayDesk
