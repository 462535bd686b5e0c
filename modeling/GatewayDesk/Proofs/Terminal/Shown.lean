import GatewayDesk.Proofs.Text.Width
import GatewayDesk.Terminal.Escape

/-!
# What is shown of painted text

Painted text is plain characters, and complete orders about colour and weight between them. All that
is shown of it is its plain characters, also where it stands before another text.

* `Shows`: a painted text, and its plain characters.
* `Shows.strip_append`: what is shown of a painted text with another text after it.
* `Shows.append`: two painted texts after each other.
-/

namespace GatewayDesk

namespace Escape

open Text.Width

/-- A painted text, and what is shown of it: plain characters stand for themselves, and complete
orders about colour and weight for nothing. -/
inductive Shows : List Char → List Char → Prop
  | nil : Shows [] []
  | char {c : Char} {cs shown : List Char} (h : IsPlain c) (rest : Shows cs shown) :
    Shows (c :: cs) (c :: shown)
  | paint {order cs shown : List Char} (h : ∀ p ∈ order, p.isDigit = true ∨ p = ';')
    (rest : Shows cs shown) : Shows ('\x1b' :: '[' :: (order ++ 'm' :: cs)) shown

variable {a b cs shown shown' order : List Char} {c : Char}

/-! ## Single characters -/

theorem step_plain (h : IsPlain c) : step .ground c = ([c], .ground) := by
  have range : (0x20 ≤ c.toNat ∧ c.toNat ≤ 0x7E) ∨ (0x4E00 ≤ c.toNat ∧ c.toNat ≤ 0x9FFF) :=
    h.imp_right isIdeograph_iff.1
  unfold step next
  grind

/-- A digit or a semicolon is a parameter of an order. -/
theorem step_parameter (h : c.isDigit = true ∨ c = ';') {state : State}
    (inside : state = .entry ∨ state = .parameters) : step state c = ([], .parameters) := by
  have range : 0x30 ≤ c.toNat ∧ c.toNat ≤ 0x3B := by
    rcases h with h | rfl
    · simp only [Char.isDigit, ge_iff_le, Bool.and_eq_true, decide_eq_true_eq] at h
      have low : (0x30 : Nat) ≤ c.toNat := h.1
      have high : c.toNat ≤ 0x39 := h.2
      omega
    · decide
  rcases inside with rfl | rfl
  all_goals
    unfold step next afterParameter
    grind

/-- Nothing is shown of the parameters of an order and its end. -/
theorem stripFrom_order (h : ∀ p ∈ order, p.isDigit = true ∨ p = ';') {state : State}
    (inside : state = .entry ∨ state = .parameters) (cs : List Char) :
    stripFrom state (order ++ 'm' :: cs) = stripFrom .ground cs := by
  induction order generalizing state with
  | nil =>
    have last : step state 'm' = ([], .ground) := by
      rcases inside with rfl | rfl <;> decide
    rw [List.nil_append, stripFrom, last]
    exact List.nil_append _
  | cons p order ih =>
    rw [List.cons_append, stripFrom, step_parameter (h p (by simp)) inside]
    exact ih (fun q hq => h q (by simp [hq])) (.inr rfl)

/-! ## Texts -/

namespace Shows

/-- A painted text ends where no order is open, so a text after it is shown as if it stood alone. -/
theorem strip_append (h : Shows a shown) (b : List Char) : strip (a ++ b) = shown ++ strip b := by
  induction h with
  | nil => rfl
  | char plain rest ih =>
    rw [List.cons_append, strip, stripFrom, step_plain plain]
    exact congrArg _ ih
  | @paint order cs shown parameters rest ih =>
    have start : strip ('\x1b' :: '[' :: (order ++ 'm' :: cs) ++ b) =
        stripFrom .entry (order ++ 'm' :: (cs ++ b)) := by
      simp [strip, stripFrom, step, next, afterEscape]
    rw [start, stripFrom_order parameters (.inl rfl)]
    exact ih

theorem strip_eq (h : Shows cs shown) : strip cs = shown := by
  have whole := h.strip_append []
  rwa [List.append_nil, show strip [] = [] from rfl, List.append_nil] at whole

theorem append (ha : Shows a shown) (hb : Shows b shown') : Shows (a ++ b) (shown ++ shown') := by
  induction ha with
  | nil => exact hb
  | char plain rest ih => exact .char plain ih
  | paint parameters rest ih =>
    rw [List.cons_append, List.cons_append, List.append_assoc, List.cons_append]
    exact .paint parameters ih

theorem of_plain (h : ∀ c ∈ cs, IsPlain c) : Shows cs cs := by
  induction cs with
  | nil => exact .nil
  | cons c cs ih => exact .char (h c (by simp)) (ih fun d hd => h d (by simp [hd]))

theorem isPlain (h : Shows cs shown) : ∀ c ∈ shown, IsPlain c := by
  induction h with
  | nil => simp
  | char plain rest ih => simpa using ⟨plain, ih⟩
  | paint parameters rest ih => exact ih

theorem subset (h : Shows cs shown) : shown ⊆ cs := by
  induction h with
  | nil => simp
  | char plain rest ih => exact List.cons_subset_cons _ ih
  | paint parameters rest ih =>
    intro c hc
    simp [ih hc]

/-- A painted text stands on one line. -/
theorem lineFeed_notMem (h : Shows cs shown) : '\n' ∉ cs := by
  induction h with
  | nil => simp
  | @char c cs shown plain rest ih =>
    have other : '\n' ≠ c := by
      rintro rfl
      revert plain
      simp [IsPlain, IsPrintable, isIdeograph]
    simp [other, ih]
  | @paint order cs shown parameters rest ih =>
    have inside : '\n' ∉ order := fun mem => by
      have := parameters _ mem
      revert this
      decide
    simp [inside, ih]

end Shows

end Escape

end GatewayDesk
