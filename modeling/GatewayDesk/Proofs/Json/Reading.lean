import GatewayDesk.Json.Printer
import GatewayDesk.Json.Reader
import GatewayDesk.Proofs.Except
import GatewayDesk.Proofs.Json.Extent
import GatewayDesk.Proofs.Json.Numerals

/-!
# Reading what was written

`Reads shape s cs t`: over the text `cs` the reader goes from state `s` to state `t`.

A numeral has no end of its own: the reader takes it into the container only with the character
after it. So a text of a value leads to a state that `Settles` the value, that is, one that does
with the next comma, bracket or blank, or with the end of the text, what the state with the value in
its container does.

* `reads_spaces`: white space where it is passed over.
* `reads_string`: a string, whatever its characters.
* `steps_digits`, `steps_digits_long`: digits that 64 bits hold, and those that they do not.
* `readsBack_integer`: an integer of 64 bits.
-/

namespace GatewayDesk

namespace Json

namespace Reader

/-- Over a text, the reader goes from one state to another, wherever the text stands. -/
def Reads (shape : Shape) (s : State) (cs : List Char) (t : State) : Prop :=
  ∀ offset, run shape s cs offset = .ok t

/-- The phases in which a value may start. -/
def Awaits (phase : Phase) : Prop :=
  phase = .value ∨ phase = .firstItem ∨ phase = .nextItem

/-- The characters that may follow a value in a container. -/
def isFollower (c : Char) : Bool := c == ',' || c == ']' || c == '\x7d' || isSpace c

/-- A state that takes the next character, and the end of the text, as the one with the value in its
container does. -/
structure Settles (shape : Shape) (stack : List Frame) (value : Json) (s : State) : Prop where
  next : ∀ c, isFollower c = true → step shape s c = step shape (complete stack value) c
  ends : finish shape s = finish shape (complete stack value)

section Basic

variable {shape : Shape} {s t u : State} {a b cs : List Char} {c : Char}

theorem Reads.nil : Reads shape s [] s := fun _ => rfl

theorem Reads.cons (h : step shape s c = .ok t) (hr : Reads shape t cs u) :
    Reads shape s (c :: cs) u := by
  intro offset
  rw [run, h]
  exact hr _

theorem Reads.single (h : step shape s c = .ok t) : Reads shape s [c] t := Reads.cons h Reads.nil

theorem Reads.append (ha : Reads shape s a t) (hb : Reads shape t b u) :
    Reads shape s (a ++ b) u := by
  intro offset
  rw [run_append, ha offset]
  exact hb _

theorem settles_complete (stack : List Frame) (value : Json) :
    Settles shape stack value (complete stack value) := ⟨fun _ _ => rfl, rfl⟩

/-! ## White space -/

/-- The phases in which white space is passed over. -/
def Phase.Skips : Phase → Prop
  | .value | .firstItem | .nextItem | .firstKey | .nextKey | .colon | .comma | .done _ => True
  | _ => False

theorem Awaits.skips {phase : Phase} (h : Awaits phase) : phase.Skips := by
  rcases h with rfl | rfl | rfl <;> trivial

theorem step_space (h : s.phase.Skips) (hc : isSpace c = true) : step shape s c = .ok s := by
  obtain ⟨stack, phase⟩ := s
  cases phase with
  | comma => exact if_pos hc
  | done value => exact if_pos hc
  | word | numeral | text | escape | hex | secondSlash | secondLetter => exact h.elim
  | _ => simp only [step, hc, if_true]

theorem reads_spaces (h : s.phase.Skips) (blank : ∀ c ∈ cs, isSpace c = true) :
    Reads shape s cs s := by
  induction cs with
  | nil => exact Reads.nil
  | cons c cs ih =>
    rw [List.forall_mem_cons] at blank
    exact .cons (step_space h blank.1) (ih blank.2)

theorem skips_complete (stack : List Frame) (value : Json) :
    (complete stack value).phase.Skips := by
  match stack with
  | [] => trivial
  | .array _ :: _ => trivial
  | .object _ _ :: _ => trivial

section Settles

variable {stack : List Frame} {value : Json}

/-- White space after a value. -/
theorem Settles.skip (h : Settles shape stack value s) (blank : ∀ c ∈ cs, isSpace c = true) :
    ∃ t, Reads shape s cs t ∧ Settles shape stack value t := by
  cases cs with
  | nil => exact ⟨s, Reads.nil, h⟩
  | cons c cs =>
    rw [List.forall_mem_cons] at blank
    have skips := skips_complete stack value
    refine ⟨complete stack value, .cons ?_ (reads_spaces skips blank.2), settles_complete _ _⟩
    rw [h.next c (by simp [isFollower, blank.1]), step_space skips blank.1]

/-- White space after a value, and the character that follows it. -/
theorem Settles.reads_follower (h : Settles shape stack value s)
    (blank : ∀ d ∈ cs, isSpace d = true) (hc : isFollower c = true)
    (next : step shape (complete stack value) c = .ok t) : Reads shape s (cs ++ [c]) t := by
  obtain ⟨u, hu, settled⟩ := h.skip blank
  exact hu.append (Reads.single (by rw [settled.next c hc, next]))

end Settles

end Basic

section Values

variable {shape : Shape} {stack : List Frame} {phase : Phase}

/-- Inside a container where any value may stand, any value may stand. -/
theorem wanted_cons (h : wanted shape stack = none) (frame : Frame) :
    wanted shape (frame :: stack) = none := by
  match shape, stack with
  | .any, _ => rfl
  | .record, [] => simp [wanted] at h
  | .record, _ :: _ => rfl
  | .records, [] => simp [wanted] at h
  | .records, [.array _] => simp [wanted] at h
  | .records, [.object _ _] => cases frame <;> rfl
  | .records, _ :: _ :: _ => cases frame <;> rfl

/-- A character that starts a value. -/
theorem step_awaits (hp : Awaits phase) {c : Char} (hs : isSpace c = false) (hc : c ≠ ']') :
    step shape ⟨stack, phase⟩ c = startValue shape stack c := by
  rcases hp with rfl | rfl | rfl
  · simp [step, hs]
  · simp [step, hs, hc]
  · simp [step, hs, hc]

theorem completeScalar_of_none (h : wanted shape stack = none) (value : Json) (past : Nat) :
    completeScalar shape stack value past = .ok (complete stack value) := by
  simp [completeScalar, h]

/-! ## Strings -/

/-- The four digits of an escape that spell a character outside the surrogates. -/
theorem reads_hex (role : Role) (done : List Char) {a b c d : Char} {n : Nat}
    (ha : a.utf8Size = 1) (hb : b.utf8Size = 1) (hc : c.utf8Size = 1) (hd : d.utf8Size = 1)
    (hn : Digits.ofDigits? 16 [a, b, c, d] = some n) (hs : n < 0xD800) :
    Reads shape ⟨stack, .hex role done none [] 0⟩ [a, b, c, d]
      ⟨stack, .text role (Char.ofNat n :: done)⟩ := by
  have more (e : Char) (digits : List Char) (bytes : Nat) (he : e.utf8Size = 1)
      (hbytes : bytes < 3) : step shape ⟨stack, .hex role done none digits bytes⟩ e =
        .ok ⟨stack, .hex role done none (e :: digits) (bytes + 1)⟩ := by
    have : bytes + 1 < 4 := by omega
    simp [step, stepHex, he, this, bind, Except.bind, pure, Except.pure]
  have last : step shape ⟨stack, .hex role done none [c, b, a] 3⟩ d =
      .ok ⟨stack, .text role (Char.ofNat n :: done)⟩ := by
    have h1 : ¬(0xDC00 ≤ n) := by omega
    have h2 : ¬(0xD800 ≤ n) := by omega
    simp [step, stepHex, afterHex, hd, hn, h1, h2, bind, Except.bind, pure, Except.pure,
      Except.mapError_ok]
  exact .cons (more a [] 0 ha (by decide)) <| .cons (more b [a] 1 hb (by decide)) <|
    .cons (more c [b, a] 2 hc (by decide)) <| .single last

/-- A control character, which is written by its code. -/
theorem reads_control (role : Role) (done : List Char) {c : Char} (hc : c.toNat < 0x20) :
    Reads shape ⟨stack, .text role done⟩ ('\\' :: 'u' :: Digits.hexPadded 4 c.toNat)
      ⟨stack, .text role (c :: done)⟩ := by
  have h1 : c.toNat / 16 < 16 := by omega
  have h2 : c.toNat % 16 < 16 := by omega
  have h0 : Digits.hexValue? '0' = some 0 := by decide
  have value : Digits.ofDigits? 16 ['0', '0', Digits.hexChar (c.toNat / 16),
      Digits.hexChar (c.toNat % 16)] = some c.toNat := by
    simp [Digits.ofDigits?, h0, Digits.hexValue?_hexChar h1, Digits.hexValue?_hexChar h2, h1, h2]
    omega
  rw [Digits.hexPadded_four (by omega)]
  have hex : Reads shape ⟨stack, .hex role done none [] 0⟩ _
      ⟨stack, .text role (Char.ofNat c.toNat :: done)⟩ :=
    reads_hex role done rfl rfl (Digits.utf8Size_hexChar h1) (Digits.utf8Size_hexChar h2) value
      (by omega)
  rw [Char.ofNat_toNat] at hex
  exact .cons rfl (.cons rfl hex)

/-- A character as it is written in a string. -/
theorem reads_escaped (role : Role) (done : List Char) (c : Char) :
    Reads shape ⟨stack, .text role done⟩ (Printer.escaped c) ⟨stack, .text role (c :: done)⟩ := by
  unfold Printer.escaped
  split
  case h_8 hq hb _ _ _ _ _ =>
    split
    case isTrue hc => exact reads_control role done hc
    case isFalse hc =>
      have hq' : c ≠ '"' := hq
      have hb' : c ≠ '\\' := hb
      exact Reads.single (by simp [step, hq', hb', hc])
  all_goals
    intro offset
    rfl

/-- The characters of a string between its quotes. -/
theorem reads_characters (role : Role) (done cs : List Char) :
    Reads shape ⟨stack, .text role done⟩ (cs.flatMap Printer.escaped)
      ⟨stack, .text role (cs.reverse ++ done)⟩ := by
  induction cs generalizing done with
  | nil => exact Reads.nil
  | cons c cs ih =>
    rw [List.flatMap_cons, List.reverse_cons, List.append_assoc]
    exact (reads_escaped role done c).append (ih (c :: done))

/-- A string with its quotes, where a value may stand. -/
theorem reads_string (hp : Awaits phase) (h : wanted shape stack = none) (s : String) :
    Reads shape ⟨stack, phase⟩ (Printer.text s) (complete stack (.string s)) := by
  refine .cons (t := ⟨stack, .text .value []⟩) ?_ (.append (reads_characters .value [] _) ?_)
  · rw [step_awaits hp (by decide) (by decide)]; rfl
  · refine Reads.single ?_
    simp [step, completeText, completeScalar_of_none h]

/-- A string with its quotes, where a key may stand. -/
theorem reads_key (hp : phase = .firstKey ∨ phase = .nextKey) (members : Members)
    (old key : String) :
    Reads shape ⟨.object members old :: stack, phase⟩ (Printer.text key)
      ⟨.object members key :: stack, .colon⟩ := by
  refine .cons (t := ⟨.object members old :: stack, .text .key []⟩) ?_
    (.append (reads_characters .key [] _) ?_)
  · rcases hp with rfl | rfl <;> rfl
  · refine Reads.single ?_
    simp [step, completeText]

/-! ## Numbers -/

/-- Whether the text of a number leads to a state that settles a number. -/
def ReadsAs (n m : Number) : Prop :=
  ∀ (shape : Shape) (stack : List Frame) (phase : Phase), Awaits phase →
    wanted shape stack = none →
    ∃ s, Reads shape ⟨stack, phase⟩ n.text s ∧ Settles shape stack (.number m) s

/-- Whether the text of a number leads to a state that settles the number. -/
def ReadsBack (n : Number) : Prop := ReadsAs n n

/-- What has been read of a numeral after all its digits. -/
def wholeNumeral (n : Nat) : Numeral := if n = 0 then .zero else .whole n

/-- The digits of a natural that 64 bits hold, after the sign. -/
theorem steps_digits {n : Nat} (hn : n < 0x10000000000000000) :
    Numeral.sign.steps (Digits.digits n) = some (wholeNumeral n) := by
  unfold wholeNumeral
  split
  case isTrue h =>
    rw [h, Digits.digits_of_lt (by decide)]
    rfl
  case isFalse h =>
    obtain ⟨c, cs, hcs, plain⟩ := Digits.digits_eq_cons n
    have digit : ∀ d ∈ c :: cs, Digits.isDigit d = true := fun d hd =>
      Digits.isDigit_of_mem_digits (n := n) (hcs ▸ hd)
    have value : Digits.ofDigits (c :: cs) = n := by rw [← hcs, Digits.ofDigits_digits]
    rw [hcs, Numeral.steps_whole (fun zero => h (plain zero).1) digit (by omega), value]

/-- The digits of a natural that 64 bits do not hold, after the sign: the last ones are dropped. -/
theorem steps_digits_long {n : Nat} (hn : 0x10000000000000000 ≤ n) :
    ∃ kept dropped, Numeral.sign.steps (Digits.digits n) = some (.long kept dropped) := by
  induction n using Digits.digits.induct with
  | case1 n small => omega
  | case2 n large ih =>
    have digit : Digits.isDigit (Digits.char (n % 10)) = true := Digits.isDigit_char (by omega)
    rw [Digits.digits_of_le (by omega)]
    by_cases first : n / 10 < 0x10000000000000000
    · -- The last digit is the first one for which there is no room.
      have value : Digits.value (Digits.char (n % 10)) = n % 10 := Digits.value_char (by omega)
      have full : Numeral.fits (n / 10) (n % 10) = false := decide_eq_false (by omega)
      have front : Numeral.sign.steps (Digits.digits (n / 10)) = some (.whole (n / 10)) := by
        rw [steps_digits first, wholeNumeral, if_neg (by omega)]
      refine ⟨n / 10, 1, ?_⟩
      rw [Numeral.steps_append_of_eq front]
      refine Numeral.steps_singleton ?_
      simp only [Numeral.step, digit, value, full, if_true, Bool.false_eq_true, if_false]
    · obtain ⟨kept, dropped, front⟩ := ih (by omega)
      refine ⟨kept, dropped + 1, ?_⟩
      rw [Numeral.steps_append_of_eq front]
      refine Numeral.steps_singleton ?_
      simp only [Numeral.step, digit, if_true]

/-- What is part of a numeral is read in it. -/
theorem reads_steps {negative : Bool} {n m : Numeral} {cs : List Char} (h : n.steps cs = some m) :
    Reads shape ⟨stack, .numeral negative n⟩ cs ⟨stack, .numeral negative m⟩ := by
  induction cs generalizing n with
  | nil =>
    cases h
    exact Reads.nil
  | cons c cs ih =>
    rw [Numeral.steps] at h
    split at h
    case h_1 next hs => exact .cons (by simp only [step, hs]) (ih h)
    case h_2 => cases h

/-- A digit that starts a value does what it does after the sign. -/
theorem step_digit (hp : Awaits phase) {c : Char} (hc : Digits.isDigit c = true) :
    step shape ⟨stack, phase⟩ c = step shape ⟨stack, .numeral false .sign⟩ c := by
  have hn : 48 ≤ c.toNat ∧ c.toNat ≤ 57 := by simpa [Digits.isDigit] using hc
  have ne (d : Char) (hd : d.toNat < 48 ∨ 57 < d.toNat) : c ≠ d := by rintro rfl; omega
  have hs : isSpace c = false := by
    simp [isSpace, ne ' ' (by decide), ne '\n' (by decide), ne '\t' (by decide),
      ne '\r' (by decide)]
  rw [step_awaits hp hs (ne ']' (by decide))]
  by_cases h0 : c = '0'
  · subst h0; rfl
  · simp [startValue, step, Numeral.step, h0, hc, ne '\x7b' (by decide), ne '[' (by decide),
      ne '"' (by decide), ne '-' (by decide)]

theorem not_isDigit_of_isFollower {c : Char} (h : isFollower c = true) :
    Digits.isDigit c = false ∧ c ≠ '.' ∧ c ≠ 'e' ∧ c ≠ 'E' ∧ c ≠ '+' ∧ c ≠ '-' := by
  simp only [isFollower, isSpace, Bool.or_eq_true, beq_iff_eq] at h
  rcases h with ((rfl | rfl) | rfl) | ((rfl | rfl) | rfl) | rfl <;> decide

/-- A numeral that may end here ends with the character after it. -/
theorem step_of_finish {negative : Bool} {n : Numeral} {m : Number} (h : n.finish negative = .ok m)
    {c : Char} (hc : isFollower c = true) : n.step c = .over := by
  obtain ⟨digit, point, small, large, -, -⟩ := not_isDigit_of_isFollower hc
  cases n with
  | sign => cases h
  | point => cases h
  | mark => cases h
  | markSign => cases h
  | _ => simp [Numeral.step, Numeral.orMark, digit, point, small, large]

/-- A numeral settles the number that it denotes. -/
theorem settles_finish (h : wanted shape stack = none) {negative : Bool} {n : Numeral} {m : Number}
    (hf : n.finish negative = .ok m) :
    Settles shape stack (.number m) ⟨stack, .numeral negative n⟩ where
  next c hc := by
    rw [step_complete]
    simp only [step, step_of_finish hf hc, hf, completeScalar_of_none h, Except.mapError_ok, bind,
      Except.bind]
  ends := by
    simp only [finish, hf, completeScalar_of_none h, bind, Except.bind]
    cases stack with
    | nil => rfl
    | cons frame rest => cases frame <;> rfl

theorem isDigit_of_steps_sign {c : Char} {cs : List Char} {n : Numeral}
    (h : Numeral.sign.steps (c :: cs) = some n) : Digits.isDigit c = true := by
  cases hc : Digits.isDigit c with
  | true => rfl
  | false =>
    have zero : c ≠ '0' := by rintro rfl; cases hc
    simp [Numeral.steps, Numeral.step, hc, zero] at h

/-- A numeral, with and without a sign, where a value may stand. -/
theorem reads_numeral (hp : Awaits phase) (negative : Bool) {cs : List Char} {n : Numeral}
    (h : Numeral.sign.steps cs = some n) (hne : cs ≠ []) :
    Reads shape ⟨stack, phase⟩ (if negative then '-' :: cs else cs)
      ⟨stack, .numeral negative n⟩ := by
  cases negative with
  | true =>
    refine .cons (t := ⟨stack, .numeral true .sign⟩) ?_ (reads_steps h)
    rw [step_awaits hp (by decide) (by decide)]
    rfl
  | false =>
    obtain ⟨c, rest, rfl⟩ := List.exists_cons_of_ne_nil hne
    have hr : Reads shape ⟨stack, .numeral false .sign⟩ (c :: rest) _ := reads_steps h
    -- The first digit does after a sign what it does where a value may stand.
    intro offset
    rw [← hr offset, if_neg Bool.false_ne_true, run, run, step_digit hp (isDigit_of_steps_sign h)]

/-- An integer, where a value may stand. -/
theorem reads_integer (hp : Awaits phase) {z : Int}
    (range : -0x8000000000000000 ≤ z ∧ z < 0x10000000000000000) :
    Reads shape ⟨stack, phase⟩ (Number.integer z range).text
      ⟨stack, .numeral (decide (z < 0)) (wholeNumeral z.natAbs)⟩ := by
  have text : (Number.integer z range).text =
      if decide (z < 0) then '-' :: Digits.digits z.natAbs else Digits.digits z.natAbs := by
    simp [Number.text, Digits.decimal]
  obtain ⟨c, cs, hcs, -⟩ := Digits.digits_eq_cons z.natAbs
  rw [text]
  exact reads_numeral hp _ (steps_digits (by omega)) (by simp [hcs])

theorem finish_integer {z : Int}
    (range : -0x8000000000000000 ≤ z ∧ z < 0x10000000000000000) :
    (wholeNumeral z.natAbs).finish (decide (z < 0)) = .ok (.integer z range) := by
  have finish : (wholeNumeral z.natAbs).finish (decide (z < 0)) =
      .ok (Numeral.integer (decide (z < 0)) z.natAbs) := by
    unfold wholeNumeral
    split
    case isTrue h => rw [h]; rfl
    case isFalse => rfl
  have plain : ¬((decide (z < 0) && z.natAbs == 0) = true) := by
    rw [Bool.and_eq_true, beq_iff_eq, decide_eq_true_eq]
    omega
  have value : (if decide (z < 0) then -(z.natAbs : Int) else z.natAbs) = z := by
    simp only [decide_eq_true_eq]
    omega
  rw [finish, Numeral.integer, if_neg plain, value, Number.ofInt?, dif_pos range]
  rfl

/-- An integer of 64 bits reads back. -/
theorem readsBack_integer (n : Number) (hn : n.IsInteger) : ReadsBack n := by
  intro shape stack phase hp h
  cases n with
  | fraction x => exact hn.elim
  | integer z range => exact ⟨_, reads_integer hp range, settles_finish h (finish_integer range)⟩

/-! ## Words -/

/-- The rest of a word that stands for a value. -/
theorem reads_rest (h : wanted shape stack = none) (value : Json) (c : Char) (cs : List Char) :
    Reads shape ⟨stack, .word (c :: cs) value⟩ (c :: cs) (complete stack value) := by
  induction cs generalizing c with
  | nil => exact Reads.single (by simp [step, completeScalar_of_none h])
  | cons d cs ih => exact .cons (t := ⟨stack, .word (d :: cs) value⟩) (by simp [step]) (ih d)

/-- A word that stands for a value. -/
theorem reads_word (hp : Awaits phase) (h : wanted shape stack = none) {c d : Char}
    {cs : List Char} {value : Json} (hs : isSpace c = false) (hc : c ≠ ']')
    (start : startValue shape stack c = .ok ⟨stack, .word (d :: cs) value⟩) :
    Reads shape ⟨stack, phase⟩ (c :: d :: cs) (complete stack value) :=
  .cons (by rw [step_awaits hp hs hc, start]) (reads_rest h value d cs)

end Values

end Reader

end Json

end GatewayDesk
