import GatewayDesk.Proofs.Numeric.Digits
import GatewayDesk.Toml.Text.Printer
import GatewayDesk.Toml.Text.Reader

/-!
# Texts read back

The reader forgets what it has kept, so the printed rest of a text reads back whatever stood before
it: `body_line` and `body_lines` are inductions on the text. Between three quotes the end is seen
only with the quotes after it, since the quotes that stand there belong to the text but for the last
three; that the text leaves at most two in a row is what `shortRuns` and the escapes are for.

* `read?_write`: a text as a value, whatever its characters.
* `line?_inForm`: a text in the form of a key.
-/

namespace GatewayDesk

namespace Toml

namespace Text

variable {form : Form} {c : Char} {rest : List Char}

/-! ## Single characters -/

theorem not_isPlain (h : isPlain c = false) : c.toNat < 0x80 := by
  simp only [isPlain, Bool.or_eq_false_iff, Bool.and_eq_false_iff, decide_eq_false_iff_not,
    bne_eq_false_iff_eq] at h
  omega

/-- A character that is kept as it is. -/
theorem body_kept (hq : c ≠ form.quote) (hb : form.literal = true ∨ c ≠ '\\')
    (hp : isPlain c = true ∨ form.lines = true ∧ c = '\n') :
    body form .plain (c :: rest) = keep c (body form .plain rest) := by
  have hr : c ≠ '\r' := by
    rintro rfl
    rcases hp with hp | ⟨-, hp⟩ <;> revert hp <;> decide
  have hs : ((c == '\\') && !form.literal) = false := by
    rcases hb with hb | hb <;> simp [hb]
  have hp' : (isPlain c || (form.lines && c == '\n')) = true := by simpa using hp
  have hr' : (form.lines && c == '\r' && breaks rest) = false := by simp [hr]
  simp only [body, hs, hp', hr', beq_iff_eq, hq, if_false, if_true, Bool.false_eq_true]
  rfl

/-- A backslash before a letter that stands for a character. -/
theorem body_escape {e : Char} (hl : form.literal = false) (he : unescape? e = some c) :
    body form .plain ('\\' :: e :: rest) = keep c (body form .plain rest) := by
  have hq : '\\' ≠ form.quote := by simp [Form.quote, hl]
  simp only [body, beq_iff_eq, hq, if_false, hl, Bool.not_false, Bool.and_true, beq_self_eq_true,
    if_true, he]

/-- The code of a character below 256. -/
theorem body_code (hl : form.literal = false) (hc : c.toNat < 256) :
    body form .plain ('\\' :: 'u' :: Digits.upperHexPadded 4 c.toNat ++ rest) =
      keep c (body form .plain rest) := by
  have hq : '\\' ≠ form.quote := by simp [Form.quote, hl]
  have h0 : Digits.hexValue? '0' = some 0 := by decide
  have h1 := Digits.hexValue?_upperHexChar (d := c.toNat / 16) (by omega)
  have h2 := Digits.hexValue?_upperHexChar (d := c.toNat % 16) (by omega)
  have value : c.toNat / 16 * 16 + c.toNat % 16 = c.toNat := by omega
  have found : character? c.toNat = some c := by
    have hv : c.toNat.isValidChar := c.valid
    rw [character?, dif_pos hv]
    rfl
  rw [Digits.upperHexPadded_four hc]
  simp only [List.cons_append, List.nil_append, body, beq_iff_eq, hq, if_false, hl, Bool.not_false,
    Bool.and_true, beq_self_eq_true, if_true, h0, h1, h2]
  simp [unescape?, value, found]

/-- A character that is no quote, as it is written between double quotes. -/
theorem body_escaped (hl : form.literal = false) (hq : c ≠ '"') :
    body form .plain (escaped c ++ rest) = keep c (body form .plain rest) := by
  unfold escaped
  split
  case h_7 hb _ _ _ _ _ =>
    split
    case isTrue hp =>
      refine body_kept ?_ (.inr hb) (.inl hp)
      simpa [Form.quote, hl] using hq
    case isFalse hp =>
      have := not_isPlain (Bool.eq_false_iff.2 hp)
      exact body_code hl (by omega)
  all_goals exact body_escape hl rfl

theorem escaped_eq_cons (c : Char) :
    ∃ e shown, escaped c = e :: shown ∧ (e = '\\' ∨ e = c ∧ isPlain c = true) := by
  unfold escaped
  split
  case h_7 =>
    split
    case isTrue hp => exact ⟨c, [], rfl, .inr ⟨rfl, hp⟩⟩
    case isFalse => exact ⟨'\\', _, rfl, .inl rfl⟩
  all_goals exact ⟨'\\', _, rfl, .inl rfl⟩

/-! ## Texts on one line -/

/-- What a text of one line must be to stand between single quotes. -/
def FitsLine (form : Form) (cs : List Char) : Prop :=
  form.literal = true → ∀ c ∈ cs, c ≠ form.quote ∧ isPlain c = true

theorem body_line (hl : form.lines = false) {cs : List Char} (h : FitsLine form cs) :
    body form .plain (inside form 0 cs ++ form.quote :: rest) = some (cs, rest) := by
  induction cs with
  | nil =>
    have close : close? form rest = some ([], rest) := by simp [close?, hl]
    simp only [inside, List.nil_append, body, beq_self_eq_true, if_true, close]
  | cons c cs ih =>
    have tail : FitsLine form cs := fun hf d hd => h hf d (List.mem_cons_of_mem _ hd)
    rw [inside]
    cases hf : form.literal with
    | true =>
      obtain ⟨hq, hp⟩ := h hf c List.mem_cons_self
      rw [if_pos rfl, List.cons_append, body_kept hq (.inl hf) (.inl hp), ih tail]
      rfl
    | false =>
      rw [if_neg Bool.false_ne_true]
      by_cases hc : c = '"'
      · have raw : ¬((form.lines && decide ((0 : Nat) < 2)) = true) := by simp [hl]
        have he : unescape? c = some c := by rw [hc]; rfl
        rw [if_pos (by simpa using hc), if_neg raw, List.cons_append, List.cons_append,
          body_escape hf he, ih tail]
        rfl
      · have broken : ¬((c == '\n' && form.lines) = true) := by simp [hl]
        rw [if_neg (by simpa using hc), if_neg broken, List.append_assoc, body_escaped hf hc,
          ih tail]
        rfl

/-! ## Texts of several lines -/

theorem close?_of_ne {a : Char} (hl : form.lines = true) (ha : a ≠ form.quote) :
    close? form (a :: rest) = none := by
  cases rest <;> simp [close?, hl, ha]

theorem close?_quote_of_ne {b : Char} (hl : form.lines = true) (hb : b ≠ form.quote) (a : Char) :
    close? form (a :: b :: rest) = none := by
  simp [close?, hl, hb]

/-- The quotes at the end of a text: up to two of them stand before the three that end it. -/
theorem body_quotes (hl : form.lines = true) (hr : rest.head? ≠ some form.quote) {n : Nat}
    (hn : n ≤ 2) :
    body form .plain (List.replicate n form.quote ++ (form.delimiter ++ rest)) =
      some (List.replicate n form.quote, rest) := by
  have three : form.delimiter = [form.quote, form.quote, form.quote] := by
    rw [Form.delimiter, hl]
    rfl
  have close : close? form
      (List.replicate n form.quote ++ form.quote :: form.quote :: rest) =
        some (List.replicate n form.quote, rest) := by
    obtain rfl | rfl | rfl : n = 0 ∨ n = 1 ∨ n = 2 := by omega
    all_goals
      cases rest with
      | nil => simp [close?, hl, List.replicate]
      | cons c rest =>
        have hc : c ≠ form.quote := fun e => hr (by rw [e]; rfl)
        cases rest <;> simp [close?, hl, List.replicate, hc]
  have shift : List.replicate n form.quote ++ (form.delimiter ++ rest) =
      form.quote :: (List.replicate n form.quote ++ form.quote :: form.quote :: rest) := by
    rw [three]
    obtain rfl | rfl | rfl : n = 0 ∨ n = 1 ∨ n = 2 := by omega
    all_goals rfl
  rw [shift]
  simp only [body, beq_self_eq_true, if_true, close]

/-- What a text must be, after a run of quotes, to stand between three single quotes. -/
def FitsLines (form : Form) (run : Nat) (cs : List Char) : Prop :=
  form.literal = true →
    shortRuns form.quote run cs = true ∧ ∀ c ∈ cs, isPlain c = true ∨ c = '\n'

theorem inside_literal (hf : form.literal = true) (run : Nat) (cs : List Char) :
    inside form run cs = cs := by
  induction cs generalizing run with
  | nil => rfl
  | cons c cs ih => rw [inside, if_pos hf, ih]

/-- One of the first two quotes in a row. -/
theorem inside_quote (hl : form.lines = true) {run : Nat} (hr : run < 2) (cs : List Char) :
    inside form run (form.quote :: cs) = form.quote :: inside form (run + 1) cs := by
  cases hf : form.literal with
  | true => rw [inside_literal hf, inside_literal hf]
  | false =>
    have quote : form.quote = '"' := by simp [Form.quote, hf]
    have raw : (form.lines && decide (run < 2)) = true := by simp [hl, hr]
    rw [quote, inside, if_neg (by simp [hf]), if_pos (by rfl), if_pos raw]

theorem FitsLines.quote {run : Nat} {cs : List Char}
    (h : FitsLines form run (form.quote :: cs)) : FitsLines form (run + 1) cs := by
  intro hf
  obtain ⟨short, chars⟩ := h hf
  rw [shortRuns, if_pos (beq_self_eq_true _), Bool.and_eq_true] at short
  exact ⟨short.2, fun c hc => chars c (List.mem_cons_of_mem _ hc)⟩

/-- A third quote in a row does not stand between single quotes. -/
theorem FitsLines.literal_eq_false {run : Nat} {cs : List Char}
    (h : FitsLines form run (form.quote :: cs)) (hr : 2 ≤ run) : form.literal = false := by
  refine Bool.eq_false_iff.2 fun hf => ?_
  obtain ⟨short, -⟩ := h hf
  rw [shortRuns, if_pos (beq_self_eq_true _), Bool.and_eq_true, decide_eq_true_eq] at short
  omega

/-- A character that is no quote, or a quote after two others. -/
theorem inside_other (hl : form.lines = true) {run : Nat} {c : Char} {cs : List Char}
    (h : FitsLines form run (c :: cs)) (hc : c = form.quote → 2 ≤ run) :
    FitsLines form 0 cs ∧
      (∃ e shown, inside form run (c :: cs) = e :: shown ∧ e ≠ form.quote) ∧
      ∀ rest, body form .plain (inside form run (c :: cs) ++ rest) =
        keep c (body form .plain (inside form 0 cs ++ rest)) := by
  cases hf : form.literal with
  | true =>
    obtain ⟨short, chars⟩ := h hf
    have hq : c ≠ form.quote := by
      rintro rfl
      have := h.literal_eq_false (hc rfl)
      rw [hf] at this
      cases this
    rw [shortRuns, if_neg (by simpa using hq)] at short
    have hp : isPlain c = true ∨ form.lines = true ∧ c = '\n' :=
      (chars c List.mem_cons_self).imp_right fun e => ⟨hl, e⟩
    rw [inside_literal hf, inside_literal hf]
    exact ⟨fun _ => ⟨short, fun d hd => chars d (List.mem_cons_of_mem _ hd)⟩, ⟨c, cs, rfl, hq⟩,
      fun _ => body_kept hq (.inl hf) hp⟩
  | false =>
    have quote : form.quote = '"' := by simp [Form.quote, hf]
    refine ⟨fun e => (by rw [hf] at e; cases e), ?_⟩
    rw [quote, inside, if_neg (by simp [hf])]
    by_cases hq : c = '"'
    · have run2 := hc (hq.trans quote.symm)
      have raw : ¬((form.lines && decide (run < 2)) = true) := by
        rw [Bool.and_eq_true, decide_eq_true_eq]
        omega
      have he : unescape? c = some c := by rw [hq]; rfl
      rw [if_pos (by simpa using hq), if_neg raw]
      exact ⟨⟨'\\', _, rfl, by decide⟩, fun _ => body_escape hf he⟩
    · rw [if_neg (by simpa using hq)]
      by_cases hn : c = '\n'
      · rw [if_pos (by simp [hn, hl])]
        exact ⟨⟨c, _, rfl, hq⟩, fun _ => body_kept (by rwa [quote]) (.inr (by rw [hn]; decide))
          (.inr ⟨hl, hn⟩)⟩
      · rw [if_neg (by simp [hn])]
        obtain ⟨e, shown, he, hne⟩ := escaped_eq_cons c
        have hne' : e ≠ '"' := by
          rcases hne with rfl | ⟨rfl, -⟩
          · decide
          · exact hq
        refine ⟨⟨e, shown ++ inside form 0 cs, by rw [he]; rfl, hne'⟩, fun rest => ?_⟩
        rw [List.append_assoc]
        exact body_escaped hf hq

/-- A text of several lines, after a run of quotes that have been read. -/
theorem body_lines (hl : form.lines = true) (hr : rest.head? ≠ some form.quote) {run : Nat}
    {cs : List Char} (h : FitsLines form run cs) :
    body form .plain (inside form run cs ++ (form.delimiter ++ rest)) = some (cs, rest) := by
  induction cs generalizing run with
  | nil => exact body_quotes hl hr (Nat.zero_le 2)
  | cons c cs ih =>
    by_cases hc : c = form.quote → 2 ≤ run
    · obtain ⟨tail, -, read⟩ := inside_other hl h hc
      rw [read, ih tail]
      rfl
    · obtain ⟨rfl, hc⟩ := Classical.not_imp.1 hc
      have hrun : run < 2 := by omega
      have tail := h.quote
      -- The quote ends the text if only quotes follow it: then at most one of them is its own.
      have keeps
          (open_ : close? form (inside form (run + 1) cs ++ (form.delimiter ++ rest)) = none) :
          body form .plain (inside form run (form.quote :: cs) ++ (form.delimiter ++ rest)) =
            some (form.quote :: cs, rest) := by
        rw [inside_quote hl hrun, List.cons_append]
        simp only [body, beq_self_eq_true, if_true, open_, ih tail]
        rfl
      cases cs with
      | nil =>
        rw [inside_quote hl hrun]
        exact body_quotes hl hr (by decide : 1 ≤ 2)
      | cons d ds =>
        by_cases hd : d = form.quote → 2 ≤ run + 1
        · obtain ⟨-, ⟨e, shown, he, hne⟩, -⟩ := inside_other hl tail hd
          refine keeps ?_
          rw [he, List.cons_append]
          exact close?_of_ne hl hne
        · obtain ⟨rfl, hd⟩ := Classical.not_imp.1 hd
          have hrun' : run + 1 < 2 := by omega
          cases ds with
          | nil =>
            rw [inside_quote hl hrun, inside_quote hl hrun']
            exact body_quotes hl hr (by decide : 2 ≤ 2)
          | cons b bs =>
            obtain ⟨-, ⟨e, shown, he, hne⟩, -⟩ := inside_other hl tail.quote fun _ => by omega
            refine keeps ?_
            rw [inside_quote hl hrun', he, List.cons_append, List.cons_append]
            exact close?_quote_of_ne hl hne _

/-! ## Forms -/

variable {cs : List Char}

theorem of_suits (h : suits form cs = true) :
    (∀ c ∈ cs, isPlain c = true ∨ c = '\n') ∧
      (form.lines = true → shortRuns form.quote 0 cs = true) ∧
      (form.lines = false → form.quote ∉ cs ∧ '\n' ∉ cs) := by
  simp only [suits, Bool.and_eq_true, Bool.not_eq_true', List.any_eq_false] at h
  obtain ⟨⟨hidden, -⟩, quotes⟩ := h
  refine ⟨fun c hc => ?_, fun hl => ?_, fun hl => ?_⟩
  · have := hidden c hc
    by_cases hn : c = '\n'
    · exact .inr hn
    · exact .inl (by simpa [isHidden, hn] using this)
  · rwa [if_pos hl] at quotes
  · rw [if_neg (by simp [hl])] at quotes
    simpa using quotes

theorem fitsLine_of_suits (hl : form.lines = false)
    (h : form.literal = true → suits form cs = true) : FitsLine form cs := by
  intro hf c hc
  obtain ⟨chars, -, marks⟩ := of_suits (h hf)
  obtain ⟨quote, line⟩ := marks hl
  exact ⟨fun e => quote (e ▸ hc), (chars c hc).resolve_right fun e => line (e ▸ hc)⟩

theorem fitsLines_of_suits (hl : form.lines = true)
    (h : form.literal = true → suits form cs = true) : FitsLines form 0 cs := by
  intro hf
  obtain ⟨chars, runs, -⟩ := of_suits (h hf)
  exact ⟨runs hl, chars⟩

/-- The form of a value is literal only where it suits the text. -/
theorem suits_valueForm (cs : List Char) (hf : (valueForm cs).literal = true) :
    suits (valueForm cs) cs = true := by
  revert hf
  unfold valueForm
  split
  · intro hf; cases hf
  · split
    · intro; assumption
    · split
      · intro hf; cases hf
      · split
        · intro; assumption
        · split <;> (intro hf; cases hf)

/-- The form of a key is of one line, and literal only where it suits the text. -/
theorem suits_keyForm (cs : List Char) :
    (keyForm cs).lines = false ∧ ((keyForm cs).literal = true → suits (keyForm cs) cs = true) := by
  unfold keyForm
  split
  case isTrue h =>
    rw [Bool.and_eq_true] at h
    exact ⟨rfl, fun _ => h.2⟩
  case isFalse => exact ⟨rfl, fun hf => by cases hf⟩

/-! ## Texts with their quotes -/

theorem inForm_eq_cons (form : Form) (cs : List Char) :
    ∃ tail, inForm form cs = form.quote :: tail := by
  obtain ⟨literal, lines⟩ := form
  cases lines <;> exact ⟨_, rfl⟩

/-- A text of one line between its quotes. -/
theorem line?_inForm (hl : form.lines = false) (h : form.literal = true → suits form cs = true) :
    line? (inForm form cs ++ rest) = some (cs, rest) := by
  have read : body form .plain (inside form 0 cs ++ form.quote :: rest) = some (cs, rest) :=
    body_line hl (fitsLine_of_suits hl h)
  have text : inForm form cs ++ rest = form.quote :: (inside form 0 cs ++ form.quote :: rest) := by
    simp [inForm, Form.delimiter, hl]
  rw [text]
  obtain ⟨literal, lines⟩ := form
  cases hl
  cases literal <;> exact read

theorem read?_eq_line? (h : ∀ q tail, cs ≠ q :: q :: q :: tail) : read? cs = line? cs := by
  unfold read?
  split
  · exact absurd rfl (h _ _)
  · exact absurd rfl (h _ _)
  · rfl

/-- A text of one line does not start with its quote. -/
theorem inside_ne_quote (hl : form.lines = false) (h : FitsLine form (c :: cs)) :
    ∃ e shown, inside form 0 (c :: cs) = e :: shown ∧ e ≠ form.quote := by
  rw [inside]
  cases hf : form.literal with
  | true => exact ⟨c, _, by rw [if_pos rfl], (h hf c List.mem_cons_self).1⟩
  | false =>
    have quote : form.quote = '"' := by simp [Form.quote, hf]
    rw [if_neg Bool.false_ne_true, quote]
    by_cases hc : c = '"'
    · rw [if_pos (by simpa using hc), if_neg (by simp [hl])]
      exact ⟨'\\', _, rfl, by decide⟩
    · rw [if_neg (by simpa using hc), if_neg (by simp [hl])]
      obtain ⟨e, shown, he, hne⟩ := escaped_eq_cons c
      refine ⟨e, shown ++ inside form 0 cs, by rw [he]; rfl, ?_⟩
      rcases hne with rfl | ⟨rfl, -⟩
      · decide
      · exact hc

theorem afterBreak_of_ne (hn : c ≠ '\n') (hr : c ≠ '\r') :
    afterBreak (c :: rest) = c :: rest := by
  unfold afterBreak
  split
  case h_1 h => cases h; exact absurd rfl hn
  case h_2 h => cases h; exact absurd rfl hr
  case h_3 => rfl

/-- A text of several lines that has no line break does not start with one. -/
theorem afterBreak_inside (hl : form.lines = true) (h : FitsLines form 0 cs) (hn : '\n' ∉ cs) :
    afterBreak (inside form 0 cs ++ (form.delimiter ++ rest)) =
      inside form 0 cs ++ (form.delimiter ++ rest) := by
  have plain : ∀ d, isPlain d = true → d ≠ '\r' := by
    rintro d hd rfl
    revert hd
    decide
  cases cs with
  | nil =>
    obtain ⟨literal, lines⟩ := form
    cases hl
    cases literal <;> rfl
  | cons c cs =>
    have hc : c ≠ '\n' := fun e => hn (e ▸ List.mem_cons_self)
    rw [inside]
    cases hf : form.literal with
    | true =>
      have hp := ((h hf).2 c List.mem_cons_self).resolve_right hc
      exact afterBreak_of_ne hc (plain c hp)
    | false =>
      rw [if_neg Bool.false_ne_true]
      by_cases hq : c = '"'
      · rw [if_pos (by simpa using hq), if_pos (by simp [hl])]
        exact afterBreak_of_ne hc (by rw [hq]; decide)
      · rw [if_neg (by simpa using hq), if_neg (by simp [hc])]
        obtain ⟨e, shown, he, hne⟩ := escaped_eq_cons c
        rw [he]
        rcases hne with rfl | ⟨rfl, hp⟩
        · exact afterBreak_of_ne (by decide) (by decide)
        · exact afterBreak_of_ne hc (plain _ hp)

/-- A text between its quotes, where none of these follows. -/
theorem read?_inForm (h : form.literal = true → suits form cs = true)
    (hr : rest.head? ≠ some form.quote) : read? (inForm form cs ++ rest) = some (cs, rest) := by
  cases hl : form.lines with
  | false =>
    rw [read?_eq_line?, line?_inForm hl h]
    intro q tail e
    have text : inForm form cs ++ rest =
        form.quote :: (inside form 0 cs ++ form.quote :: rest) := by
      simp [inForm, Form.delimiter, hl]
    rw [text] at e
    obtain ⟨rfl, e⟩ := List.cons_eq_cons.1 e
    cases cs with
    | nil =>
      have := (List.cons_eq_cons.1 e).2
      exact hr (by rw [this]; rfl)
    | cons c cs =>
      obtain ⟨d, shown, hd, hne⟩ := inside_ne_quote hl (fitsLine_of_suits hl h)
      rw [hd, List.cons_append] at e
      exact hne (List.cons_eq_cons.1 e).1
  | true =>
    have fits := fitsLines_of_suits hl h
    have read := body_lines hl hr fits
    have start : afterBreak ((if form.lines && cs.contains '\n' then ['\n'] else []) ++
        (inside form 0 cs ++ (form.delimiter ++ rest))) =
          inside form 0 cs ++ (form.delimiter ++ rest) := by
      by_cases hn : '\n' ∈ cs
      · rw [if_pos (by simp [hl, hn])]
        rfl
      · rw [if_neg (by simp [hn])]
        exact afterBreak_inside hl fits hn
    rw [← start] at read
    have text : inForm form cs ++ rest = form.delimiter ++
        ((if form.lines && cs.contains '\n' then ['\n'] else []) ++
          (inside form 0 cs ++ (form.delimiter ++ rest))) := by
      simp only [inForm, List.append_assoc]
    rw [text]
    obtain ⟨literal, lines⟩ := form
    cases hl
    cases literal <;> exact read

/-- A text as a value reads back, whatever its characters, where no quote follows. -/
theorem read?_write (cs : List Char) (hr : ∀ form : Form, rest.head? ≠ some form.quote) :
    read? (write cs ++ rest) = some (cs, rest) :=
  read?_inForm (suits_valueForm cs) (hr _)

end Text

end Toml

end GatewayDesk
