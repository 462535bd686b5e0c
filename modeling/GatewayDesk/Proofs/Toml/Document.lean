import GatewayDesk.Proofs.Toml.Text
import GatewayDesk.Toml.Document
import Mathlib.Data.List.TakeWhile

/-!
# Lines read back

A document is written line by line. `Spells` relates a text to the statements of its lines; each
line that is written adds one statement in front of those of the rest.

* `value?_write`, `value?_digits`: a text and a natural as values.
* `part?_writeKey`: a text as a part of a key.
* `Spells.textPair`, `Spells.integerPair`, `Spells.header`: the lines of a configuration.
-/

namespace GatewayDesk

namespace Toml

/-! ## Numbers -/

theorem not_mem_digits {c : Char} (hc : Digits.isDigit c = false) (n : Nat) :
    c ∉ Digits.digits n := by
  intro h
  rw [Digits.isDigit_of_mem_digits h] at hc
  cases hc

namespace Numeral

theorem digits?_eq {cs : List Char} (hne : cs ≠ []) (h : ∀ c ∈ cs, Digits.isDigit c = true) :
    digits? Digits.isDigit cs = some cs := by
  induction cs with
  | nil => exact absurd rfl hne
  | cons c cs ih =>
    have hc := h c List.mem_cons_self
    cases cs with
    | nil => rw [digits?, if_pos hc]
    | cons d ds =>
      have hd : d ≠ '_' := by
        rintro rfl
        have := h '_' (List.mem_cons_of_mem _ List.mem_cons_self)
        revert this
        decide
      rw [digits?, if_pos hc, ih (List.cons_ne_nil _ _) fun e he => h e (List.mem_cons_of_mem _ he)]
      · rfl
      · rintro ⟨⟩
      · rintro rest ⟨⟩
        exact hd rfl

theorem whole?_digits (n : Nat) : whole? (Digits.digits n) = some (Digits.digits n) := by
  obtain ⟨c, cs, hcs, hz⟩ := Digits.digits_eq_cons n
  have found : digits? Digits.isDigit (Digits.digits n) = some (Digits.digits n) := by
    refine digits?_eq ?_ fun c hc => Digits.isDigit_of_mem_digits hc
    rw [hcs]
    exact List.cons_ne_nil _ _
  rw [whole?, found]
  split
  case h_1 h =>
    rw [hcs] at h
    cases h
    have := (hz rfl).2
    cases this
  case h_2 => rfl

theorem sign_digits (n : Nat) : DecimalText.sign (Digits.digits n) = (false, Digits.digits n) := by
  unfold DecimalText.sign
  split
  case h_1 h => exact absurd (h ▸ List.mem_cons_self) (not_mem_digits (by decide) n)
  case h_2 h => exact absurd (h ▸ List.mem_cons_self) (not_mem_digits (by decide) n)
  case h_3 => rfl

theorem fit?_natCast {n : Nat} (h : n < 0x8000000000000000) : fit? n = some ⟨n, by omega⟩ :=
  dif_pos (by omega)

/-- A word that is not marked is read as a sign and digits. -/
theorem integer?_eq {cs : List Char}
    (h : ∀ d rest, cs = '0' :: d :: rest → Digits.isDigit d = true) :
    integer? cs = (whole? (DecimalText.sign cs).2).bind fun ds =>
      fit? (if (DecimalText.sign cs).1 then -(Digits.ofDigits ds : Int)
        else Digits.ofDigits ds) := by
  unfold integer?
  split
  case h_1 => exact absurd (h _ _ rfl) (by decide)
  case h_2 => exact absurd (h _ _ rfl) (by decide)
  case h_3 => exact absurd (h _ _ rfl) (by decide)
  case h_4 => rfl

/-- The digits of a natural of 63 bits spell that natural. -/
theorem integer?_digits {n : Nat} (h : n < 0x8000000000000000) :
    integer? (Digits.digits n) = some ⟨n, by omega⟩ := by
  have unmarked (d : Char) (rest : List Char) (e : Digits.digits n = '0' :: d :: rest) :
      Digits.isDigit d = true :=
    Digits.isDigit_of_mem_digits (e ▸ List.mem_cons_of_mem _ List.mem_cons_self)
  rw [integer?_eq unmarked, sign_digits, whole?_digits, Option.bind_some,
    if_neg Bool.false_ne_true, Digits.ofDigits_digits, fit?_natCast h]

/-- A row of digits is no floating-point number. -/
theorem real?_digits (n : Nat) : real? (Digits.digits n) = none := by
  have row : ∀ c ∈ Digits.digits n, isRow c = true := fun c hc => by
    rw [isRow, Digits.isDigit_of_mem_digits hc, Bool.true_or]
  have named (c : Char) (hc : Digits.isDigit c = false) (rest : List Char) :
      ¬((Digits.digits n == c :: rest) = true) := fun e =>
    not_mem_digits hc n (eq_of_beq e ▸ List.mem_cons_self)
  unfold real?
  simp only [sign_digits, named?, if_neg (named 'i' (by decide) _),
    if_neg (named 'n' (by decide) _)]
  rw [List.takeWhile_eq_self_iff.2 row, List.dropWhile_eq_nil_iff.2 row, whole?_digits]
  rfl

end Numeral

/-- A row of digits is no moment. -/
theorem Moment.ofWord?_digits (n : Nat) : ofWord? (Digits.digits n) = none := by
  have date : date? (Digits.digits n) = none := by
    unfold date?
    split
    case h_1 h => exact absurd (h ▸ by simp) (not_mem_digits (c := '-') (by decide) n)
    case h_2 => rfl
  have time : time? (Digits.digits n) = none := by
    unfold time?
    split
    case h_1 h => exact absurd (h ▸ by simp) (not_mem_digits (c := ':') (by decide) n)
    case h_2 => rfl
  rw [ofWord?, date, time]

namespace Document

variable {rest : List Char}

/-! ## Values -/

theorem head?_line_ne_quote (rest : List Char) (form : Form) :
    ('\n' :: rest).head? ≠ some form.quote := by
  obtain ⟨literal, lines⟩ := form
  cases literal <;> (rintro ⟨⟩)

/-- A text as a value. -/
theorem value?_write (depth : Nat) (cs : List Char) :
    value? depth (Text.write cs ++ '\n' :: rest) =
      some (.text (String.ofList cs), '\n' :: rest) := by
  have read := Text.read?_write cs (head?_line_ne_quote rest)
  obtain ⟨tail, he⟩ := Text.inForm_eq_cons (Text.valueForm cs) cs
  have quote : ((Text.valueForm cs).quote == '"' || (Text.valueForm cs).quote == '\'') = true := by
    obtain ⟨literal, lines⟩ := Text.valueForm cs
    cases literal <;> rfl
  rw [Text.write, he, List.cons_append] at read ⊢
  unfold value?
  rw [if_pos quote, read]
  rfl

theorem takeWhile_line {p : Char → Bool} {cs : List Char} (h : ∀ c ∈ cs, p c = true)
    (hn : p '\n' = false) : (cs ++ '\n' :: rest).takeWhile p = cs := by
  rw [List.takeWhile_append_of_pos h, List.takeWhile_cons_of_neg (by simp [hn]), List.append_nil]

theorem dropWhile_line {p : Char → Bool} {cs : List Char} (h : ∀ c ∈ cs, p c = true)
    (hn : p '\n' = false) : (cs ++ '\n' :: rest).dropWhile p = '\n' :: rest := by
  rw [List.dropWhile_append_of_pos h, List.dropWhile_cons_of_neg (by simp [hn])]

/-- A natural of 63 bits as a value. -/
theorem value?_digits (depth : Nat) {n : Nat} (h : n < 0x8000000000000000) :
    value? depth (Digits.digits n ++ '\n' :: rest) =
      some (.integer ⟨n, by omega⟩, '\n' :: rest) := by
  have word : ∀ c ∈ Digits.digits n, isWord c = true := fun c hc => by
    simp [isWord, isBare, Digits.isDigit_of_mem_digits hc]
  have take : (Digits.digits n ++ '\n' :: rest).takeWhile isWord = Digits.digits n :=
    takeWhile_line word (by decide)
  have drop : (Digits.digits n ++ '\n' :: rest).dropWhile isWord = '\n' :: rest :=
    dropWhile_line word (by decide)
  have moment : moment? (Digits.digits n ++ '\n' :: rest) = none := by
    rw [moment?, take, Moment.ofWord?_digits]
  have found : word? (Digits.digits n) = some (.integer ⟨n, by omega⟩) := by
    have named (c : Char) (hc : Digits.isDigit c = false) (cs : List Char) :
        ¬((Digits.digits n == c :: cs) = true) := fun e =>
      not_mem_digits hc n (eq_of_beq e ▸ List.mem_cons_self)
    rw [word?, if_neg (named 't' (by decide) _), if_neg (named 'f' (by decide) _),
      Numeral.real?_digits, Numeral.integer?_digits h]
    rfl
  obtain ⟨c, cs, hcs, -⟩ := Digits.digits_eq_cons n
  have hc : Digits.isDigit c = true :=
    Digits.isDigit_of_mem_digits (hcs ▸ List.mem_cons_self)
  have other (d : Char) (hd : Digits.isDigit d = false) : (c == d) = false := by
    rw [beq_eq_false_iff_ne]
    rintro rfl
    rw [hd] at hc
    cases hc
  rw [hcs, List.cons_append] at take drop moment ⊢
  unfold value?
  rw [if_neg (by simp [other '"' (by decide), other '\'' (by decide)]),
    if_neg (by simp [other '[' (by decide)]), if_neg (by simp [other '\x7b' (by decide)]), moment,
    take, drop, ← hcs, found]
  rfl

/-! ## Keys -/

theorem isBare_ne {c d : Char} (hc : isBare c = true) (hd : isBare d = false) : c ≠ d := by
  rintro rfl
  rw [hd] at hc
  cases hc

theorem skip_eq_self {c : Char} (hc : Text.isSpace c = false) : skip (c :: rest) = c :: rest := by
  rw [skip, List.dropWhile_cons_of_neg (by simp [hc])]

/-- Whether a text may be a part of a key without quotes. -/
structure IsWordKey (key : List Char) : Prop where
  nonempty : key ≠ []
  bare : ∀ c ∈ key, isBare c = true

namespace IsWordKey

variable {key : List Char}

theorem of_all (h : (!key.isEmpty && key.all isBare) = true) : IsWordKey key := by
  simp only [Bool.and_eq_true, Bool.not_eq_true', List.isEmpty_eq_false_iff,
    List.all_eq_true] at h
  exact ⟨h.1, h.2⟩

theorem eq_cons (h : IsWordKey key) : ∃ c cs, key = c :: cs ∧ isBare c = true := by
  obtain ⟨c, cs, rfl⟩ := List.exists_cons_of_ne_nil h.nonempty
  exact ⟨c, cs, rfl, h.bare c List.mem_cons_self⟩

theorem skip (h : IsWordKey key) : Document.skip (key ++ rest) = key ++ rest := by
  obtain ⟨c, cs, rfl, hc⟩ := h.eq_cons
  have space : Text.isSpace c = false := by
    simp [Text.isSpace, isBare_ne hc (by decide : isBare ' ' = false),
      isBare_ne hc (by decide : isBare '\t' = false)]
  exact skip_eq_self space

/-- Such a part ends before the first character that may not stand in it. -/
theorem part? (h : IsWordKey key) {d : Char} (hd : isBare d = false) :
    Document.part? (key ++ d :: rest) = some (String.ofList key, d :: rest) := by
  have line : Text.line? (key ++ d :: rest) = none := by
    obtain ⟨c, cs, rfl, hc⟩ := h.eq_cons
    unfold Text.line?
    split
    case h_1 e => exact absurd (List.cons_eq_cons.1 e).1 (isBare_ne hc (by decide))
    case h_2 e => exact absurd (List.cons_eq_cons.1 e).1 (isBare_ne hc (by decide))
    case h_3 => rfl
  have take : (key ++ d :: rest).takeWhile isBare = key := by
    rw [List.takeWhile_append_of_pos h.bare, List.takeWhile_cons_of_neg (by simp [hd]),
      List.append_nil]
  have drop : (key ++ d :: rest).dropWhile isBare = d :: rest := by
    rw [List.dropWhile_append_of_pos h.bare, List.dropWhile_cons_of_neg (by simp [hd])]
  rw [Document.part?, line]
  simp only [take, drop, List.isEmpty_iff, h.nonempty, if_false]

/-- Such a part is no mark of an encoding. -/
theorem unmarked (h : IsWordKey key) : Document.unmarked (key ++ rest) = key ++ rest := by
  obtain ⟨c, cs, rfl, hc⟩ := h.eq_cons
  unfold Document.unmarked
  split
  case h_1 e => exact absurd (List.cons_eq_cons.1 e).1 (isBare_ne hc (by decide))
  case h_2 => rfl

end IsWordKey

/-- A text as a part of a key, before a bracket. -/
theorem part?_writeKey (name : List Char) :
    part? (Text.writeKey name ++ ']' :: rest) = some (String.ofList name, ']' :: rest) := by
  rw [Text.writeKey]
  split
  case isTrue h => exact (IsWordKey.of_all h).part? (by decide)
  case isFalse =>
    obtain ⟨hl, hs⟩ := Text.suits_keyForm name
    rw [part?, Text.line?_inForm hl hs]

/-- The text of a key starts with no blank. -/
theorem skip_writeKey (name : List Char) :
    skip (Text.writeKey name ++ rest) = Text.writeKey name ++ rest := by
  rw [Text.writeKey]
  split
  case isTrue h => exact (IsWordKey.of_all h).skip
  case isFalse =>
    obtain ⟨tail, he⟩ := Text.inForm_eq_cons (Text.keyForm name) name
    rw [he]
    refine skip_eq_self ?_
    obtain ⟨literal, lines⟩ := Text.keyForm name
    cases literal <;> rfl

/-- A key of one part. -/
theorem key?_single {limit : Nat} {cs more : List Char} {part : String} {d : Char}
    (hp : part? (skip cs) = some (part, rest)) (hr : skip rest = d :: more) (hd : d ≠ '.') :
    key? (limit + 1) cs = some ([part], d :: more) := by
  rw [key?, hp]
  simp only [Option.bind_eq_bind, Option.bind_some, hr]
  split
  case h_1 h => exact absurd (List.cons_eq_cons.1 h).1 hd
  case h_2 => rfl

/-- A key with a dot after its first part. -/
theorem key?_dotted {limit : Nat} {cs more : List Char} {part : String} {parts : List String}
    {rest' : List Char} (hp : part? (skip cs) = some (part, rest)) (hr : skip rest = '.' :: more)
    (hk : key? limit more = some (parts, rest')) :
    key? (limit + 1) cs = some (part :: parts, rest') := by
  rw [key?, hp]
  simp only [Option.bind_eq_bind, Option.bind_some, hr, hk]

/-! ## Statements -/

variable {key : List Char}

/-- A pair on a line of its own. -/
theorem statement?_pair (h : IsWordKey key) {text : List Char} {value : Value}
    (hs : skip (text ++ '\n' :: rest) = text ++ '\n' :: rest)
    (hv : value? limit (text ++ '\n' :: rest) = some (value, '\n' :: rest)) :
    statement? (key ++ ' ' :: '=' :: ' ' :: (text ++ '\n' :: rest)) =
      some (.pair [String.ofList key] value, '\n' :: rest) := by
  have found : key? limit (key ++ ' ' :: '=' :: ' ' :: (text ++ '\n' :: rest)) =
      some ([String.ofList key], '=' :: ' ' :: (text ++ '\n' :: rest)) :=
    key?_single (by rw [h.skip, h.part? (by decide)]) rfl (by decide)
  have blank : skip (' ' :: (text ++ '\n' :: rest)) = text ++ '\n' :: rest := by
    rw [skip, List.dropWhile_cons_of_pos (by decide)]
    exact hs
  unfold statement?
  split
  case h_1 e =>
    obtain ⟨c, cs, rfl, hc⟩ := h.eq_cons
    exact absurd (List.cons_eq_cons.1 e).1 (isBare_ne hc (by decide))
  case h_2 =>
    rw [found]
    simp only [Option.bind_eq_bind, Option.bind_some, expect?, beq_self_eq_true, if_true, blank, hv]

/-- The header of a table inside another. -/
theorem statement?_header (h : IsWordKey key) (name : List Char) :
    statement? ('[' :: (key ++ '.' :: (Text.writeKey name ++ ']' :: '\n' :: rest))) =
      some (.table [String.ofList key, String.ofList name], '\n' :: rest) := by
  have inner : key? 78 (Text.writeKey name ++ ']' :: '\n' :: rest) =
      some ([String.ofList name], ']' :: '\n' :: rest) :=
    key?_single (by rw [skip_writeKey, part?_writeKey]) rfl (by decide)
  have found : key? limit (key ++ '.' :: (Text.writeKey name ++ ']' :: '\n' :: rest)) =
      some ([String.ofList key, String.ofList name], ']' :: '\n' :: rest) :=
    key?_dotted (by rw [h.skip, h.part? (by decide)]) rfl inner
  rw [statement?, header?]
  · rw [found]
    simp only [Option.bind_eq_bind, Option.bind_some, expect?, beq_self_eq_true, if_true]
  · intro more e
    obtain ⟨c, cs, rfl, hc⟩ := h.eq_cons
    exact absurd (List.cons_eq_cons.1 e).1 (isBare_ne hc (by decide))

/-! ## Lines -/

/-- The lines of a text are some statements, whatever bounds their number. -/
def Spells (cs : List Char) (ss : List Statement) : Prop :=
  ∀ fuel, cs.length ≤ fuel → statements? fuel cs = some ss

theorem Spells.nil : Spells [] [] := by
  intro fuel _
  cases fuel <;> rfl

variable {ss : List Statement}

theorem Spells.blank (h : Spells rest ss) : Spells ('\n' :: rest) ss := by
  intro fuel hf
  obtain ⟨fuel, rfl⟩ : ∃ n, fuel = n + 1 := ⟨fuel - 1, by rw [List.length_cons] at hf; omega⟩
  rw [statements?]
  · exact h fuel (by rw [List.length_cons] at hf; omega)
  · rintro ⟨⟩

/-- A line with a statement; its first character starts no blank and no comment. -/
theorem Spells.line {c : Char} {cs : List Char} {s : Statement}
    (hc : isBare c = true ∨ c = '[') (hs : statement? (c :: cs) = some (s, '\n' :: rest))
    (shorter : rest.length ≤ cs.length) (h : Spells rest ss) : Spells (c :: cs) (s :: ss) := by
  have ne (d : Char) (hd : isBare d = false) (hb : d ≠ '[') : c ≠ d := by
    rcases hc with hc | rfl
    · exact isBare_ne hc hd
    · exact hb.symm
  have start : skip (c :: cs) = c :: cs := skip_eq_self (by
    simp [Text.isSpace, ne ' ' (by decide) (by decide), ne '\t' (by decide) (by decide)])
  have more : lineEnd? (c :: cs) = none := by
    have comment : skipComment (c :: cs) = c :: cs := by
      unfold skipComment
      split
      case h_1 e => exact absurd (List.cons_eq_cons.1 e).1 (ne '#' (by decide) (by decide))
      case h_2 => rfl
    rw [lineEnd?, start, comment]
    split
    case h_1 e => cases e
    case h_2 e => exact absurd (List.cons_eq_cons.1 e).1 (ne '\n' (by decide) (by decide))
    case h_3 e => exact absurd (List.cons_eq_cons.1 e).1 (ne '\r' (by decide) (by decide))
    case h_4 => rfl
  intro fuel hf
  rw [List.length_cons] at hf
  obtain ⟨fuel, rfl⟩ : ∃ n, fuel = n + 1 := ⟨fuel - 1, by omega⟩
  rw [statements?]
  · simp only [more, start, hs, Option.bind_eq_bind, Option.bind_some]
    have ends : lineEnd? ('\n' :: rest) = some rest := rfl
    simp only [ends, Option.bind_some, h fuel (by omega)]
  · rintro ⟨⟩

/-- A line with a pair. -/
theorem Spells.pair (hk : IsWordKey key) {text : List Char} {value : Value}
    (hs : skip (text ++ '\n' :: rest) = text ++ '\n' :: rest)
    (hv : value? limit (text ++ '\n' :: rest) = some (value, '\n' :: rest))
    (h : Spells rest ss) :
    Spells (key ++ ' ' :: '=' :: ' ' :: (text ++ '\n' :: rest))
      (.pair [String.ofList key] value :: ss) := by
  have statement := statement?_pair hk hs hv
  obtain ⟨c, cs, rfl, hc⟩ := hk.eq_cons
  rw [List.cons_append] at statement ⊢
  refine Spells.line (.inl hc) statement ?_ h
  simp only [List.length_append, List.length_cons]
  omega

/-- A line with a text. -/
theorem Spells.textPair (hk : IsWordKey key) (cs : List Char) (h : Spells rest ss) :
    Spells (key ++ ' ' :: '=' :: ' ' :: (Text.write cs ++ '\n' :: rest))
      (.pair [String.ofList key] (.text (String.ofList cs)) :: ss) := by
  refine h.pair hk ?_ (value?_write _ cs)
  obtain ⟨tail, he⟩ := Text.inForm_eq_cons (Text.valueForm cs) cs
  rw [Text.write, he]
  refine skip_eq_self ?_
  obtain ⟨literal, lines⟩ := Text.valueForm cs
  cases literal <;> rfl

/-- A line with a natural. -/
theorem Spells.integerPair (hk : IsWordKey key) {n : Nat} (hn : n < 0x8000000000000000)
    (h : Spells rest ss) :
    Spells (key ++ ' ' :: '=' :: ' ' :: (Digits.digits n ++ '\n' :: rest))
      (.pair [String.ofList key] (.integer ⟨n, by omega⟩) :: ss) := by
  refine h.pair hk ?_ (value?_digits _ hn)
  obtain ⟨c, cs, hcs, -⟩ := Digits.digits_eq_cons n
  have hc : Digits.isDigit c = true := Digits.isDigit_of_mem_digits (hcs ▸ List.mem_cons_self)
  have space : Text.isSpace c = false := by
    rw [Text.isSpace, Bool.or_eq_false_iff, beq_eq_false_iff_ne, beq_eq_false_iff_ne]
    constructor <;> (rintro rfl; revert hc; decide)
  rw [hcs]
  exact skip_eq_self space

/-- A line with the header of a table inside another. -/
theorem Spells.header (hk : IsWordKey key) (name : List Char) (h : Spells rest ss) :
    Spells ('[' :: (key ++ '.' :: (Text.writeKey name ++ ']' :: '\n' :: rest)))
      (.table [String.ofList key, String.ofList name] :: ss) := by
  refine Spells.line (.inr rfl) (statement?_header hk name) ?_ h
  simp only [List.length_append, List.length_cons]
  omega

/-- A text that starts with a key is the table that its statements define. -/
theorem read_of_spells (hk : IsWordKey key) (h : Spells (key ++ rest) ss) {members : Members}
    (ha : assemble ss = some members) : read (String.ofList (key ++ rest)) = .ok members := by
  rw [read, String.toList_ofList]
  simp only [hk.unmarked, h _ le_rfl, Option.bind_some, ha]

end Document

end Toml

end GatewayDesk
