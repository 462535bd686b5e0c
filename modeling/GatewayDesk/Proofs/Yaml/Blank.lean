import GatewayDesk.Proofs.Yaml.Reading
import GatewayDesk.Text.Blank

/-!
# Blank texts

Some white space of Unicode separates the words of a YAML text and some is a word like any other. So
a text that holds nothing else is a row of plain scalars at most: no collection starts in it, and
where an object is wanted it is refused or has no members.

* `Tokens.State.token_blank`, `Tokens.State.step_blank`: what one token does to the state.
* `Tokens.forall_ofText_of_isBlank`: the tokens of a blank text.
* `Document.root_of_isBlank`: its tree.
* `readObject_of_isBlank`: it has no members.
-/

namespace GatewayDesk

namespace Yaml

/-! ## Glyphs -/

namespace Glyph

/-- A glyph of white space, or the end of the text. -/
def Blank (g : Glyph) : Prop := Char.isBlank g.char = true ∨ g.char = '\x00'

theorem blank_of_mem_ofChars {text : List Char} (h : ∀ c ∈ text, Char.isBlank c = true)
    (mark : Mark) : ∀ g ∈ ofChars mark text, g.Blank := by
  fun_induction ofChars mark text with
  | case1 mark => exact List.forall_mem_singleton.2 (.inr rfl)
  | case2 mark rest ih =>
    exact List.forall_mem_cons.2 ⟨.inl rfl, ih fun c hc => h c (by simp [hc])⟩
  | case3 mark c rest _ index _ ih =>
    exact List.forall_mem_cons.2 ⟨.inl rfl, ih fun c hc => h c (by simp [hc])⟩
  | case4 mark c rest _ index _ _ ih =>
    exact List.forall_mem_cons.2 ⟨.inl (h c (by simp)), ih fun c hc => h c (by simp [hc])⟩
  | case5 mark c rest _ index _ _ ih =>
    exact List.forall_mem_cons.2 ⟨.inl (h c (by simp)), ih fun c hc => h c (by simp [hc])⟩

end Glyph

/-- What follows a plain scalar is the end of its row. -/
theorem Scalar.rest_suffix_of_plain {flow : Bool} {indent : Nat} {since : Mark} {row : Row}
    {done : List Char} {gap : Gap} {scalar : Plain}
    (h : plain flow indent since row done gap = .ok scalar) : scalar.rest <:+ row := by
  induction row generalizing done gap with
  | nil =>
    cases h
    exact List.suffix_refl _
  | cons g rest ih =>
    have here (h : Except.ok (Plain.ofReverse done gap (g :: rest)) =
        (.ok scalar : Except Fault Plain)) : scalar.rest <:+ g :: rest := by
      cases h
      exact List.suffix_refl _
    have further {done : List Char} {gap : Gap}
        (h : plain flow indent since rest done gap = .ok scalar) : scalar.rest <:+ g :: rest :=
      (ih h).trans (List.suffix_cons g rest)
    unfold plain at h
    dsimp only at h
    repeat' split at h
    · cases h
    · exact further h
    · exact here h
    · exact here h
    · exact here h
    · cases h
    · exact here h
    · exact further h

/-! ## Tokens -/

/-- The end of the text, or a plain scalar. -/
def Token.Bare (t : Token) : Prop := t.sign = .streamEnd ∨ ∃ text, t.sign = .scalar text .plain

namespace Tokens

namespace State

variable {s next : State}

theorem dropCandidate_eq (h : s.dropCandidate = .ok next) :
    ∃ candidates, next = { s with candidates } := by
  unfold dropCandidate at h
  split at h
  · split at h
    · cases h
    · cases h
      exact ⟨_, rfl⟩
  · cases h
    exact ⟨_, rfl⟩

theorem addCandidate_eq (h : s.addCandidate = .ok next) :
    ∃ candidates, next = { s with candidates } := by
  unfold addCandidate at h
  split at h
  · obtain ⟨dropped, hd, h⟩ := Except.bind_eq_ok.1 h
    obtain ⟨_, rfl⟩ := dropCandidate_eq hd
    cases h
    exact ⟨_, rfl⟩
  · cases h
    exact ⟨_, rfl⟩

theorem refresh_eq (h : s.refresh = .ok next) : ∃ candidates, next = { s with candidates } := by
  obtain ⟨candidates, -, h⟩ := Except.bind_eq_ok.1 h
  cases h
  exact ⟨_, rfl⟩

theorem dedent_of_columns (h : s.columns = []) (column : Option Nat) : s.dedent column = s := by
  unfold dedent
  rw [h]
  cases s.inFlow with
  | true => rfl
  | false =>
    obtain ⟨row, tokens, count, columns, candidates, keyAllowed⟩ := s
    cases h
    rfl

/-- White space between tokens is passed over. -/
theorem skip_eq (s : State) (row : Row) (comment : Bool) :
    ∃ rest keyAllowed, s.skip row comment = { s with row := rest, keyAllowed } ∧ rest <:+ row := by
  induction row generalizing s comment with
  | nil => exact ⟨[], s.keyAllowed, rfl, List.suffix_refl _⟩
  | cons g row ih =>
    have further (allowed comment : Bool) : ∃ rest keyAllowed,
        ({ s with keyAllowed := allowed } : State).skip row comment =
          { s with row := rest, keyAllowed } ∧ rest <:+ g :: row := by
      obtain ⟨rest, keyAllowed, e, suffix⟩ := ih { s with keyAllowed := allowed } comment
      exact ⟨rest, keyAllowed, e, suffix.trans (List.suffix_cons g row)⟩
    have here : ∃ rest keyAllowed, ({ s with row := g :: row } : State) =
        { s with row := rest, keyAllowed } ∧ rest <:+ g :: row :=
      ⟨g :: row, s.keyAllowed, rfl, List.suffix_refl _⟩
    unfold skip
    repeat' split
    · exact further s.keyAllowed false
    · exact further true false
    · exact here
    · exact further s.keyAllowed true
    · exact further s.keyAllowed false
    · exact further s.keyAllowed false
    · exact further s.keyAllowed true
    · exact here

/-- A state in which only white space is left and only plain scalars have been read. -/
structure Blank (s : State) : Prop where
  row : ∀ g ∈ s.row, g.Blank
  columns : s.columns = []
  tokens : ∀ t ∈ s.tokens, t.Bare

theorem Blank.refresh (h : s.Blank) (e : s.refresh = .ok next) : next.Blank := by
  obtain ⟨candidates, rfl⟩ := refresh_eq e
  exact ⟨h.row, h.columns, h.tokens⟩

theorem Blank.skip (h : s.Blank) (comment : Bool) : (s.skip s.row comment).Blank := by
  obtain ⟨rest, keyAllowed, e, suffix⟩ := skip_eq s s.row comment
  rw [e]
  exact ⟨fun g hg => h.row g (suffix.mem hg), h.columns, h.tokens⟩

/-- At the end of the text stands the last token. -/
theorem Blank.finish (h : s.Blank) (e : s.finish = .ok next) : next.Blank := by
  have same (row : Row) : ({ s with row } : State).dedent none = { s with row } :=
    dedent_of_columns (s := { s with row }) h.columns none
  simp only [State.finish, same] at e
  obtain ⟨dropped, hd, e⟩ := Except.bind_eq_ok.1 e
  obtain ⟨candidates, rfl⟩ := dropCandidate_eq hd
  cases e
  exact ⟨List.forall_mem_singleton.2 (.inr rfl), h.columns,
    List.forall_mem_cons.2 ⟨.inl rfl, h.tokens⟩⟩

/-- A plain scalar leaves white space behind it. -/
theorem Blank.plain (h : s.Blank) (e : s.plain = .ok next) : next.Blank := by
  obtain ⟨added, ha, e⟩ := Except.bind_eq_ok.1 e
  obtain ⟨candidates, rfl⟩ := addCandidate_eq ha
  obtain ⟨scalar, hs, e⟩ := Except.bind_eq_ok.1 e
  cases e
  have suffix := Scalar.rest_suffix_of_plain hs
  exact ⟨fun g hg => h.row g (suffix.mem hg), h.columns,
    List.forall_mem_cons.2 ⟨.inr ⟨_, rfl⟩, h.tokens⟩⟩

/-- No sign starts with white space, so a token there is a plain scalar or the end of the text. -/
theorem Blank.token (h : s.Blank) (e : s.token = .ok next) : next.Blank := by
  cases row : s.row with
  | nil =>
    have ends : s.token = s.finish := by
      rw [State.token, row]
      rfl
    exact h.finish (ends ▸ e)
  | cons g rest =>
    have front : Row.char s.row = g.char := by rw [row]; rfl
    rcases h.row g (by rw [row]; exact List.mem_cons_self) with blank | last
    · have other (c : Char) (hc : Char.isBlank c = false) : (g.char == c) = false := by
        rw [beq_eq_false_iff_ne]
        rintro rfl
        rw [hc] at blank
        cases blank
      have rule (c : Char) (hc : Char.isBlank c = false) : Row.isRule c s.row = false := by
        rw [row]
        unfold Row.isRule
        split
        case h_1 same =>
          cases same
          rw [other c hc, Bool.and_false, Bool.false_and, Bool.false_and, Bool.false_and]
        case h_2 => rfl
      simp only [State.token, front] at e
      split at e
      case h_1 nul => exact absurd nul (ne_of_beq_false (other '\x00' rfl))
      simp (disch := decide) only [rule, other, Bool.and_false, Bool.false_and,
        Bool.false_eq_true, if_false] at e
      split at e
      · exact h.plain e
      · cases e
    · have ends : s.token = s.finish := by
        rw [State.token, front, last]
        rfl
      exact h.finish (ends ▸ e)

/-- One more token leaves white space behind it. -/
theorem Blank.step (h : s.Blank) (e : s.step = .ok next) : next.Blank := by
  obtain ⟨fresh, hf, e⟩ := Except.bind_eq_ok.1 e
  have h' := (h.skip false).refresh hf
  rw [dedent_of_columns h'.columns] at e
  exact h'.token e

end State

/-- However far the reader comes in white space, it finds no other tokens. -/
theorem forall_run_of_blank {s : State} (h : s.Blank) (settled fuel : Nat) :
    ∀ t ∈ (run s settled fuel).tokens, t.Bare := by
  have backwards {s : State} (h : s.Blank) : ∀ t ∈ s.tokens.reverse, t.Bare :=
    fun t ht => h.tokens t (List.mem_reverse.1 ht)
  induction fuel generalizing s settled with
  | zero => exact backwards h
  | succ fuel ih =>
    unfold run
    cases refreshed : s.refresh with
    | error fault => exact fun t ht => backwards h t (List.mem_of_mem_take ht)
    | ok fresh =>
      have h := h.refresh refreshed
      dsimp only
      cases stepped : fresh.step with
      | error fault => exact fun t ht => backwards h t (List.mem_of_mem_take ht)
      | ok next =>
        have h := h.step stepped
        dsimp only
        split
        · exact backwards h
        · exact ih h _

/-- The tokens of a text that holds nothing but white space. -/
theorem forall_ofText_of_isBlank {text : List Char} (h : ∀ c ∈ text, Char.isBlank c = true) :
    ∀ t ∈ (ofText text).tokens, t.Bare := by
  unfold ofText
  split
  · exact List.forall_mem_nil _
  · exact forall_run_of_blank ⟨Glyph.blank_of_mem_ofChars h _, rfl, List.forall_mem_nil _⟩ _ _

end Tokens

/-! ## Trees -/

namespace Document

/-- A blank text holds one scalar, or cannot be read. -/
theorem root_of_isBlank {text : List Char} (h : ∀ c ∈ text, Char.isBlank c = true) :
    (ofText text).root = .cut ∨
      ∃ mark style word, (ofText text).root = .scalar mark none none style word := by
  have tokens := Tokens.forall_ofText_of_isBlank h
  have tree (ended : Fault) {tokens : List Token} (bare : ∀ t ∈ tokens, t.Bare) :
      (tree ended tokens).value = .cut ∨
        ∃ mark style word, (tree ended tokens).value = .scalar mark none none style word := by
    rcases tokens with _ | ⟨⟨sign, mark⟩, rest⟩
    · exact .inl rfl
    · rcases bare _ List.mem_cons_self with last | ⟨word, scalar⟩
      · cases last
        exact .inr ⟨mark, .plain, "", rfl⟩
      · cases scalar
        exact .inr ⟨mark, .plain, word, rfl⟩
  rcases tree ((Tokens.ofText text).fault.getD (.problem .endOfText ⟨0, 0, 0⟩ none)) tokens with
    cut | ⟨mark, style, word, scalar⟩
  · left
    simp only [ofText, cut]
    rfl
  · right
    refine ⟨mark, style, word, ?_⟩
    simp only [ofText, scalar]
    rfl

end Document

/-- An object that is one scalar has no members. -/
theorem Reading.object_of_scalar {document : Document} {depth : Nat} {path : Path} {mark : Mark}
    {anchor : Option String} {tag : Option Address} {style : Style} {text : String}
    {members : Json.Members}
    (h : Finds (object document depth path (.scalar mark anchor tag style text)) members) :
    members = [] := by
  obtain ⟨target, followed, h⟩ := exists_of_bind h
  obtain rfl := referent_of_follow followed
  dsimp only [Document.referent] at h
  split at h
  · exact (eq_of_pure h).symm
  · exact absurd h not_mismatch

/-- Where an object is wanted, a blank text has no members. -/
theorem readObject_of_isBlank {text : String} (h : ∀ c ∈ text.toList, Char.isBlank c = true)
    {members : Json.Members} (e : readObject text = .ok members) : members = [] := by
  have found := Reading.finds_of_run e
  rcases Document.root_of_isBlank h with cut | ⟨mark, style, word, scalar⟩
  · rw [cut] at found
    obtain ⟨target, followed, found⟩ := Reading.exists_of_bind found
    obtain rfl := Reading.referent_of_follow followed
    exact absurd found Reading.not_mismatch
  · rw [scalar] at found
    exact Reading.object_of_scalar found

end Yaml

end GatewayDesk
