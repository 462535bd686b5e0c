import GatewayDesk.Proofs.Json.Name
import GatewayDesk.Proofs.Json.Records

/-!
# Objects with one value left open

A `Form` is the text of an object in which the literal of one member is left open. Whatever number
is written there, the other members are read as they are without it; a literal that is no number
makes the whole text none.

* `Spells.intercalate`: texts of members, with commas between them.
* `Form.spells_member`, `Form.breaks_member`: the text of the open member.
* `Form.read_numeral`, `Form.refuses_numeral`: the whole text.
* `Form.read_integer`, `Form.read_beyond`: an integer of 64 bits, and any other.
-/

namespace GatewayDesk

namespace Json

/-- The text of some members of an object. -/
structure Part where
  text : String
  members : Members
  nonempty : members ≠ []
  reads : read .record ("\x7b" ++ text ++ "\x7d") = .ok (.object members)

/-- White space between tokens. -/
structure Space where
  text : String
  blank : ∀ c ∈ text.toList, Reader.isSpace c = true

/-- The text of an object with the value of one member left open, with white space where it may
stand around that member and around the object. The name of the member is its key as it is spelled
between quotes. No later member has that key. -/
structure Form where
  leading : Space
  before : List Part
  beforeName : Space
  name : String
  key : String
  names : read .any ("\"" ++ name ++ "\"") = .ok (.string key)
  afterName : Space
  beforeValue : Space
  afterValue : Space
  after : List Part
  trailing : Space
  last : ∀ part ∈ after, ∀ member ∈ part.members, member.1 ≠ key

namespace Form

/-- The text of the open member up to its value. -/
def front (form : Form) : String :=
  form.beforeName.text ++ ("\"" ++ form.name ++ "\"") ++ form.afterName.text ++ ":" ++
    form.beforeValue.text

/-- The text of the open member, with a literal in it. -/
def member (form : Form) (literal : String) : String :=
  form.front ++ literal ++ form.afterValue.text

/-- The text of the members, with a literal in the open one. -/
def inner (form : Form) (literal : String) : String :=
  ",".intercalate (form.before.map Part.text ++ form.member literal :: form.after.map Part.text)

/-- The text of the object, with a literal in it. -/
def text (form : Form) (literal : String) : String :=
  form.leading.text ++ ("\x7b" ++ form.inner literal ++ "\x7d") ++ form.trailing.text

/-- The members of the object, with a value in the open one. -/
def members (form : Form) (value : Json) : Members :=
  form.before.flatMap Part.members ++ (form.key, value) :: form.after.flatMap Part.members

end Form

namespace Reader

/-! ## Texts of members -/

theorem Reads.concat {shape : Shape} {s t u : State} {a b : String}
    (ha : Reads shape s a.toList t) (hb : Reads shape t b.toList u) :
    Reads shape s (a ++ b).toList u := by
  rw [String.toList_append]
  exact ha.append hb

theorem spells_part (part : Part) : Spells part.text.toList part.members := by
  have accepted := accepts_of_read part.reads
  have text : ("\x7b" ++ part.text ++ "\x7d").toList =
      '\x7b' :: (part.text.toList ++ ['\x7d']) := by
    rw [String.toList_append, String.toList_append]
    rfl
  rw [Accepts, text] at accepted
  have started : run .record (Course.start.at .first) (part.text.toList ++ ['\x7d']) 1 =
      .ok ⟨[], .done (.object part.members)⟩ := accepted
  exact fun site => spells_of_run started part.nonempty site

/-- Texts of members, with commas between them. -/
theorem Spells.intercalate {pieces : List (List Char × Members)} (nonempty : pieces ≠ [])
    (each : ∀ piece ∈ pieces, Spells piece.1 piece.2) :
    Spells ([','].intercalate (pieces.map Prod.fst)) (pieces.flatMap Prod.snd) := by
  induction pieces with
  | nil => exact absurd rfl nonempty
  | cons piece pieces ih =>
    rw [List.forall_mem_cons] at each
    by_cases last : pieces = []
    · subst last
      rw [List.map_singleton, List.intercalate_singleton, List.flatMap_singleton]
      exact each.1
    · rw [List.map_cons, List.intercalate_cons_of_ne_nil (by simpa using last), List.flatMap_cons,
        List.append_assoc]
      exact each.1.join (ih last each.2)

/-- Whether a text in an object is refused at the character after it, if that may follow a value. -/
def Breaks (text : List Char) : Prop :=
  ∀ (site : Site) (c : Char) (rest : List Char) (offset : Nat), isFollower c = true →
    ∃ fault, run .record site.state (text ++ c :: rest) offset = .error fault

/-- A text that is refused is refused after other members as well. -/
theorem Breaks.intercalate {before : List (List Char × Members)} {broken : List Char}
    (each : ∀ piece ∈ before, Spells piece.1 piece.2) (h : Breaks broken)
    (after : List (List Char)) (site : Site) (offset : Nat) :
    ∃ fault, run .record site.state
      ([','].intercalate (before.map Prod.fst ++ broken :: after) ++ ['\x7d']) offset =
        .error fault := by
  induction before generalizing site offset with
  | nil =>
    cases after with
    | nil =>
      rw [List.map_nil, List.nil_append, List.intercalate_singleton]
      exact h site '\x7d' [] offset rfl
    | cons next after =>
      rw [List.map_nil, List.nil_append, List.intercalate_cons_cons, List.append_assoc,
        List.append_assoc]
      exact h site ',' _ offset rfl
  | cons piece before ih =>
    rw [List.forall_mem_cons] at each
    obtain ⟨s, reads, ⟨key, comma⟩, -⟩ := each.1 site
    have more : before.map Prod.fst ++ broken :: after ≠ [] :=
      List.append_ne_nil_of_right_ne_nil _ (List.cons_ne_nil _ _)
    rw [List.map_cons, List.cons_append, List.intercalate_cons_of_ne_nil more, List.append_assoc,
      run_append, reads.append (.single comma) offset]
    exact ih each.2 ⟨piece.2.reverse ++ site.older, key, .nextKey, .inr rfl⟩ _

end Reader

theorem toList_object (text : String) :
    ("\x7b" ++ text ++ "\x7d").toList = '\x7b' :: (text.toList ++ ['\x7d']) := by
  rw [String.toList_append, String.toList_append]
  rfl

/-- A text of members is an object between braces. -/
theorem read_of_spells (leading trailing : Space) {text : String} {members : Members}
    (h : Reader.Spells text.toList members) :
    read .record (leading.text ++ ("\x7b" ++ text ++ "\x7d") ++ trailing.text) =
      .ok (.object members) := by
  obtain ⟨s, reads, -, close⟩ := h .first
  have object : Reader.Reads .record Reader.start ("\x7b" ++ text ++ "\x7d").toList
      ⟨[], .done (.object members)⟩ := by
    rw [toList_object]
    exact .cons rfl (reads.append (.single close))
  have before : Reader.Reads .record Reader.start leading.text.toList Reader.start :=
    Reader.reads_spaces trivial leading.blank
  have after : Reader.Reads .record ⟨[], .done (.object members)⟩ trailing.text.toList
      ⟨[], .done (.object members)⟩ := Reader.reads_spaces trivial trailing.blank
  unfold read
  simp only [(before.concat object).concat after 0]
  rfl

namespace Form

open Reader

variable {form : Form} {negative : Bool} {n : Numeral} {digits : List Char} {number : Number}

/-- The literal of a numeral, with its sign. -/
def literal (negative : Bool) (digits : List Char) : String :=
  String.ofList (if negative then '-' :: digits else digits)

/-- The reader of the open member comes to its value. -/
theorem reads_front (form : Form) (site : Site) :
    Reads .record site.state form.front.toList ⟨[.object site.older form.key], .value⟩ := by
  have skips : site.state.phase.Skips := by
    rcases site.starts with h | h <;> simp only [Site.state, h] <;> trivial
  have name : Reads .record site.state ("\"" ++ form.name ++ "\"").toList
      ⟨[.object site.older form.key], .colon⟩ :=
    reads_name form.names site.starts site.older site.last
  have gap : Reads .record ⟨[.object site.older form.key], .colon⟩ form.afterName.text.toList
      ⟨[.object site.older form.key], .colon⟩ := reads_spaces trivial form.afterName.blank
  have colon : Reads .record ⟨[.object site.older form.key], .colon⟩ ":".toList
      ⟨[.object site.older form.key], .value⟩ := .single rfl
  have value : Reads .record ⟨[.object site.older form.key], .value⟩ form.beforeValue.text.toList
      ⟨[.object site.older form.key], .value⟩ := reads_spaces trivial form.beforeValue.blank
  exact ((((reads_spaces skips form.beforeName.blank).concat name).concat gap).concat
    colon).concat value

/-- The reader of the open member comes to the end of a numeral in it. -/
theorem reads_literal (form : Form) (site : Site) (h : Numeral.sign.steps digits = some n)
    (nonempty : digits ≠ []) :
    Reads .record site.state (form.front ++ literal negative digits).toList
      ⟨[.object site.older form.key], .numeral negative n⟩ := by
  rw [String.toList_append, literal, String.toList_ofList]
  exact (reads_front form site).append (reads_numeral (.inl rfl) negative h nonempty)

/-- A number in the open member is the value of its key. -/
theorem spells_member (form : Form) (h : Numeral.sign.steps digits = some n)
    (nonempty : digits ≠ []) (finish : n.finish negative = .ok number) :
    Spells (form.member (literal negative digits)).toList [(form.key, .number number)] := by
  intro site
  have settles : Settles .record [.object site.older form.key] (.number number)
      ⟨[.object site.older form.key], .numeral negative n⟩ := settles_finish rfl finish
  obtain ⟨s, skipped, settled⟩ := settles.skip form.afterValue.blank
  refine ⟨s, ?_, ⟨form.key, ?_⟩, ?_⟩
  · rw [member, String.toList_append]
    exact (reads_literal form site h nonempty).append skipped
  · rw [settled.next ',' rfl]
    rfl
  · rw [settled.next '\x7d' rfl, ← List.reverse_cons]
    rfl

/-- A numeral in the open member that is no number is refused at its end. -/
theorem breaks_member (form : Form) (h : Numeral.sign.steps digits = some n)
    (nonempty : digits ≠ []) (ended : ∀ c, isFollower c = true → n.step c = .over) {reason : Reason}
    (refused : n.finish negative = .error reason) :
    Breaks (form.member (literal negative digits)).toList := by
  intro site c rest offset hc
  have stop (d : Char) (hd : isFollower d = true) : step .record
      ⟨[.object site.older form.key], .numeral negative n⟩ d = .error (reason, 0) := by
    simp only [step, ended d hd, refused]
    rfl
  have next : ∃ d tail, form.afterValue.text.toList ++ c :: rest = d :: tail ∧
      isFollower d = true := by
    have blank := form.afterValue.blank
    cases spaces : form.afterValue.text.toList with
    | nil => exact ⟨c, rest, rfl, hc⟩
    | cons d tail =>
      rw [spaces, List.forall_mem_cons] at blank
      exact ⟨d, tail ++ c :: rest, rfl, by simp [isFollower, blank.1]⟩
  obtain ⟨d, tail, same, hd⟩ := next
  rw [member, String.toList_append, List.append_assoc, same, run_append,
    reads_literal form site h nonempty offset]
  show ∃ fault, run _ _ (d :: tail) _ = _
  rw [run, stop d hd]
  exact ⟨_, rfl⟩

/-! ## The whole text -/

/-- The pieces of some parts. -/
def pieces (parts : List Part) : List (List Char × Members) :=
  parts.map fun part => (part.text.toList, part.members)

theorem spells_pieces (parts : List Part) :
    ∀ piece ∈ pieces parts, Spells piece.1 piece.2 := by
  intro piece mem
  obtain ⟨part, -, rfl⟩ := List.mem_map.1 mem
  exact spells_part part

/-- The texts of the pieces, and the open member among them. -/
theorem toList_inner (form : Form) (literal : String) :
    (form.inner literal).toList =
      [','].intercalate ((pieces form.before).map Prod.fst ++ (form.member literal).toList ::
        (pieces form.after).map Prod.fst) := by
  simp only [inner, String.toList_intercalate, List.map_append, List.map_cons, List.map_map, pieces]
  rfl

/-- With a number in the open member the text is the object with that number. -/
theorem read_numeral (form : Form) (h : Numeral.sign.steps digits = some n)
    (nonempty : digits ≠ []) (finish : n.finish negative = .ok number) :
    read .record (form.text (literal negative digits)) =
      .ok (.object (form.members (.number number))) := by
  refine read_of_spells form.leading form.trailing ?_
  have each : ∀ piece ∈ pieces form.before ++ ((form.member (literal negative digits)).toList,
      [(form.key, .number number)]) :: pieces form.after, Spells piece.1 piece.2 := by
    rw [List.forall_mem_append, List.forall_mem_cons]
    exact ⟨spells_pieces _, spells_member form h nonempty finish, spells_pieces _⟩
  have spells := Spells.intercalate
    (List.append_ne_nil_of_right_ne_nil _ (List.cons_ne_nil _ _)) each
  rw [toList_inner]
  simpa [members, pieces, List.flatMap_map] using spells

/-- With a numeral that is no number in the open member the text is refused. -/
theorem refuses_numeral (form : Form) (h : Numeral.sign.steps digits = some n)
    (nonempty : digits ≠ []) (ended : ∀ c, isFollower c = true → n.step c = .over) {reason : Reason}
    (refused : n.finish negative = .error reason) :
    ∃ e, read .record (form.text (literal negative digits)) = .error e := by
  have broken (offset : Nat) : ∃ fault, run .record start
      ("\x7b" ++ form.inner (literal negative digits) ++ "\x7d").toList offset = .error fault := by
    rw [toList_object, toList_inner]
    exact (breaks_member form h nonempty ended refused).intercalate (spells_pieces form.before)
      ((pieces form.after).map Prod.fst) .first _
  have before : Reads .record start form.leading.text.toList start :=
    reads_spaces trivial form.leading.blank
  obtain ⟨fault, stops⟩ := broken (0 + Reader.size form.leading.text.toList)
  have whole : run .record start (form.text (literal negative digits)).toList 0 =
      .error fault := by
    rw [text, String.toList_append, String.toList_append, List.append_assoc, run_append, before 0]
    exact run_append_of_error stops form.trailing.text.toList
  unfold read
  simp only [whole]
  exact ⟨_, rfl⟩

/-! ## Integers -/

theorem toString_eq_literal (z : Int) :
    toString z = literal (decide (z < 0)) (Digits.digits z.natAbs) := by
  rw [← Digits.ofList_decimal]
  simp [literal, Digits.decimal]

theorem digits_ne_nil (n : Nat) : Digits.digits n ≠ [] :=
  List.ne_nil_of_length_pos (Digits.length_digits_pos n)

/-- An integer that 64 bits hold, with or without a sign. -/
theorem read_integer (form : Form) {z : Int}
    (range : -0x8000000000000000 ≤ z ∧ z < 0x10000000000000000) :
    read .record (form.text (toString z)) =
      .ok (.object (form.members (.number (.integer z range)))) := by
  rw [toString_eq_literal]
  exact form.read_numeral (steps_digits (by omega)) (digits_ne_nil _) (finish_integer range)

/-- An integer that 64 bits do not hold is a fraction, or makes the whole text none. -/
theorem read_beyond (form : Form) {z : Int}
    (beyond : ¬(-0x8000000000000000 ≤ z ∧ z < 0x10000000000000000)) :
    (∃ x, read .record (form.text (toString z)) =
      .ok (.object (form.members (.number (.fraction x))))) ∨
    ∃ e, read .record (form.text (toString z)) = .error e := by
  rw [toString_eq_literal]
  by_cases held : z.natAbs < 0x10000000000000000
  · -- The digits are kept, but the integer is below the range.
    refine .inl ⟨Binary64.ofWord (decide (z < 0)) z.natAbs,
      form.read_numeral (steps_digits held) (digits_ne_nil _) ?_⟩
    have value : (if decide (z < 0) then -(z.natAbs : Int) else z.natAbs) = z := by
      simp only [decide_eq_true_eq]
      omega
    have plain : ¬((decide (z < 0) && z.natAbs == 0) = true) := by
      rw [Bool.and_eq_true, beq_iff_eq]
      omega
    rw [wholeNumeral, if_neg (by omega), Numeral.finish, Numeral.integer, if_neg plain, value,
      Number.ofInt?, dif_neg beyond]
    rfl
  · obtain ⟨kept, dropped, h⟩ := steps_digits_long (Nat.le_of_not_lt held)
    have ended (c : Char) (hc : isFollower c = true) :
        (Numeral.long kept dropped).step c = .over := by
      obtain ⟨digit, point, small, large, -, -⟩ := not_isDigit_of_isFollower hc
      simp [Numeral.step, Numeral.orMark, digit, point, small, large]
    cases finish : (Numeral.long kept dropped).finish (decide (z < 0)) with
    | error reason => exact .inr (form.refuses_numeral h (digits_ne_nil _) ended finish)
    | ok number =>
      have scaled : ∃ x, number = .fraction x := by
        rw [Numeral.finish, Numeral.scaled] at finish
        split at finish
        · cases finish
          exact ⟨_, rfl⟩
        · cases finish
      obtain ⟨x, rfl⟩ := scaled
      exact .inl ⟨x, form.read_numeral h (digits_ne_nil _) finish⟩

/-- Minus zero is a fraction. -/
theorem read_minusZero (form : Form) :
    read .record (form.text "-0") =
      .ok (.object (form.members (.number (.fraction (Binary64.zero true))))) := by
  have text : "-0" = literal true ['0'] := rfl
  have digit : Numeral.sign.steps ['0'] = some .zero := rfl
  have finish : Numeral.zero.finish true = .ok (.fraction (Binary64.zero true)) := rfl
  rw [text]
  exact form.read_numeral digit (List.cons_ne_nil _ _) finish

end Form

end Json

end GatewayDesk
