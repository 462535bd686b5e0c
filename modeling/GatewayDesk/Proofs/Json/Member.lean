import GatewayDesk.Proofs.Json.Nesting

/-!
# Objects read member by member

A text of members that is an object between braces may stand among other members. There the reader
goes through the same states, with the members before it below those that it reads. So the text of
an object is read piece by piece, wherever it is cut at a comma between members.

* `Course`: the states of the reader over a text of members, as functions of where the text stands.
* `step_course`: a step does the same wherever the text stands.
* `spells_of_run`: a text that is an object between braces is one of members.
* `Spells.join`: two texts of members, with a comma between them.
-/

namespace GatewayDesk

namespace Json

namespace Reader

/-- Where a text of members starts: the members before it, the last first, the last key, and
whether a comma has been read. -/
structure Site where
  older : Members
  last : String
  phase : Phase
  starts : phase = .firstKey ∨ phase = .nextKey

/-- The state in which a text of members starts. -/
def Site.state (site : Site) : State := ⟨[.object site.older site.last], site.phase⟩

/-- Where the members of an object start. -/
def Site.first : Site := ⟨[], "", .firstKey, .inl rfl⟩

/-- The phases within a key. -/
def Phase.InKey : Phase → Prop
  | .text .key _ | .escape .key _ | .hex .key _ _ _ _ | .secondSlash .key _ _
  | .secondLetter .key _ _ => True
  | _ => False

/-- How far the reader has come in a text of members. -/
inductive Course where
  /-- Before the first key. -/
  | start
  /-- Within the first key. -/
  | naming (phase : Phase) (inKey : phase.InKey)
  /-- After the first key, with the members that have ended, the last first, and what is open in the
  value of the last key. -/
  | inside (inner : List Frame) (members : Members) (key : String) (phase : Phase)
    (named : inner = [] → phase ≠ .firstKey)
  /-- After the brace that closes the object. -/
  | closed (members : Members)

/-- The state of the reader that has come so far in a text that stands somewhere. -/
def Course.at (course : Course) (site : Site) : State :=
  match course with
  | .start => site.state
  | .naming phase _ => ⟨[.object site.older site.last], phase⟩
  | .inside inner members key phase _ =>
    ⟨inner ++ [.object (members ++ site.older) key], phase⟩
  | .closed members => ⟨[], .done (.object (site.older.reverse ++ members))⟩

/-- Whether something leads on in the same way wherever the text stands. -/
def Moves (result : Site → Except Stop State) : Prop :=
  (∃ stop, ∀ site, result site = .error stop) ∨
    ∃ next : Course, ∀ site, result site = .ok (next.at site)

variable {inner : List Frame} {members : Members} {key : String} {phase : Phase} {c : Char}

/-! ## Values that end -/

/-- Inside an object any value may stand. -/
theorem wanted_inside (inner : List Frame) (frame : Frame) :
    wanted .record (inner ++ [frame]) = none := by
  cases inner <;> rfl

/-- A value that ends is put where it belongs, wherever the text stands. -/
theorem complete_inside (inner : List Frame) (members : Members) (key : String) (value : Json) :
    ∃ inner' members', ∀ older,
      complete (inner ++ [.object (members ++ older) key]) value =
        ⟨inner' ++ [.object (members' ++ older) key], .comma⟩ := by
  match inner with
  | [] => exact ⟨[], (key, value) :: members, fun _ => rfl⟩
  | .array items :: inner => exact ⟨.array (value :: items) :: inner, members, fun _ => rfl⟩
  | .object others last :: inner =>
    exact ⟨.object ((last, value) :: others) last :: inner, members, fun _ => rfl⟩

theorem moves_complete (inner : List Frame) (members : Members) (key : String) (value : Json) :
    Moves fun site => .ok (complete (inner ++ [.object (members ++ site.older) key]) value) := by
  obtain ⟨inner', members', done⟩ := complete_inside inner members key value
  exact .inr ⟨.inside inner' members' key .comma (by simp), fun site => congrArg _ (done _)⟩

theorem moves_completeScalar (inner : List Frame) (members : Members) (key : String) (value : Json)
    (past : Nat) : Moves fun site =>
      completeScalar .record (inner ++ [.object (members ++ site.older) key]) value past := by
  simp only [completeScalar, wanted_inside]
  exact moves_complete inner members key value

/-! ## Between values -/

theorem moves_afterValue (inner : List Frame) (members : Members) (key : String) (c : Char) :
    Moves fun site => afterValue (inner ++ [.object (members ++ site.older) key]) c := by
  match inner with
  | [] =>
    simp only [List.nil_append, afterValue]
    split
    · exact .inr ⟨.closed members.reverse, fun site => by simp [complete, Course.at]⟩
    · split
      · exact .inr ⟨.inside [] members key .nextKey (by simp), fun _ => rfl⟩
      · exact .inl ⟨_, fun _ => rfl⟩
  | .array items :: inner =>
    simp only [List.cons_append, afterValue]
    split
    · exact moves_complete inner members key _
    · split
      · exact .inr ⟨.inside (.array items :: inner) members key .nextItem (by simp), fun _ => rfl⟩
      · exact .inl ⟨_, fun _ => rfl⟩
  | .object others last :: inner =>
    simp only [List.cons_append, afterValue]
    split
    · exact moves_complete inner members key _
    · split
      · exact .inr ⟨.inside (.object others last :: inner) members key .nextKey (by simp),
          fun _ => rfl⟩
      · exact .inl ⟨_, fun _ => rfl⟩

theorem moves_between (inner : List Frame) (members : Members) (key : String) (phase : Phase)
    (named : inner = [] → phase ≠ .firstKey) (c : Char) :
    Moves fun site => between ((Course.inside inner members key phase named).at site) c := by
  unfold between
  split
  · exact .inr ⟨.inside inner members key phase named, fun _ => rfl⟩
  · exact moves_afterValue inner members key c

/-! ## Steps -/

theorem moves_openFrame (inner : List Frame) (members : Members) (key : String) (frame : Frame)
    (phase : Phase) (refused : Shape) (found : Found) : Moves fun site =>
      openFrame .record (inner ++ [.object (members ++ site.older) key]) frame phase refused
        found := by
  simp only [openFrame, wanted_inside, List.length_append, List.length_singleton,
    reduceCtorEq, if_false]
  split
  · exact .inr ⟨.inside (frame :: inner) members key phase (by simp), fun _ => rfl⟩
  · exact .inl ⟨_, fun _ => rfl⟩

theorem moves_endArray (inner : List Frame) (members : Members) (key : String) (phase : Phase) :
    Moves fun site =>
      Event.endArray.apply .record ⟨inner ++ [.object (members ++ site.older) key], phase⟩ := by
  match inner with
  | [] => exact .inl ⟨_, fun _ => rfl⟩
  | .array items :: inner => exact moves_complete inner members key _
  | .object others last :: inner => exact .inl ⟨_, fun _ => rfl⟩

theorem moves_endObject (inner : List Frame) (members : Members) (key : String) (phase : Phase) :
    Moves fun site =>
      Event.endObject.apply .record ⟨inner ++ [.object (members ++ site.older) key], phase⟩ := by
  match inner with
  | [] =>
    exact .inr ⟨.closed members.reverse, fun site => by simp [Event.apply, Course.at, complete]⟩
  | .array items :: inner => exact .inl ⟨_, fun _ => rfl⟩
  | .object others last :: inner => exact moves_complete inner members key _

theorem moves_key (inner : List Frame) (members : Members) (key : String) (phase : Phase)
    (text : List Char) : Moves fun site =>
      (Event.key text).apply .record ⟨inner ++ [.object (members ++ site.older) key], phase⟩ := by
  match inner with
  | [] =>
    exact .inr ⟨.inside [] members (String.ofList text.reverse) .colon (by simp), fun _ => rfl⟩
  | .array items :: inner => exact moves_completeScalar (.array items :: inner) members key _ 1
  | .object others last :: inner =>
    exact .inr ⟨.inside (.object others (String.ofList text.reverse) :: inner) members key .colon
      (by simp), fun _ => rfl⟩

/-- An event does the same wherever the text stands. -/
theorem moves_apply (e : Event) (inner : List Frame) (members : Members) (key : String)
    (phase : Phase) (named : inner = [] → phase ≠ .firstKey)
    (turns : ∀ next unfinished, e = .turn next unfinished → inner = [] → next ≠ .firstKey) :
    Moves fun site =>
      e.apply .record ((Course.inside inner members key phase named).at site) := by
  cases e with
  | fault stop => exact .inl ⟨stop, fun _ => rfl⟩
  | pass => exact .inr ⟨.inside inner members key phase named, fun _ => rfl⟩
  | turn next unfinished =>
    exact .inr ⟨.inside inner members key next (turns next unfinished rfl), fun _ => rfl⟩
  | openArray => exact moves_openFrame inner members key _ _ _ _
  | openObject => exact moves_openFrame inner members key _ _ _ _
  | endArray => exact moves_endArray inner members key phase
  | endObject => exact moves_endObject inner members key phase
  | key text => exact moves_key inner members key phase text
  | scalar value past => exact moves_completeScalar inner members key value past
  | after c => exact moves_between inner members key phase named c
  | number n c =>
    obtain ⟨inner', members', done⟩ := complete_inside inner members key (.number n)
    have next := moves_between inner' members' key .comma (by simp) c
    have same (site : Site) :
        (Event.number n c).apply .record ((Course.inside inner members key phase named).at site) =
          between ((Course.inside inner' members' key .comma (by simp)).at site) c := by
      simp only [Event.apply, Course.at, completeScalar, wanted_inside, done]
      rfl
    simp only [same]
    exact next

theorem startValue_ne_firstKey : startValue .any [] c ≠ .ok ⟨[], .firstKey⟩ := by
  intro h
  unfold startValue at h
  repeat' split at h
  all_goals cases h

theorem between_ne_firstKey (other : phase ≠ .firstKey) :
    between ⟨[], phase⟩ c ≠ .ok ⟨[], .firstKey⟩ := by
  intro h
  unfold between at h
  split at h
  · cases h
    exact other rfl
  · cases h

/-- No character leads back to before the first key. -/
theorem eq_firstKey_of_step (h : step .any ⟨[], phase⟩ c = .ok ⟨[], .firstKey⟩) :
    phase = .firstKey := by
  cases phase with
  | firstKey => rfl
  | comma => exact absurd h (between_ne_firstKey (by simp))
  | done _ => exact absurd h (between_ne_firstKey (by simp))
  | text role done =>
    unfold step at h
    dsimp only at h
    split at h
    · cases role <;> cases h
    · repeat' split at h
      all_goals cases h
  | hex role done lead digits bytes =>
    obtain ⟨phase, hp, h⟩ := Except.bind_eq_ok.1 h
    rcases cases_of_stepHex hp with ⟨_, _, rfl⟩ | ⟨_, rfl⟩ | ⟨_, rfl⟩
    all_goals cases h
  | numeral negative n =>
    unfold step at h
    dsimp only at h
    split at h
    · cases h
    · cases h
    · obtain ⟨m, -, h⟩ := Except.bind_eq_ok.1 h
      obtain ⟨s, hs, h⟩ := Except.bind_eq_ok.1 h
      cases hs
      exact absurd h (between_ne_firstKey (by simp))
  | firstItem =>
    unfold step at h
    dsimp only at h
    split at h
    · cases h
    · split at h
      · rename_i nothing _
        cases nothing
      · exact absurd h startValue_ne_firstKey
  | nextKey =>
    unfold step startKey at h
    dsimp only at h
    repeat' split at h
    all_goals cases h
  | value | nextItem =>
    unfold step at h
    dsimp only at h
    repeat' split at h
    all_goals first
      | exact absurd h startValue_ne_firstKey
      | cases h
  | colon | word | escape | secondSlash | secondLetter =>
    unfold step at h
    dsimp only at h
    repeat' split at h
    all_goals cases h

/-- After the first key a step does the same wherever the text stands. -/
theorem moves_inside (inner : List Frame) (members : Members) (key : String) (phase : Phase)
    (named : inner = [] → phase ≠ .firstKey) (c : Char) :
    Moves fun site => step .record ((Course.inside inner members key phase named).at site) c := by
  obtain ⟨e, -, he⟩ := exists_event phase c
  have same (site : Site) : step .record ((Course.inside inner members key phase named).at site) c =
      e.apply .record ((Course.inside inner members key phase named).at site) := he _ _
  simp only [same]
  refine moves_apply e inner members key phase named fun next unfinished turn top => ?_
  rintro rfl
  refine named top (eq_firstKey_of_step ((he .any []).trans ?_))
  rw [turn]
  rfl

theorem inKey_of_stepHex {done digits : List Char} {lead : Option Nat} {bytes : Nat}
    (h : stepHex .key done lead digits bytes c = .ok phase) : phase.InKey := by
  rcases cases_of_stepHex h with ⟨_, _, rfl⟩ | ⟨_, rfl⟩ | ⟨_, rfl⟩
  all_goals trivial

/-- Within the first key a step does the same wherever the text stands, and closes nothing. -/
theorem step_naming (inKey : phase.InKey) (c : Char) :
    (∃ stop, ∀ site, step .record ((Course.naming phase inKey).at site) c = .error stop) ∨
      ∃ next : Course, (∀ members, next ≠ .closed members) ∧
        ∀ site, step .record ((Course.naming phase inKey).at site) c = .ok (next.at site) := by
  -- A character of a key does nothing to what is open, and only its end needs the object.
  cases phase with
  | text role done =>
    cases role with
    | value => exact inKey.elim
    | key =>
      simp only [Course.at, step]
      split
      · exact .inr ⟨.inside [] [] (String.ofList done.reverse) .colon (by simp), (by simp),
          fun _ => rfl⟩
      split
      · exact .inr ⟨.naming (.escape .key done) trivial, (by simp), fun _ => rfl⟩
      split
      · exact .inl ⟨_, fun _ => rfl⟩
      · exact .inr ⟨.naming (.text .key (c :: done)) trivial, (by simp), fun _ => rfl⟩
  | escape role done =>
    cases role with
    | value => exact inKey.elim
    | key =>
      simp only [Course.at, step]
      split
      · exact .inr ⟨.naming (.hex .key done none [] 0) trivial, (by simp), fun _ => rfl⟩
      split
      · exact .inr ⟨.naming (.text .key (_ :: done)) trivial, (by simp), fun _ => rfl⟩
      · exact .inl ⟨_, fun _ => rfl⟩
  | hex role done lead digits bytes =>
    cases role with
    | value => exact inKey.elim
    | key =>
      simp only [Course.at, step]
      cases next : stepHex .key done lead digits bytes c with
      | error stop => exact .inl ⟨stop, fun _ => rfl⟩
      | ok phase => exact .inr ⟨.naming phase (inKey_of_stepHex next), (by simp), fun _ => rfl⟩
  | secondSlash role done lead =>
    cases role with
    | value => exact inKey.elim
    | key =>
      simp only [Course.at, step]
      split
      · exact .inr ⟨.naming (.secondLetter .key done lead) trivial, (by simp), fun _ => rfl⟩
      · exact .inl ⟨_, fun _ => rfl⟩
  | secondLetter role done lead =>
    cases role with
    | value => exact inKey.elim
    | key =>
      simp only [Course.at, step]
      split
      · exact .inr ⟨.naming (.hex .key done (some lead) [] 0) trivial, (by simp), fun _ => rfl⟩
      · exact .inl ⟨_, fun _ => rfl⟩
  | _ => exact inKey.elim

/-- Before the first key a step does the same wherever the text stands, unless the object ends. -/
theorem moves_start (hc : c ≠ '\x7d') :
    Moves fun site => step .record (Course.start.at site) c := by
  by_cases space : isSpace c = true
  · refine .inr ⟨.start, fun site => step_space ?_ space⟩
    rcases site.starts with h | h <;> simp only [Course.at, Site.state, h] <;> trivial
  · have visible : isSpace c = false := by simpa using space
    have opens (site : Site) : step .record (Course.start.at site) c =
        startKey [.object site.older site.last] c := by
      rcases site.starts with h | h <;> simp [Course.at, Site.state, h, step, visible, hc]
    simp only [opens, startKey]
    split
    · exact .inr ⟨.naming (.text .key []) trivial, fun _ => rfl⟩
    · exact .inl ⟨_, fun _ => rfl⟩

/-- A step does the same wherever the text stands, unless the object ends before its first key. -/
theorem step_course (course : Course) (hc : course = .start → c ≠ '\x7d') :
    (∃ stop, ∀ site, step .record (course.at site) c = .error stop) ∨
      ∃ next : Course, ∀ site, step .record (course.at site) c = .ok (next.at site) := by
  cases course with
  | start => exact moves_start (hc rfl)
  | naming phase inKey => exact (step_naming inKey c).imp_right fun ⟨next, _, same⟩ => ⟨next, same⟩
  | inside inner members key phase named => exact moves_inside inner members key phase named c
  | closed members =>
    have passes (site : Site) : step .record ((Course.closed members).at site) c =
        if isSpace c then .ok ((Course.closed members).at site)
        else .error (.trailingText, 1) := rfl
    simp only [passes]
    split
    · exact .inr ⟨.closed members, fun _ => rfl⟩
    · exact .inl ⟨_, fun _ => rfl⟩

/-! ## Texts of members -/

/-- Whether a text is read as members wherever in an object it stands: a comma may follow it, or the
end of the object. -/
def Spells (text : List Char) (members : Members) : Prop :=
  ∀ site : Site, ∃ s, Reads .record site.state text s ∧
    (∃ key, step .record s ',' =
      .ok ⟨[.object (members.reverse ++ site.older) key], .nextKey⟩) ∧
    step .record s '\x7d' = .ok ⟨[], .done (.object (site.older.reverse ++ members))⟩

theorem complete_ne_done (inner : List Frame) (members : Members) (key : String)
    (value other : Json) :
    complete (inner ++ [.object members key]) value ≠ ⟨[], .done other⟩ := by
  match inner with
  | [] => simp [complete]
  | .array items :: inner => simp [complete]
  | .object others last :: inner => simp [complete]

theorem opened_ne_done (inner : List Frame) (frame : Frame) (phase : Phase) (whole : Json) :
    State.mk (inner ++ [frame]) phase ≠ ⟨[], .done whole⟩ := by
  intro h
  exact List.append_ne_nil_of_right_ne_nil inner (List.cons_ne_nil frame [])
    (congrArg State.stack h)

/-- Only where nothing is open in the object, a brace closes it. -/
theorem close_afterValue {whole : Json}
    (h : afterValue (inner ++ [.object members key]) '\x7d' = .ok ⟨[], .done whole⟩) :
    inner = [] ∧ whole = .object members.reverse := by
  match inner, h with
  | [], h =>
    cases h
    exact ⟨rfl, rfl⟩
  | .array items :: inner, h => cases h
  | .object others last :: inner, h =>
    exact absurd (Except.ok.inj h) (complete_ne_done inner members key _ whole)

/-- Where a brace closes the object after a value, a comma may follow the value as well. -/
theorem comma_of_close (named : inner = [] → phase ≠ .firstKey) {whole : Json}
    (h : step .record ⟨inner ++ [.object members key], phase⟩ '\x7d' = .ok ⟨[], .done whole⟩) :
    ∃ members', whole = .object members'.reverse ∧ ∀ older,
      step .record ⟨inner ++ [.object (members ++ older) key], phase⟩ ',' =
        .ok ⟨[.object (members' ++ older) key], .nextKey⟩ := by
  cases phase with
  | comma =>
    obtain ⟨rfl, rfl⟩ := close_afterValue h
    exact ⟨members, rfl, fun _ => rfl⟩
  | done _ =>
    obtain ⟨rfl, rfl⟩ := close_afterValue h
    exact ⟨members, rfl, fun _ => rfl⟩
  | numeral negative n =>
    cases hf : n.finish negative with
    | error reason =>
      unfold step at h
      simp only [hf] at h
      split at h
      · exact absurd (Except.ok.inj h) (opened_ne_done _ _ _ _)
      · cases h
      · cases h
    | ok m =>
      -- The number ends with the character that follows it, and then the object is at a comma.
      obtain ⟨inner', members', done⟩ := complete_inside inner members key (.number m)
      have next (older : Members) {c : Char} (hc : isFollower c = true) :
          step .record ⟨inner ++ [.object (members ++ older) key], .numeral negative n⟩ c =
            between ⟨inner' ++ [.object (members' ++ older) key], .comma⟩ c := by
        rw [(settles_finish (wanted_inside _ _) hf).next c hc, step_complete, done]
      have closed := next [] (c := '\x7d') rfl
      rw [List.append_nil, List.append_nil, h] at closed
      obtain ⟨rfl, rfl⟩ := close_afterValue closed.symm
      exact ⟨members', rfl, fun older => next older rfl⟩
  | firstKey =>
    match inner, h with
    | [], _ => exact absurd rfl (named rfl)
    | .array items :: inner, h => cases h
    | .object others last :: inner, h =>
      exact absurd (Except.ok.inj h) (complete_ne_done inner members key _ whole)
  | word rest value =>
    unfold step at h
    dsimp only at h
    split at h
    · cases h
    split at h
    · split at h
      · rw [completeScalar, wanted_inside] at h
        exact absurd (Except.ok.inj h) (complete_ne_done inner members key _ whole)
      · exact absurd (Except.ok.inj h) (opened_ne_done _ _ _ _)
    · cases h
  | hex role done lead digits bytes =>
    obtain ⟨phase, -, h⟩ := Except.bind_eq_ok.1 h
    exact absurd (Except.ok.inj h) (opened_ne_done _ _ _ _)
  | value => cases h
  | firstItem => cases h
  | nextItem => cases h
  | nextKey => cases h
  | colon => cases h
  | text role done => exact absurd (Except.ok.inj h) (opened_ne_done _ _ _ _)
  | escape role done => cases h
  | secondSlash role done lead => cases h
  | secondLetter role done lead => cases h

theorem closed_of_at {course : Course} {site : Site} {whole : Json}
    (h : course.at site = ⟨[], .done whole⟩) :
    ∃ members, course = .closed members ∧ .object (site.older.reverse ++ members) = whole := by
  cases course with
  | start => cases h
  | naming phase inKey => cases h
  | inside inner members key phase named => exact absurd h (opened_ne_done _ _ _ _)
  | closed members =>
    cases h
    exact ⟨members, rfl, rfl⟩

/-- Where a brace closes an object with members, the text of members may end: it does the same
wherever the text stands, and so does a comma. -/
theorem ends_of_close {course : Course}
    (h : step .record (course.at .first) '\x7d' = .ok ⟨[], .done (.object members)⟩)
    (nonempty : members ≠ []) (site : Site) :
    (∃ key, step .record (course.at site) ',' =
        .ok ⟨[.object (members.reverse ++ site.older) key], .nextKey⟩) ∧
      step .record (course.at site) '\x7d' =
        .ok ⟨[], .done (.object (site.older.reverse ++ members))⟩ := by
  have started : course ≠ .start := by
    rintro rfl
    cases h
    exact nonempty rfl
  have same : step .record (course.at site) '\x7d' =
      .ok ⟨[], .done (.object (site.older.reverse ++ members))⟩ := by
    rcases step_course course (fun start => absurd start started) with ⟨stop, stops⟩ | ⟨next, goes⟩
    · rw [stops] at h
      cases h
    · rw [goes] at h
      obtain ⟨members', rfl, same⟩ := closed_of_at (Except.ok.inj h)
      cases same
      exact goes site
  refine ⟨?_, same⟩
  cases course with
  | start => exact absurd rfl started
  | naming phase inKey =>
    rcases step_naming inKey '\x7d' with ⟨stop, stops⟩ | ⟨next, opened, goes⟩
    · rw [stops] at h
      cases h
    · rw [goes] at h
      obtain ⟨members', closed, -⟩ := closed_of_at (Except.ok.inj h)
      exact absurd closed (opened members')
  | inside inner others key phase named =>
    have last : step .record ⟨inner ++ [.object others key], phase⟩ '\x7d' =
        .ok ⟨[], .done (.object members)⟩ := by
      simpa [Course.at, Site.first] using h
    obtain ⟨others', whole, next⟩ := comma_of_close named last
    cases whole
    exact ⟨key, by rw [List.reverse_reverse]; exact next site.older⟩
  | closed others => cases h

/-- After the outermost value only white space follows. -/
theorem run_done {shape : Shape} {value : Json} {text : List Char} (hc : isSpace c = false)
    {offset : Nat} {t : State} : run shape ⟨[], .done value⟩ (text ++ [c]) offset ≠ .ok t := by
  have passes (d : Char) : step shape ⟨[], .done value⟩ d =
      if isSpace d then .ok ⟨[], .done value⟩ else .error (.trailingText, 1) := rfl
  induction text generalizing offset with
  | nil =>
    simp [run, passes, hc]
  | cons d text ih =>
    rw [List.cons_append, run, passes]
    cases isSpace d with
    | true => exact ih
    | false => simp

/-- A text after which a brace closes an object with members is one of members, from wherever in it
the reader is. -/
theorem spells_of_run {text : List Char} {course : Course} {offset : Nat}
    (h : run .record (course.at .first) (text ++ ['\x7d']) offset =
      .ok ⟨[], .done (.object members)⟩) (nonempty : members ≠ []) (site : Site) :
    ∃ s, Reads .record (course.at site) text s ∧
      (∃ key, step .record s ',' =
        .ok ⟨[.object (members.reverse ++ site.older) key], .nextKey⟩) ∧
      step .record s '\x7d' = .ok ⟨[], .done (.object (site.older.reverse ++ members))⟩ := by
  induction text generalizing course offset with
  | nil =>
    refine ⟨course.at site, Reads.nil, ends_of_close ?_ nonempty site⟩
    rw [List.nil_append, run] at h
    split at h
    case h_1 u hu =>
      cases h
      exact hu
    case h_2 => cases h
  | cons c text ih =>
    rw [List.cons_append, run] at h
    split at h
    case h_2 => cases h
    case h_1 u hu =>
      by_cases early : course = .start ∧ c = '\x7d'
      · obtain ⟨rfl, rfl⟩ := early
        cases hu
        exact absurd h (run_done rfl)
      · rcases step_course course (fun start brace => early ⟨start, brace⟩) with
          ⟨stop, stops⟩ | ⟨next, goes⟩
        · rw [stops] at hu
          cases hu
        · rw [goes] at hu
          cases hu
          obtain ⟨s, reads, ends⟩ := ih h
          exact ⟨s, .cons (goes site) reads, ends⟩

/-! ## Members joined by commas -/

theorem Spells.join {a b : List Char} {first later : Members} (ha : Spells a first)
    (hb : Spells b later) : Spells (a ++ ',' :: b) (first ++ later) := by
  intro site
  obtain ⟨s, reads, ⟨key, comma⟩, -⟩ := ha site
  obtain ⟨t, reads', ⟨key', comma'⟩, close'⟩ :=
    hb ⟨first.reverse ++ site.older, key, .nextKey, .inr rfl⟩
  refine ⟨t, reads.append (.cons comma reads'), ⟨key', ?_⟩, ?_⟩
  · rw [List.reverse_append, List.append_assoc]
    exact comma'
  · rw [close', List.reverse_append, List.reverse_reverse, List.append_assoc]

end Reader

end Json

end GatewayDesk
