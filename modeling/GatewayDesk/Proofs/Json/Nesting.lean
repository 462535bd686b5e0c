import GatewayDesk.Proofs.Json.Depth
import GatewayDesk.Proofs.Json.Shape
import Mathlib.Data.List.Forall2

/-!
# Texts inside a list

The text of an object may stand as an item of a list. There the reader of a list goes through the
states of the reader of one object, with the list below what is open. So it takes the text as the
same value, unless the text opens as many containers as may be open: the list is one more.

* `State.within`: a state of the reader of one object, inside a list.
* `lifts_step`, `lifts_run`: the reader of a list follows it there, or finds the text too deep.
* `reads_element`, `refuses_element`: what a list makes of the text of an object.
* `reads_elements`, `refuses_elements`: what it makes of several, up to its end.
-/

namespace GatewayDesk

namespace Json

namespace Reader

/-! ## States inside a list -/

/-- A state of the reader of one object, inside a list with the items `done`, the last first. -/
def State.within (done : List Json) (s : State) : State :=
  match s.phase with
  | .done value => ⟨[.array (value :: done)], .comma⟩
  | phase => ⟨s.stack ++ [.array done], phase⟩

variable {stack : List Frame} {phase : Phase} {s t : State} {c : Char} {done : List Json}

theorem within_of_unfinished (unfinished : ∀ value, phase ≠ .done value) :
    (State.mk stack phase).within done = ⟨stack ++ [.array done], phase⟩ := by
  cases phase with
  | done value => exact absurd rfl (unfinished value)
  | _ => rfl

theorem complete_within (stack : List Frame) (value : Json) :
    complete (stack ++ [.array done]) value = (complete stack value).within done := by
  match stack with
  | [] => rfl
  | .array _ :: _ => rfl
  | .object _ _ :: _ => rfl

/-- A list of objects asks of its items what the reader of one object asks of the whole. -/
theorem wanted_within (stack : List Frame) :
    wanted .records (stack ++ [.array done]) = wanted .record stack := by
  match stack with
  | [] => rfl
  | .array _ :: [] => rfl
  | .object _ _ :: [] => rfl
  | .array _ :: _ :: _ => rfl
  | .object _ _ :: _ :: _ => rfl

/-! ## Steps inside a list -/

/-- Whether a step inside a list follows one to `t`, or finds that too deep. -/
def Lifts (done : List Json) (t : State) (x : Except Stop State) : Prop :=
  x = .ok (t.within done) ∨ depthLimit ≤ t.peak ∧ x = .error (.tooDeep, 1)

theorem lifts_openFrame {frame : Frame} {refused : Shape} {found : Found}
    (unfinished : ∀ value, phase ≠ .done value)
    (ht : openFrame .record stack frame phase refused found = .ok t) :
    Lifts done t (openFrame .records (stack ++ [.array done]) frame phase refused found) := by
  unfold openFrame at ht ⊢
  rw [wanted_within, List.length_append, List.length_singleton]
  split at ht
  case isTrue => cases ht
  case isFalse asked =>
    rw [if_neg asked]
    split at ht
    case isFalse => cases ht
    case isTrue =>
      cases ht
      by_cases room : stack.length + 1 < depthLimit
      · rw [if_pos room]
        exact .inl (by rw [within_of_unfinished unfinished, List.cons_append])
      · rw [if_neg room]
        refine .inr ⟨?_, rfl⟩
        rw [peak_of_unfinished unfinished, peakOf]
        omega

theorem within_completeScalar {value : Json} {past : Nat}
    (ht : completeScalar .record stack value past = .ok t) :
    completeScalar .records (stack ++ [.array done]) value past = .ok (t.within done) := by
  unfold completeScalar at ht ⊢
  rw [wanted_within]
  split at ht
  case h_1 => cases ht
  case h_2 =>
    cases ht
    rw [complete_within]

theorem within_completeText {role : Role} {text : List Char}
    (ht : completeText .record stack role text = .ok t) :
    completeText .records (stack ++ [.array done]) role text = .ok (t.within done) := by
  match role, stack, ht with
  | .key, .object _ _ :: _, ht => cases ht; rfl
  | .key, .array _ :: _, ht => exact within_completeScalar ht
  | .value, _, ht => exact within_completeScalar ht

theorem within_afterValue (ht : afterValue stack c = .ok t) :
    afterValue (stack ++ [.array done]) c = .ok (t.within done) := by
  match stack, ht with
  | .array items :: rest, ht =>
    simp only [afterValue, List.cons_append] at ht ⊢
    split at ht
    case isTrue h => cases ht; rw [if_pos h, complete_within]
    case isFalse h =>
      rw [if_neg h]
      split at ht
      case isTrue h => cases ht; rw [if_pos h]; rfl
      case isFalse => cases ht
  | .object members key :: rest, ht =>
    simp only [afterValue, List.cons_append] at ht ⊢
    split at ht
    case isTrue h => cases ht; rw [if_pos h, complete_within]
    case isFalse h =>
      rw [if_neg h]
      split at ht
      case isTrue h => cases ht; rw [if_pos h]; rfl
      case isFalse => cases ht

theorem within_between (sound : s.IsSound) (ht : between s c = .ok t) :
    between (s.within done) c = .ok (t.within done) := by
  unfold between at ht ⊢
  split at ht
  case isTrue blank => cases ht; exact if_pos blank
  case isFalse visible =>
    rw [if_neg visible]
    obtain ⟨stack, phase⟩ := s
    by_cases ended : ∃ value, phase = .done value
    · obtain ⟨value, rfl⟩ := ended
      obtain rfl : stack = [] := sound.alone value rfl
      cases ht
    · rw [within_of_unfinished (not_exists.1 ended)]
      exact within_afterValue ht

theorem lifts_apply {e : Event} (done : List Json) (sound : s.IsSound)
    (unfinished : ∀ value, s.phase ≠ .done value) (ht : e.apply .record s = .ok t) :
    Lifts done t (e.apply .records (s.within done)) := by
  obtain ⟨stack, phase⟩ := s
  have inside : (State.mk stack phase).within done = ⟨stack ++ [.array done], phase⟩ :=
    within_of_unfinished unfinished
  cases e with
  | fault stop => cases ht
  | pass => cases ht; exact .inl rfl
  | turn phase' unfinished' =>
    cases ht
    rw [inside]
    exact .inl (by rw [within_of_unfinished unfinished']; rfl)
  | openArray => rw [inside]; exact lifts_openFrame nofun ht
  | openObject => rw [inside]; exact lifts_openFrame nofun ht
  | endArray =>
    rw [inside]
    match stack, ht with
    | .array items :: rest, ht =>
      cases ht
      exact .inl (congrArg Except.ok (complete_within rest _))
  | endObject =>
    rw [inside]
    match stack, ht with
    | .object members key :: rest, ht =>
      cases ht
      exact .inl (congrArg Except.ok (complete_within rest _))
  | key text => rw [inside]; exact .inl (within_completeText ht)
  | scalar value past => rw [inside]; exact .inl (within_completeScalar ht)
  | after c => exact .inl (within_between sound ht)
  | number n c =>
    obtain ⟨u, hu, ht⟩ := Except.bind_eq_ok.1 ht
    rw [inside]
    refine .inl (Except.bind_eq_ok.2 ⟨_, within_completeScalar hu, within_between ?_ ht⟩)
    exact (climbs_completeScalar rfl hu).sound

/-- A step of the reader of one object is one of the reader of a list, or leads too deep for it. -/
theorem lifts_step (done : List Json) (sound : s.IsSound) (ht : step .record s c = .ok t) :
    Lifts done t (step .records (s.within done) c) := by
  obtain ⟨stack, phase⟩ := s
  by_cases ended : ∃ value, phase = .done value
  · obtain ⟨value, rfl⟩ := ended
    exact .inl (within_between sound ht)
  · obtain ⟨e, -, he⟩ := exists_event phase c
    rw [he] at ht
    have lifts := lifts_apply done sound (not_exists.1 ended) ht
    rw [within_of_unfinished (not_exists.1 ended)] at lifts ⊢
    rwa [he]

/-- Over a whole text, too, the reader of a list follows the reader of one object, or finds the text
too deep. -/
theorem lifts_run {text : List Char} {offset : Nat} (done : List Json) (sound : s.IsSound)
    (ht : run .record s text offset = .ok t) (place : Nat) :
    run .records (s.within done) text place = .ok (t.within done) ∨
      depthLimit ≤ t.peak ∧
        ∃ stop, run .records (s.within done) text place = .error ⟨.tooDeep, stop⟩ := by
  induction text generalizing s offset place with
  | nil =>
    cases ht
    exact .inl rfl
  | cons c cs ih =>
    rw [run] at ht ⊢
    split at ht
    case h_2 => cases ht
    case h_1 u hu =>
      have sound' := (climbs_step sound hu).sound
      rcases lifts_step done sound hu with follows | ⟨deep, stops⟩
      · rw [follows]
        exact ih sound' ht _
      · rw [stops]
        exact .inr ⟨deep.trans (climbs_run sound' ht).kept, _, rfl⟩

/-! ## The text of an object -/

/-- The reader of one object ends with nothing open. -/
theorem eq_done_of_finish {value : Json} (sound : s.IsSound) (h : finish .record s = .ok value) :
    s = ⟨[], .done value⟩ := by
  obtain ⟨stack, phase⟩ := s
  by_cases ended : ∃ value, phase = .done value
  · obtain ⟨value', rfl⟩ := ended
    obtain rfl : stack = [] := sound.alone value' rfl
    cases h
    rfl
  · have refused : ∃ reason, finish .record ⟨stack, phase⟩ = .error reason := by
      cases stack with
      | nil =>
        rcases finish_bare ⟨rfl, not_exists.1 ended, sound.flat⟩ with ⟨_, hr, -⟩ | ⟨_, hr, -⟩
        · exact ⟨_, hr⟩
        · exact ⟨_, hr⟩
      | cons frame rest => exact finish_opened (not_exists.1 ended)
    obtain ⟨reason, hr⟩ := refused
    rw [hr] at h
    cases h

/-- Whether a text is read as an object. -/
def Accepts (text : List Char) (value : Json) : Prop :=
  run .record start text 0 = .ok ⟨[], .done value⟩

variable {text : List Char} {value : Json}

/-- Between the items of a list a text is read alike, wherever an item may stand. -/
theorem run_awaits {offset : Nat} (h : run .record start text offset = .ok ⟨[], .done value⟩)
    (hp : Awaits phase) (place : Nat) :
    run .records ⟨[.array done], phase⟩ text place =
      run .records ⟨[.array done], .value⟩ text place := by
  induction text generalizing offset place with
  | nil => cases h
  | cons c cs ih =>
    by_cases space : isSpace c = true
    · rw [run, step_space (s := start) trivial space] at h
      rw [run, run, step_space hp.skips space,
        step_space (s := ⟨[.array done], .value⟩) trivial space]
      exact ih h _
    · have bracket : c ≠ ']' := by
        rintro rfl
        cases h
      have visible : isSpace c = false := by simpa using space
      rw [run, run, step_awaits hp visible bracket, step_awaits (.inl rfl) visible bracket]

/-- The text of an object is read in a list, if it leaves room for the list. -/
theorem reads_element (h : Accepts text value) (room : value.depth < depthLimit)
    (hp : Awaits phase) :
    Reads .records ⟨[.array done], phase⟩ text ⟨[.array (value :: done)], .comma⟩ := by
  intro place
  rw [run_awaits h hp]
  rcases lifts_run done isSound_start h place with follows | ⟨deep, -⟩
  · exact follows
  · exact absurd room (Nat.not_lt.2 deep)

/-- The text of an object that leaves no room for the list is refused in it. -/
theorem refuses_element (h : Accepts text value) (deep : depthLimit ≤ value.depth)
    (hp : Awaits phase) (shallow : depthOfItems done < depthLimit) (place : Nat) :
    ∃ stop, run .records ⟨[.array done], phase⟩ text place = .error ⟨.tooDeep, stop⟩ := by
  rw [run_awaits h hp]
  rcases lifts_run done isSound_start h place with follows | ⟨-, stops⟩
  · have sound : (start.within done).IsSound := ⟨nofun, trivial⟩
    have limited : max value.depth (depthOfItems done) + 0 + 1 ≤
        max (max (depthOfItems done + 0 + 1) 0) depthLimit := by
      simpa [State.within, State.peak, peakOf, Frame.depth, depthOfItems, start] using
        (climbs_run sound follows).limited
    omega
  · exact stops

end Reader

/-! ## Lists -/

/-- The text of an item of a list, with white space around it. -/
structure Element where
  before : String
  text : String
  after : String
  blank : ∀ c ∈ before.toList ++ after.toList, Reader.isSpace c = true

namespace Element

/-- The text with the white space. -/
def whole (element : Element) : String := element.before ++ element.text ++ element.after

/-- The text of a list of items. -/
def list (elements : List Element) : String :=
  "[" ++ ",".intercalate (elements.map whole) ++ "]"

end Element

namespace Reader

variable {stack : List Frame} {phase : Phase} {done : List Json} {element : Element} {value : Json}
  {elements : List Element} {values : List Json}

theorem toList_list (elements : List Element) :
    (Element.list elements).toList =
      '[' :: ([','].intercalate (elements.map fun e => e.whole.toList) ++ [']']) := by
  rw [Element.list, String.toList_append, String.toList_append, String.toList_intercalate,
    List.map_map]
  rfl

theorem intercalate_cons_cons_append (first next : List Char) (rest : List (List Char)) :
    [','].intercalate (first :: next :: rest) ++ [']'] =
      first ++ ',' :: ([','].intercalate (next :: rest) ++ [']']) := by
  rw [List.intercalate_cons_cons, List.append_assoc, List.append_assoc]
  rfl

theorem reads_whole (h : Accepts element.text.toList value) (room : value.depth < depthLimit)
    (hp : Awaits phase) :
    Reads .records ⟨[.array done], phase⟩ element.whole.toList
      ⟨[.array (value :: done)], .comma⟩ := by
  obtain ⟨before, after⟩ := List.forall_mem_append.1 element.blank
  rw [Element.whole, String.toList_append, String.toList_append]
  exact ((reads_spaces hp.skips before).append (reads_element h room hp)).append
    (reads_spaces trivial after)

/-- What is refused in a text is refused in the text with more after it. -/
theorem run_append_of_error {shape : Shape} {s : State} {a : List Char} {place : Nat}
    {fault : Fault} (h : run shape s a place = .error fault) (b : List Char) :
    run shape s (a ++ b) place = .error fault := by
  rw [run_append, h]
  rfl

theorem refuses_whole (h : Accepts element.text.toList value) (deep : depthLimit ≤ value.depth)
    (hp : Awaits phase) (shallow : depthOfItems done < depthLimit) (place : Nat) :
    ∃ stop, run .records ⟨[.array done], phase⟩ element.whole.toList place =
      .error ⟨.tooDeep, stop⟩ := by
  obtain ⟨before, -⟩ := List.forall_mem_append.1 element.blank
  obtain ⟨stop, stops⟩ := refuses_element h deep hp shallow (place + size element.before.toList)
  refine ⟨stop, ?_⟩
  rw [Element.whole, String.toList_append, String.toList_append]
  refine run_append_of_error ?_ _
  rw [run_append, reads_spaces hp.skips before place]
  exact stops

/-- The texts of objects that leave room for the list are its items. -/
theorem reads_elements (first : Element) (elements : List Element)
    (h : List.Forall₂ (fun e v => Accepts e.text.toList v) (first :: elements) values)
    (room : ∀ v ∈ values, v.depth < depthLimit) (hp : Awaits phase) :
    Reads .records ⟨[.array done], phase⟩
      ([','].intercalate ((first :: elements).map fun e => e.whole.toList) ++ [']'])
      ⟨[], .done (.array (done.reverse ++ values))⟩ := by
  induction elements generalizing first values phase done with
  | nil =>
    obtain _ | ⟨accepts, ⟨⟩⟩ := h
    have close (value : Json) : step .records ⟨[.array (value :: done)], .comma⟩ ']' =
        .ok ⟨[], .done (.array (done.reverse ++ [value]))⟩ := by
      rw [← List.reverse_cons]
      rfl
    rw [List.map_singleton, List.intercalate_singleton]
    exact (reads_whole accepts (room _ List.mem_cons_self) hp).append (.single (close _))
  | cons next elements ih =>
    obtain _ | @⟨_, value, _, values, accepts, rest⟩ := h
    rw [List.forall_mem_cons] at room
    have later : Reads .records ⟨[.array (value :: done)], .nextItem⟩ _
        ⟨[], .done (.array ((value :: done).reverse ++ values))⟩ :=
      ih next rest room.2 (.inr (.inr rfl))
    rw [List.reverse_cons, List.append_assoc, List.singleton_append] at later
    rw [List.map_cons, List.map_cons, intercalate_cons_cons_append]
    exact (reads_whole accepts room.1 hp).append (.cons rfl later)

/-- One text that leaves no room for the list is enough to refuse it. -/
theorem refuses_elements (first : Element) (elements : List Element)
    (h : List.Forall₂ (fun e v => Accepts e.text.toList v) (first :: elements) values)
    (deep : ∃ v ∈ values, depthLimit ≤ v.depth) (hp : Awaits phase)
    (shallow : depthOfItems done < depthLimit) (place : Nat) :
    ∃ stop, run .records ⟨[.array done], phase⟩
      ([','].intercalate ((first :: elements).map fun e => e.whole.toList) ++ [']']) place =
        .error ⟨.tooDeep, stop⟩ := by
  induction elements generalizing first values phase done place with
  | nil =>
    obtain _ | ⟨accepts, ⟨⟩⟩ := h
    obtain ⟨_, mem, deep⟩ := deep
    obtain rfl := List.mem_singleton.1 mem
    obtain ⟨stop, stops⟩ := refuses_whole accepts deep hp shallow place
    rw [List.map_singleton, List.intercalate_singleton]
    exact ⟨stop, run_append_of_error stops _⟩
  | cons next elements ih =>
    obtain _ | @⟨_, value, _, values, accepts, rest⟩ := h
    rw [List.map_cons, List.map_cons, intercalate_cons_cons_append]
    rcases Nat.lt_or_ge value.depth depthLimit with room | first
    · have later : ∃ v ∈ values, depthLimit ≤ v.depth := by
        obtain ⟨v, mem, deep⟩ := deep
        rcases List.mem_cons.1 mem with rfl | mem
        · exact absurd room (Nat.not_lt.2 deep)
        · exact ⟨v, mem, deep⟩
      have shallow : depthOfItems (value :: done) < depthLimit := Nat.max_lt.2 ⟨room, shallow⟩
      rw [run_append, reads_whole accepts room hp place]
      exact ih next rest later (.inr (.inr rfl)) shallow _
    · obtain ⟨stop, stops⟩ := refuses_whole accepts first hp shallow place
      exact ⟨stop, run_append_of_error stops _⟩

end Reader

/-! ## Readers -/

theorem accepts_of_read {text : String} {value : Json} (h : read .record text = .ok value) :
    Reader.Accepts text.toList value := by
  unfold read at h
  dsimp only at h
  split at h
  case h_1 => cases h
  case h_2 s hs =>
    have sound := (Reader.climbs_run Reader.isSound_start hs).sound
    rw [Reader.Accepts, hs, Reader.eq_done_of_finish sound (Except.mapError_eq_ok.1 h)]

section Lists

variable {elements : List Element} {values : List Json}

/-- A list of texts of objects is read as the list of the objects, if each leaves room for it. -/
theorem read_list (h : List.Forall₂ (fun e v => read .record e.text = .ok v) elements values)
    (room : ∀ v ∈ values, v.depth < Reader.depthLimit) :
    read .records (Element.list elements) = .ok (.array values) := by
  have accepted := h.imp fun e v => accepts_of_read
  have line : Reader.Reads .records Reader.start (Element.list elements).toList
      ⟨[], .done (.array values)⟩ := by
    rw [Reader.toList_list]
    cases elements with
    | nil =>
      cases h
      exact .cons rfl (.single rfl)
    | cons first elements =>
      exact .cons rfl (Reader.reads_elements first elements accepted room (.inr (.inl rfl)))
  unfold read
  simp only [line 0]
  rfl

/-- A list of texts of objects is refused, if one of them leaves no room for it. -/
theorem read_list_deep (h : List.Forall₂ (fun e v => read .record e.text = .ok v) elements values)
    (deep : ∃ v ∈ values, Reader.depthLimit ≤ v.depth) :
    ∃ place, read .records (Element.list elements) = .error ⟨.tooDeep, some place⟩ := by
  have accepted := h.imp fun e v => accepts_of_read
  have line : ∃ stop, Reader.run .records Reader.start (Element.list elements).toList 0 =
      .error ⟨.tooDeep, stop⟩ := by
    rw [Reader.toList_list]
    cases elements with
    | nil =>
      cases h
      obtain ⟨_, ⟨⟩, -⟩ := deep
    | cons first elements =>
      exact Reader.refuses_elements first elements accepted deep (.inr (.inl rfl)) (by decide) _
  obtain ⟨stop, stops⟩ := line
  unfold read
  simp only [stops]
  exact ⟨_, rfl⟩

end Lists

end Json

end GatewayDesk
