import GatewayDesk.Proofs.Json.Event

/-!
# Texts of a shape

A reader that expects an object goes along with one that expects nothing in particular, up to the
place where the outermost value turns out to be something else. There it stops, and says what it
found; what the other reader then ends with is a value of that kind.

* `State.Holds`: of which kind the outermost value of a state is, once that is known.
* `holds_step`: no step changes the kind.
* `part_step`, `part_run`: how the two readers part, if they do.
* `read_any`: what is read where something is expected.
* `read_record_cases`: what both read.
-/

namespace GatewayDesk

namespace Json

namespace Reader

/-! ## The kind of the outermost value -/

/-- The kind of a container. -/
def Frame.found : Frame → Found
  | .array _ => .sequence
  | .object _ _ => .map

/-- The kind of the outermost open container. -/
def outermost (stack : List Frame) : Option Found := stack.getLast?.map Frame.found

/-- Whether the outermost value of a state is of a kind. -/
inductive State.Holds (found : Found) : State → Prop
  | opened {stack phase} (outer : outermost stack = some found)
    (unfinished : ∀ value, phase ≠ .done value) : Holds found ⟨stack, phase⟩
  | closed {value} (h : value.found = found) : Holds found ⟨[], .done value⟩

/-- Whether the outermost value of a state has no kind yet. -/
structure State.IsBare (s : State) : Prop where
  nothing : s.stack = []
  unfinished : ∀ value, s.phase ≠ .done value
  flat : s.phase.IsFlat

variable {shape : Shape} {stack : List Frame} {phase : Phase} {s t : State} {c : Char}
  {found : Found}

theorem outermost_cons_cons (frame next : Frame) (rest : List Frame) :
    outermost (frame :: next :: rest) = outermost (next :: rest) := by
  rw [outermost, outermost, List.getLast?_cons_cons]

theorem outermost_cons_congr {frame other : Frame} (h : frame.found = other.found)
    (rest : List Frame) : outermost (frame :: rest) = outermost (other :: rest) := by
  cases rest with
  | nil => exact congrArg some h
  | cons next rest => rw [outermost_cons_cons, outermost_cons_cons]

theorem outermost_cons (outer : outermost stack = some found) (frame : Frame) :
    outermost (frame :: stack) = some found := by
  cases stack with
  | nil => cases outer
  | cons next rest => rw [outermost_cons_cons, outer]

theorem holds_complete (outer : outermost stack = some found) (value : Json) :
    (complete stack value).Holds found := by
  match stack with
  | [] => cases outer
  | .array items :: rest =>
    exact .opened ((outermost_cons_congr (by rfl) rest).trans outer) nofun
  | .object members key :: rest =>
    exact .opened ((outermost_cons_congr (by rfl) rest).trans outer) nofun

/-- A container that ends is a value of its kind. -/
theorem holds_end {frame : Frame} (outer : outermost (frame :: stack) = some found) {value : Json}
    (kind : value.found = frame.found) : (complete stack value).Holds found := by
  cases stack with
  | nil => exact .closed (kind.trans (Option.some.inj outer))
  | cons next rest => exact holds_complete (outermost_cons_cons _ _ _ ▸ outer) _

theorem holds_openFrame (outer : outermost stack = some found) {frame : Frame} {refused : Shape}
    {other : Found} (ht : openFrame shape stack frame phase refused other = .ok t)
    (unfinished : ∀ value, phase ≠ .done value) : t.Holds found := by
  unfold openFrame at ht
  split at ht
  · cases ht
  split at ht
  · cases ht
    exact .opened (outermost_cons outer frame) unfinished
  · cases ht

theorem holds_completeScalar (outer : outermost stack = some found) {value : Json} {past : Nat}
    (ht : completeScalar shape stack value past = .ok t) : t.Holds found := by
  unfold completeScalar at ht
  split at ht
  · cases ht
  · cases ht
    exact holds_complete outer value

theorem holds_completeText (outer : outermost stack = some found) {role : Role} {done : List Char}
    (ht : completeText shape stack role done = .ok t) : t.Holds found := by
  unfold completeText at ht
  dsimp only at ht
  split at ht
  · cases ht
    exact .opened ((outermost_cons_congr (by rfl) _).trans outer) nofun
  · exact holds_completeScalar outer ht

theorem holds_afterValue (outer : outermost stack = some found)
    (ht : afterValue stack c = .ok t) : t.Holds found := by
  unfold afterValue at ht
  split at ht
  · cases ht
  · split at ht
    · cases ht
      exact holds_end outer rfl
    split at ht
    · cases ht
      exact .opened outer nofun
    · cases ht
  · split at ht
    · cases ht
      exact holds_end outer rfl
    split at ht
    · cases ht
      exact .opened outer nofun
    · cases ht

theorem holds_between (h : s.Holds found) (ht : between s c = .ok t) : t.Holds found := by
  unfold between at ht
  split at ht
  · cases ht
    exact h
  · cases h with
    | opened outer unfinished => exact holds_afterValue outer ht
    | closed h => cases ht

/-- No event changes the kind of the outermost value. -/
theorem holds_apply {e : Event} (outer : outermost stack = some found)
    (unfinished : ∀ value, phase ≠ .done value) (ht : e.apply shape ⟨stack, phase⟩ = .ok t) :
    t.Holds found := by
  cases e with
  | fault stop => cases ht
  | pass =>
    cases ht
    exact .opened outer unfinished
  | turn phase' unfinished' =>
    cases ht
    exact .opened outer unfinished'
  | openArray => exact holds_openFrame outer ht nofun
  | openObject => exact holds_openFrame outer ht nofun
  | endArray =>
    match stack, ht with
    | .array items :: rest, ht => cases ht; exact holds_end outer rfl
  | endObject =>
    match stack, ht with
    | .object members key :: rest, ht => cases ht; exact holds_end outer rfl
  | key text => exact holds_completeText outer ht
  | scalar value past => exact holds_completeScalar outer ht
  | after c => exact holds_between (.opened outer unfinished) ht
  | number n c =>
    obtain ⟨u, hu, ht⟩ := Except.bind_eq_ok.1 ht
    exact holds_between (holds_completeScalar outer hu) ht

/-- No step changes the kind of the outermost value. -/
theorem holds_step (h : s.Holds found) (ht : step shape s c = .ok t) : t.Holds found := by
  cases h with
  | opened outer unfinished =>
    obtain ⟨e, -, he⟩ := exists_event _ c
    exact holds_apply outer unfinished (he .. ▸ ht)
  | closed h => exact holds_between (.closed h) ht

theorem holds_run {text : List Char} {offset : Nat} (h : s.Holds found)
    (ht : run shape s text offset = .ok t) : t.Holds found := by
  induction text generalizing s offset with
  | nil => cases ht; exact h
  | cons c cs ih =>
    rw [run] at ht
    split at ht
    case h_1 u hu => exact ih (holds_step h hu) ht
    case h_2 => cases ht

/-! ## Two shapes -/

/-- Two shapes that ask for the same where a value would stand step alike. -/
theorem step_congr {other : Shape} (h : wanted shape s.stack = wanted other s.stack) (c : Char) :
    step shape s c = step other s c := by
  obtain ⟨stack, phase⟩ := s
  obtain ⟨e, -, he⟩ := exists_event phase c
  have same : wanted shape stack = wanted other stack := h
  rw [he, he]
  cases e <;> simp only [Event.apply, openFrame, completeScalar, completeText, same]

/-- Once the kind of the outermost value is known, an object is no longer asked for. -/
theorem step_record_of_holds (h : s.Holds found) (c : Char) :
    step .record s c = step .any s c := by
  cases h with
  | @opened stack phase outer unfinished =>
    cases stack with
    | nil => cases outer
    | cons frame rest => exact step_congr rfl c
  | closed h => rfl

section Parting

variable {ε : Type}

/-- Whether two readers do the same, and have met an object if anything. -/
def Agree (record any : Except ε State) : Prop :=
  record = any ∧ ∀ t, any = .ok t → t.IsBare ∨ t.Holds .map

/-- Whether a reader that goes on has met a value of a kind. -/
def Meets (found : Found) (any : Except ε State) : Prop := ∀ t, any = .ok t → t.Holds found

end Parting

theorem found_ne_map {value : Json} (flat : value.depth = 0) : value.found ≠ .map := by
  cases value with
  | number n => cases n <;> exact nofun
  | object members => cases flat
  | _ => exact nofun

/-- Where the outermost value has no kind yet, the readers do the same, or one stops at a kind that
is no object, and the other has met that kind. -/
theorem part_apply {e : Event} (bare : (State.mk [] phase).IsBare) (flat : e.IsFlat) :
    Agree (e.apply .record ⟨[], phase⟩) (e.apply .any ⟨[], phase⟩) ∨
      ∃ found past, found ≠ .map ∧
        e.apply .record ⟨[], phase⟩ = .error (.mismatch found .record, past) ∧
        Meets found (e.apply .any ⟨[], phase⟩) := by
  cases e with
  | fault stop => exact .inl ⟨rfl, nofun⟩
  | pass => exact .inl ⟨rfl, fun t ht => by cases ht; exact .inl bare⟩
  | turn phase' unfinished =>
    exact .inl ⟨rfl, fun t ht => by cases ht; exact .inl ⟨rfl, unfinished, flat⟩⟩
  | openArray =>
    exact .inr ⟨.sequence, 0, nofun, rfl, fun t ht => by cases ht; exact .opened rfl nofun⟩
  | openObject =>
    exact .inl ⟨rfl, fun t ht => by cases ht; exact .inr (.opened rfl nofun)⟩
  | endArray => exact .inl ⟨rfl, nofun⟩
  | endObject => exact .inl ⟨rfl, nofun⟩
  | key text =>
    exact .inr ⟨.string (String.ofList text.reverse), 1, nofun, rfl, fun t ht => by
      cases ht
      exact .closed rfl⟩
  | scalar value past =>
    exact .inr ⟨value.found, past, found_ne_map flat, rfl, fun t ht => by
      cases ht
      exact .closed rfl⟩
  | after c =>
    refine .inl ⟨rfl, fun t (ht : between ⟨[], phase⟩ c = .ok t) => .inl ?_⟩
    unfold between at ht
    split at ht
    · cases ht
      exact bare
    · cases ht
  | number n c =>
    refine .inr ⟨(Json.number n).found, 0, found_ne_map rfl, rfl, fun t ht => ?_⟩
    exact holds_between (s := ⟨[], .done (.number n)⟩) (.closed rfl) ht

theorem part_step (h : s.IsBare) (c : Char) :
    Agree (step .record s c) (step .any s c) ∨
      ∃ found past, found ≠ .map ∧ step .record s c = .error (.mismatch found .record, past) ∧
        Meets found (step .any s c) := by
  obtain ⟨stack, phase⟩ := s
  obtain rfl : stack = [] := h.nothing
  obtain ⟨e, flat, he⟩ := exists_event phase c
  rw [he, he]
  exact part_apply h (flat h.flat)

/-- Over a whole text, too, the readers do the same, or one stops at a kind that is no object, and
the other has met that kind. -/
theorem part_run (h : s.IsBare ∨ s.Holds .map) (text : List Char) (offset : Nat) :
    Agree (run .record s text offset) (run .any s text offset) ∨
      ∃ found place, found ≠ .map ∧
        run .record s text offset = .error ⟨.mismatch found .record, place⟩ ∧
        Meets found (run .any s text offset) := by
  induction text generalizing s offset with
  | nil => exact .inl ⟨rfl, fun t ht => by cases ht; exact h⟩
  | cons c cs ih =>
    have alike : Agree (step .record s c) (step .any s c) ∨
        ∃ found past, found ≠ .map ∧ step .record s c = .error (.mismatch found .record, past) ∧
          Meets found (step .any s c) := by
      rcases h with bare | holds
      · exact part_step bare c
      · exact .inl ⟨step_record_of_holds holds c, fun t ht => .inr (holds_step holds ht)⟩
    rcases alike with ⟨same, next⟩ | ⟨found, past, other, stops, meets⟩
    · rw [run, run, same]
      cases hs : step .any s c with
      | ok u => exact ih (next u hs) _
      | error stop => exact .inl ⟨rfl, fun t ht => by cases ht⟩
    · refine .inr ⟨found, offset + past, other, by rw [run, stops], fun t ht => ?_⟩
      rw [run] at ht
      split at ht
      case h_1 u hu => exact holds_run (meets u hu) ht
      case h_2 => cases ht

/-! ## Any value -/

theorem openFrame_any {frame : Frame} {refused : Shape} {other : Found}
    (ht : openFrame shape stack frame phase refused other = .ok t) :
    openFrame .any stack frame phase refused other = .ok t := by
  unfold openFrame at ht ⊢
  split at ht
  case isTrue => cases ht
  case isFalse => exact ht

theorem completeScalar_any {value : Json} {past : Nat}
    (ht : completeScalar shape stack value past = .ok t) :
    completeScalar .any stack value past = .ok t := by
  unfold completeScalar at ht
  split at ht
  case h_1 => cases ht
  case h_2 => exact ht

theorem completeText_any {role : Role} {text : List Char}
    (ht : completeText shape stack role text = .ok t) :
    completeText .any stack role text = .ok t := by
  match role, stack, ht with
  | .key, .object _ _ :: _, ht => exact ht
  | .key, .array _ :: _, ht => exact completeScalar_any ht
  | .key, [], ht => exact completeScalar_any ht
  | .value, _, ht => exact completeScalar_any ht

/-- What a reader does that expects something, one that expects nothing in particular does too. -/
theorem step_any (ht : step shape s c = .ok t) : step .any s c = .ok t := by
  obtain ⟨stack, phase⟩ := s
  obtain ⟨e, -, he⟩ := exists_event phase c
  rw [he] at ht ⊢
  cases e with
  | openArray => exact openFrame_any ht
  | openObject => exact openFrame_any ht
  | key text => exact completeText_any ht
  | scalar value past => exact completeScalar_any ht
  | number n c =>
    obtain ⟨u, hu, ht⟩ := Except.bind_eq_ok.1 ht
    exact Except.bind_eq_ok.2 ⟨u, completeScalar_any hu, ht⟩
  | _ => exact ht

theorem run_any {text : List Char} {offset : Nat} (ht : run shape s text offset = .ok t) :
    run .any s text offset = .ok t := by
  induction text generalizing s offset with
  | nil => exact ht
  | cons c cs ih =>
    rw [run] at ht ⊢
    split at ht
    case h_1 u hu =>
      rw [step_any hu]
      exact ih ht
    case h_2 => cases ht

theorem finish_any {value : Json} (h : finish shape s = .ok value) :
    finish .any s = .ok value := by
  obtain ⟨stack, phase⟩ := s
  cases phase with
  | numeral negative n =>
    obtain ⟨m, hm, h⟩ := Except.bind_eq_ok.1 h
    refine Except.bind_eq_ok.2 ⟨m, hm, ?_⟩
    cases hc : completeScalar shape stack (.number m) 0 with
    | error stop =>
      simp only [hc] at h
      cases h
    | ok t =>
      simp only [hc] at h
      simp only [completeScalar_any hc]
      exact h
  | _ => exact h

/-! ## The end of a text -/

theorem finish_opened {frame : Frame} (unfinished : ∀ value, phase ≠ .done value) :
    ∃ reason, finish shape ⟨frame :: stack, phase⟩ = .error reason := by
  cases phase with
  | done value => exact absurd rfl (unfinished value)
  | comma => cases frame <;> exact ⟨_, rfl⟩
  | numeral negative n =>
    cases hf : n.finish negative with
    | error reason => exact ⟨reason, by simp only [finish, hf]; rfl⟩
    | ok m =>
      cases hw : wanted shape (frame :: stack) with
      | some w => exact ⟨_, by simp only [finish, hf, completeScalar, hw]; rfl⟩
      | none =>
        simp only [finish, hf, completeScalar, hw]
        cases frame <;> exact ⟨_, rfl⟩
  | _ => exact ⟨_, rfl⟩

/-- At the end of a text whose value has no kind yet, there is a fault or a number. -/
theorem finish_bare (h : s.IsBare) :
    (∃ reason, finish .record s = .error reason ∧ finish .any s = .error reason) ∨
      ∃ n, finish .record s = .error (.mismatch (Json.number n).found .record) ∧
        finish .any s = .ok (.number n) := by
  obtain ⟨stack, phase⟩ := s
  obtain rfl : stack = [] := h.nothing
  cases phase with
  | done value => exact absurd rfl (h.unfinished value)
  | numeral negative n =>
    cases hf : n.finish negative with
    | error reason =>
      exact .inl ⟨reason, by simp only [finish, hf]; rfl, by simp only [finish, hf]; rfl⟩
    | ok m => exact .inr ⟨m, by simp only [finish, hf]; rfl, by simp only [finish, hf]; rfl⟩
  | _ => exact .inl ⟨_, rfl, rfl⟩

/-- A value that a text ends with is of the kind that was met. -/
theorem finish_holds (h : s.Holds found) :
    (∀ shape, ∃ reason, finish shape s = .error reason) ∨
      ∃ value, value.found = found ∧ ∀ shape, finish shape s = .ok value := by
  cases h with
  | @opened stack phase outer unfinished =>
    cases stack with
    | nil => cases outer
    | cons frame rest => exact .inl fun _ => finish_opened unfinished
  | @closed value h => exact .inr ⟨value, h, fun _ => rfl⟩

end Reader

theorem found_eq_map_iff {value : Json} :
    value.found = .map ↔ ∃ members, value = .object members := by
  cases value with
  | number n => cases n <;> exact iff_of_false nofun nofun
  | object members => exact iff_of_true rfl ⟨members, rfl⟩
  | _ => exact iff_of_false nofun nofun

/-- A value that is read where one is expected is read where nothing in particular is. -/
theorem read_any {shape : Shape} {text : String} {value : Json}
    (h : read shape text = .ok value) : read .any text = .ok value := by
  unfold read at h ⊢
  dsimp only at h ⊢
  split at h
  case h_1 => cases h
  case h_2 s hs =>
    rw [Reader.run_any hs]
    exact Except.mapError_eq_ok.2 (Reader.finish_any (Except.mapError_eq_ok.1 h))

/-- A text is refused by both readers, or it is an object for both, or it is another value and the
reader of objects says what it found and where. -/
theorem read_record_cases (text : String) :
    ((∃ e, read .record text = .error e) ∧ ∃ e, read .any text = .error e) ∨
      (∃ members, read .record text = .ok (.object members) ∧
        read .any text = .ok (.object members)) ∨
      ∃ value place, (∀ members, value ≠ .object members) ∧
        read .record text = .error ⟨.mismatch value.found .record, some place⟩ ∧
        read .any text = .ok value := by
  have bare : Reader.start.IsBare := ⟨rfl, nofun, trivial⟩
  have other {value : Json} (h : value.found ≠ .map) (members : Members) :
      value ≠ .object members := by
    rintro rfl
    exact h rfl
  unfold read
  rcases Reader.part_run (.inl bare) text.toList 0 with
    ⟨same, next⟩ | ⟨found, place, kind, stops, meets⟩
  · simp only [same]
    cases hr : Reader.run .any Reader.start text.toList 0 with
    | error fault => exact .inl ⟨⟨_, rfl⟩, ⟨_, rfl⟩⟩
    | ok state =>
      rcases next state hr with bare | holds
      · rcases Reader.finish_bare bare with ⟨reason, hr, ha⟩ | ⟨n, hr, ha⟩
        · simp only [hr, ha]
          exact .inl ⟨⟨_, rfl⟩, ⟨_, rfl⟩⟩
        · simp only [hr, ha]
          exact .inr (.inr ⟨.number n, _, other (Reader.found_ne_map rfl), rfl, rfl⟩)
      · rcases Reader.finish_holds holds with refused | ⟨value, kind, taken⟩
        · obtain ⟨_, hr⟩ := refused .record
          obtain ⟨_, ha⟩ := refused .any
          simp only [hr, ha]
          exact .inl ⟨⟨_, rfl⟩, ⟨_, rfl⟩⟩
        · obtain ⟨members, rfl⟩ := found_eq_map_iff.1 kind
          simp only [taken]
          exact .inr (.inl ⟨members, rfl, rfl⟩)
  · simp only [stops]
    cases hr : Reader.run .any Reader.start text.toList 0 with
    | error fault => exact .inl ⟨⟨_, rfl⟩, ⟨_, rfl⟩⟩
    | ok state =>
      rcases Reader.finish_holds (meets state hr) with refused | ⟨value, rfl, taken⟩
      · obtain ⟨_, ha⟩ := refused .any
        simp only [ha]
        exact .inl ⟨⟨_, rfl⟩, ⟨_, rfl⟩⟩
      · simp only [taken]
        exact .inr (.inr ⟨value, _, other kind, rfl, rfl⟩)

end Json

end GatewayDesk
