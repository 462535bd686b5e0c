import GatewayDesk.Proofs.Except
import GatewayDesk.Proofs.Json.Extent
import GatewayDesk.Proofs.Json.Reading

/-!
# What a character does to the reader

A character in a phase stands for one `Event`: containers are opened and closed, values are put into
them, or something else may come next. Which event it is depends neither on the containers that are
open nor on the shape, so whatever holds of every event holds of every step, in all shapes at once.

* `Event.apply`: what an event does.
* `exists_event`: every step is an event.
-/

namespace GatewayDesk

namespace Json

namespace Reader

/-- Whether the outermost value has ended. -/
def Phase.isDone : Phase → Bool
  | .done _ => true
  | _ => false

theorem ne_done {phase : Phase} (h : phase.isDone = false) (value : Json) :
    phase ≠ .done value := by
  rintro rfl
  cases h

/-- What a character stands for. -/
inductive Event where
  /-- It may not stand here. -/
  | fault (stop : Stop)
  /-- It is white space. -/
  | pass
  /-- It is part of something that has not ended. -/
  | turn (phase : Phase) (unfinished : ∀ value, phase ≠ .done value)
  | openArray
  | openObject
  /-- It closes an array without items. -/
  | endArray
  /-- It closes an object without members. -/
  | endObject
  /-- It ends a key. -/
  | key (text : List Char)
  /-- It ends a value that is no container. -/
  | scalar (value : Json) (past : Nat)
  /-- It follows a value. -/
  | after (c : Char)
  /-- It follows a number. -/
  | number (n : Number) (c : Char)

/-- What an event does to a state. -/
def Event.apply (shape : Shape) (s : State) : Event → Except Stop State
  | .fault stop => .error stop
  | .pass => .ok s
  | .turn phase _ => .ok ⟨s.stack, phase⟩
  | .openArray => openFrame shape s.stack (.array []) .firstItem .record .sequence
  | .openObject => openFrame shape s.stack (.object [] "") .firstKey .records .map
  | .endArray =>
    match s.stack with
    | .array items :: rest => .ok (complete rest (.array items.reverse))
    | _ => .error (.noValue, 1)
  | .endObject =>
    match s.stack with
    | .object members _ :: rest => .ok (complete rest (.object members.reverse))
    | _ => .error (.badKey, 1)
  | .key text => completeText shape s.stack .key text
  | .scalar value past => completeScalar shape s.stack value past
  | .after c => between s c
  | .number n c => do
    let s ← completeScalar shape s.stack (.number n) 0
    between s c

/-- Whether the word that is being read, if any, stands for a value that is no container. -/
def Phase.IsFlat : Phase → Prop
  | .word _ v => v.depth = 0
  | _ => True

/-- Whether an event puts no container in the place of a value that is none. -/
def Event.IsFlat : Event → Prop
  | .turn phase _ => phase.IsFlat
  | .scalar value _ => value.depth = 0
  | _ => True

variable {c : Char} {phase : Phase}

/-- The event of a character that starts a value. -/
theorem exists_event_startValue (c : Char) :
    ∃ e : Event, e.IsFlat ∧ ∀ shape s, startValue shape s.stack c = e.apply shape s := by
  unfold startValue
  split
  · exact ⟨.openObject, trivial, fun _ _ => rfl⟩
  split
  · exact ⟨.openArray, trivial, fun _ _ => rfl⟩
  split
  · exact ⟨.turn (.text .value []) (ne_done rfl), trivial, fun _ _ => rfl⟩
  split
  · exact ⟨.turn (.numeral true .sign) (ne_done rfl), trivial, fun _ _ => rfl⟩
  split
  · exact ⟨.turn (.numeral false _) (ne_done rfl), trivial, fun _ _ => rfl⟩
  -- The three words stand for values that are no containers.
  split
  · exact ⟨.turn (.word _ .null) (ne_done rfl), rfl, fun _ _ => rfl⟩
  split
  · exact ⟨.turn (.word _ (.boolean true)) (ne_done rfl), rfl, fun _ _ => rfl⟩
  split
  · exact ⟨.turn (.word _ (.boolean false)) (ne_done rfl), rfl, fun _ _ => rfl⟩
  · exact ⟨.fault _, trivial, fun _ _ => rfl⟩

/-- The event of a character that starts a key. -/
theorem exists_event_startKey (c : Char) :
    ∃ e : Event, e.IsFlat ∧ ∀ shape s, startKey s.stack c = e.apply shape s := by
  unfold startKey
  split
  · exact ⟨.turn (.text .key []) (ne_done rfl), trivial, fun _ _ => rfl⟩
  · exact ⟨.fault _, trivial, fun _ _ => rfl⟩

/-- The digits of an escape lead to more digits, to a second escape or back to the string. -/
theorem cases_of_stepHex {role : Role} {done digits : List Char} {lead : Option Nat}
    {bytes : Nat} (h : stepHex role done lead digits bytes c = .ok phase) :
    (∃ digits' bytes', phase = .hex role done lead digits' bytes') ∨
      (∃ high, phase = .secondSlash role done high) ∨ ∃ text, phase = .text role text := by
  unfold stepHex at h
  split at h
  · cases h
    exact .inl ⟨_, _, rfl⟩
  split at h
  · cases h
  rw [Except.mapError_eq_ok] at h
  unfold afterHex at h
  split at h
  · split at h
    · cases h
      exact .inr (.inr ⟨_, rfl⟩)
    · cases h
  split at h
  · cases h
  split at h
  · cases h
    exact .inr (.inl ⟨_, rfl⟩)
  · cases h
    exact .inr (.inr ⟨_, rfl⟩)

theorem unfinished_of_stepHex {role : Role} {done digits : List Char} {lead : Option Nat}
    {bytes : Nat} (h : stepHex role done lead digits bytes c = .ok phase) :
    (∀ value, phase ≠ .done value) ∧ phase.IsFlat := by
  rcases cases_of_stepHex h with ⟨_, _, rfl⟩ | ⟨_, rfl⟩ | ⟨_, rfl⟩
  all_goals exact ⟨ne_done rfl, trivial⟩

/-- Whether a character in a phase stands for an event. -/
def IsEvent (phase : Phase) (c : Char) : Prop :=
  ∃ e : Event, (phase.IsFlat → e.IsFlat) ∧
    ∀ shape stack, step shape ⟨stack, phase⟩ c = e.apply shape ⟨stack, phase⟩

/-! ## Values that have started -/

theorem isEvent_word (rest : List Char) (value : Json) (c : Char) :
    IsEvent (.word rest value) c := by
  match rest with
  | [] => exact ⟨.fault (.noWord, 1), fun _ => trivial, fun _ _ => rfl⟩
  | w :: ws =>
    by_cases hc : c = w
    · subst hc
      match ws with
      | [] => exact ⟨.scalar value 1, id, fun shape stack => by simp [step, Event.apply]⟩
      | w :: ws =>
        exact ⟨.turn (.word (w :: ws) value) (ne_done rfl), id, fun shape stack => by
          simp [step, Event.apply]⟩
    · exact ⟨.fault (.noWord, 1), fun _ => trivial, fun shape stack => by
        simp [step, Event.apply, hc]⟩

theorem isEvent_numeral (negative : Bool) (n : Numeral) (c : Char) :
    IsEvent (.numeral negative n) c := by
  match hn : n.step c with
  | .more m =>
    exact ⟨.turn (.numeral negative m) (ne_done rfl), fun _ => trivial, fun shape stack => by
      simp only [step, hn, Event.apply]⟩
  | .fault reason past =>
    exact ⟨.fault (reason, past), fun _ => trivial, fun shape stack => by
      simp only [step, hn, Event.apply]⟩
  | .over =>
    cases hf : n.finish negative with
    | ok m =>
      exact ⟨.number m c, fun _ => trivial, fun shape stack => by
        simp only [step, hn, hf, Event.apply]
        rfl⟩
    | error reason =>
      exact ⟨.fault (reason, 0), fun _ => trivial, fun shape stack => by
        simp only [step, hn, hf]
        rfl⟩

theorem isEvent_text (role : Role) (done : List Char) (c : Char) :
    IsEvent (.text role done) c := by
  by_cases quote : c = '"'
  · subst quote
    cases role with
    | key => exact ⟨.key done, fun _ => trivial, fun _ _ => rfl⟩
    | value =>
      exact ⟨.scalar (.string (String.ofList done.reverse)) 1, fun _ => rfl, fun _ _ => rfl⟩
  by_cases slash : c = '\\'
  · subst slash
    exact ⟨.turn (.escape role done) (ne_done rfl), fun _ => trivial, fun _ _ => rfl⟩
  by_cases control : c.toNat < 0x20
  · exact ⟨.fault (.control, 1), fun _ => trivial, fun shape stack => by
      simp [step, quote, slash, control, Event.apply]⟩
  · exact ⟨.turn (.text role (c :: done)) (ne_done rfl), fun _ => trivial, fun shape stack => by
      simp [step, quote, slash, control, Event.apply]⟩

theorem isEvent_escape (role : Role) (done : List Char) (c : Char) :
    IsEvent (.escape role done) c := by
  by_cases hc : c = 'u'
  · subst hc
    exact ⟨.turn (.hex role done none [] 0) (ne_done rfl), fun _ => trivial, fun _ _ => rfl⟩
  cases he : unescape? c with
  | some e =>
    exact ⟨.turn (.text role (e :: done)) (ne_done rfl), fun _ => trivial, fun shape stack => by
      simp [step, hc, he, Event.apply]⟩
  | none =>
    exact ⟨.fault (.badEscape, 1), fun _ => trivial, fun shape stack => by
      simp [step, hc, he, Event.apply]⟩

theorem isEvent_hex (role : Role) (done : List Char) (lead : Option Nat) (digits : List Char)
    (bytes : Nat) (c : Char) : IsEvent (.hex role done lead digits bytes) c := by
  cases hs : stepHex role done lead digits bytes c with
  | ok phase =>
    obtain ⟨unfinished, flat⟩ := unfinished_of_stepHex hs
    exact ⟨.turn phase unfinished, fun _ => flat, fun shape stack => by
      simp only [step, hs]
      rfl⟩
  | error stop =>
    exact ⟨.fault stop, fun _ => trivial, fun shape stack => by
      simp only [step, hs]
      rfl⟩

/-! ## All phases -/

/-- Every step is an event. -/
theorem exists_event (phase : Phase) (c : Char) : IsEvent phase c := by
  by_cases space : phase.Skips ∧ isSpace c = true
  · exact ⟨.pass, fun _ => trivial, fun _ _ => step_space space.1 space.2⟩
  have visible (skips : phase.Skips) : isSpace c = false := by simpa [skips] using space
  obtain ⟨first, flat, starts⟩ := exists_event_startValue c
  obtain ⟨letter, flat', opens⟩ := exists_event_startKey c
  cases phase with
  | value =>
    refine ⟨first, fun _ => flat, fun shape stack => ?_⟩
    rw [← starts]
    simp [step, visible trivial]
  | firstItem =>
    by_cases hc : c = ']'
    · subst hc
      refine ⟨.endArray, fun _ => trivial, fun shape stack => ?_⟩
      rcases stack with _ | ⟨_ | _, _⟩ <;> rfl
    · refine ⟨first, fun _ => flat, fun shape stack => ?_⟩
      rw [← starts, step_awaits (.inr (.inl rfl)) (visible trivial) hc]
  | nextItem =>
    by_cases hc : c = ']'
    · subst hc
      exact ⟨.fault (.trailingComma, 1), fun _ => trivial, fun _ _ => rfl⟩
    · refine ⟨first, fun _ => flat, fun shape stack => ?_⟩
      rw [← starts, step_awaits (.inr (.inr rfl)) (visible trivial) hc]
  | firstKey =>
    by_cases hc : c = '\x7d'
    · subst hc
      refine ⟨.endObject, fun _ => trivial, fun shape stack => ?_⟩
      rcases stack with _ | ⟨_ | _, _⟩ <;> rfl
    · refine ⟨letter, fun _ => flat', fun shape stack => ?_⟩
      rw [← opens]
      simp [step, visible trivial, hc]
  | nextKey =>
    by_cases hc : c = '\x7d'
    · subst hc
      exact ⟨.fault (.trailingComma, 1), fun _ => trivial, fun _ _ => rfl⟩
    · refine ⟨letter, fun _ => flat', fun shape stack => ?_⟩
      rw [← opens]
      simp [step, visible trivial, hc]
  | colon =>
    by_cases hc : c = ':'
    · subst hc
      exact ⟨.turn .value (ne_done rfl), fun _ => trivial, fun _ _ => rfl⟩
    · exact ⟨.fault (.noColon, 1), fun _ => trivial, fun shape stack => by
        simp [step, visible trivial, hc, Event.apply]⟩
  | comma => exact ⟨.after c, fun _ => trivial, fun _ _ => rfl⟩
  | done value => exact ⟨.after c, fun _ => trivial, fun _ _ => rfl⟩
  | word rest value => exact isEvent_word rest value c
  | numeral negative n => exact isEvent_numeral negative n c
  | text role done => exact isEvent_text role done c
  | escape role done => exact isEvent_escape role done c
  | hex role done lead digits bytes => exact isEvent_hex role done lead digits bytes c
  | secondSlash role done lead =>
    by_cases hc : c = '\\'
    · subst hc
      exact ⟨.turn (.secondLetter role done lead) (ne_done rfl), fun _ => trivial,
        fun _ _ => rfl⟩
    · exact ⟨.fault (.shortSurrogate, 1), fun _ => trivial, fun shape stack => by
        simp [step, hc, Event.apply]⟩
  | secondLetter role done lead =>
    by_cases hc : c = 'u'
    · subst hc
      exact ⟨.turn (.hex role done (some lead) [] 0) (ne_done rfl), fun _ => trivial,
        fun _ _ => rfl⟩
    · exact ⟨.fault (.shortSurrogate, 1), fun _ => trivial, fun shape stack => by
        simp [step, hc, Event.apply]⟩

end Reader

end Json

end GatewayDesk
