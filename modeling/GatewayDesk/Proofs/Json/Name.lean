import GatewayDesk.Proofs.Json.Member

/-!
# Strings as keys

A string spells the same text as a key that it spells as a value, escapes included.

* `step_name`: one character.
* `reads_name`: a string that is a value between quotes is a key between quotes.
-/

namespace GatewayDesk

namespace Json

namespace Reader

/-- A place within a string that is a value, and the same place within a key. -/
inductive SamePlace : Phase → Phase → Prop where
  | text (done : List Char) : SamePlace (.text .value done) (.text .key done)
  | escape (done : List Char) : SamePlace (.escape .value done) (.escape .key done)
  | hex (done : List Char) (lead : Option Nat) (digits : List Char) (bytes : Nat) :
    SamePlace (.hex .value done lead digits bytes) (.hex .key done lead digits bytes)
  | secondSlash (done : List Char) (lead : Nat) :
    SamePlace (.secondSlash .value done lead) (.secondSlash .key done lead)
  | secondLetter (done : List Char) (lead : Nat) :
    SamePlace (.secondLetter .value done lead) (.secondLetter .key done lead)

variable {p q : Phase} {members : Members} {last key : String} {c : Char}

theorem samePlace_afterHex {done : List Char} {lead : Option Nat} {n : Nat}
    (h : afterHex .value done lead n = .ok p) :
    ∃ q, afterHex .key done lead n = .ok q ∧ SamePlace p q := by
  unfold afterHex at h ⊢
  split at h
  · split at h
    · cases h
      exact ⟨_, if_pos ‹_›, .text _⟩
    · cases h
  · split at h
    · cases h
    split at h
    · cases h
      exact ⟨_, by rw [if_neg ‹_›, if_pos ‹_›], .secondSlash _ _⟩
    · cases h
      exact ⟨_, by rw [if_neg ‹_›, if_neg ‹_›], .text _⟩

theorem samePlace_stepHex {done digits : List Char} {lead : Option Nat} {bytes : Nat}
    (h : stepHex .value done lead digits bytes c = .ok p) :
    ∃ q, stepHex .key done lead digits bytes c = .ok q ∧ SamePlace p q := by
  unfold stepHex at h ⊢
  split at h
  · cases h
    exact ⟨_, if_pos ‹_›, .hex _ _ _ _⟩
  · rw [if_neg ‹_›]
    split at h
    · cases h
    · obtain ⟨q, hq, same⟩ := samePlace_afterHex (Except.mapError_eq_ok.1 h)
      exact ⟨q, Except.mapError_eq_ok.2 hq, same⟩

/-- A character within a string leads on within it, or to its end. -/
theorem step_name (h : SamePlace p q) {s : State} (hs : step .any ⟨[], p⟩ c = .ok s)
    (members : Members) (last : String) :
    (∃ p' q', SamePlace p' q' ∧ s = ⟨[], p'⟩ ∧
      step .record ⟨[.object members last], q⟩ c = .ok ⟨[.object members last], q'⟩) ∨
    ∃ text, s = ⟨[], .done (.string text)⟩ ∧
      step .record ⟨[.object members last], q⟩ c = .ok ⟨[.object members text], .colon⟩ := by
  cases h with
  | text done =>
    simp only [step] at hs ⊢
    split at hs
    · cases hs
      exact .inr ⟨String.ofList done.reverse, rfl, if_pos ‹_›⟩
    rw [if_neg ‹_›]
    split at hs
    · cases hs
      exact .inl ⟨_, _, .escape done, rfl, if_pos ‹_›⟩
    rw [if_neg ‹_›]
    split at hs
    · cases hs
    · cases hs
      exact .inl ⟨_, _, .text (c :: done), rfl, if_neg ‹_›⟩
  | escape done =>
    simp only [step] at hs ⊢
    split at hs
    · cases hs
      exact .inl ⟨_, _, .hex done none [] 0, rfl, if_pos ‹_›⟩
    rw [if_neg ‹_›]
    cases letter : unescape? c with
    | none =>
      rw [letter] at hs
      cases hs
    | some e =>
      rw [letter] at hs
      cases hs
      exact .inl ⟨_, _, .text (e :: done), rfl, rfl⟩
  | hex done lead digits bytes =>
    obtain ⟨p', hp, hs⟩ := Except.bind_eq_ok.1 hs
    cases hs
    obtain ⟨q', hq, same⟩ := samePlace_stepHex hp
    exact .inl ⟨p', q', same, rfl, by simp only [step, hq]; rfl⟩
  | secondSlash done lead =>
    simp only [step] at hs ⊢
    split at hs
    · cases hs
      exact .inl ⟨_, _, .secondLetter done lead, rfl, if_pos ‹_›⟩
    · cases hs
  | secondLetter done lead =>
    simp only [step] at hs ⊢
    split at hs
    · cases hs
      exact .inl ⟨_, _, .hex done (some lead) [] 0, rfl, if_pos ‹_›⟩
    · cases hs

/-- A key is read like a value, from wherever in it the reader is. -/
theorem reads_of_run (h : SamePlace p q) {text : List Char} {offset : Nat} {s : State}
    (hr : run .any ⟨[], p⟩ (text ++ ['"']) offset = .ok s)
    (hf : finish .any s = .ok (.string key)) (members : Members) (last : String) :
    Reads .record ⟨[.object members last], q⟩ (text ++ ['"']) ⟨[.object members key], .colon⟩ := by
  induction text generalizing p q offset with
  | nil =>
    rw [List.nil_append, run] at hr
    split at hr
    case h_2 => cases hr
    case h_1 s hs =>
      cases hr
      rcases step_name h hs members last with ⟨p', q', same, rfl, -⟩ | ⟨text, rfl, goes⟩
      · cases same <;> cases hf
      · cases hf
        exact .single goes
  | cons c text ih =>
    rw [List.cons_append, run] at hr
    split at hr
    case h_2 => cases hr
    case h_1 s hs =>
      rcases step_name h hs members last with ⟨p', q', same, rfl, goes⟩ | ⟨text, rfl, -⟩
      · exact .cons goes (ih same hr)
      · exact absurd hr (run_done rfl)

end Reader

/-- A string between quotes is a key between quotes. -/
theorem reads_name {name key : String} (h : read .any ("\"" ++ name ++ "\"") = .ok (.string key))
    {phase : Reader.Phase} (starts : phase = .firstKey ∨ phase = .nextKey) (members : Members)
    (last : String) :
    Reader.Reads .record ⟨[.object members last], phase⟩ ("\"" ++ name ++ "\"").toList
      ⟨[.object members key], .colon⟩ := by
  have chars : ("\"" ++ name ++ "\"").toList = '"' :: (name.toList ++ ['"']) := by
    rw [String.toList_append, String.toList_append]
    rfl
  have opens : Reader.step .record ⟨[.object members last], phase⟩ '"' =
      .ok ⟨[.object members last], .text .key []⟩ := by
    rcases starts with rfl | rfl <;> rfl
  unfold read at h
  dsimp only at h
  rw [chars] at h ⊢
  split at h
  case h_1 => cases h
  case h_2 s hs =>
    exact .cons opens
      (Reader.reads_of_run (.text []) hs (Except.mapError_eq_ok.1 h) members last)

end Json

end GatewayDesk
