import GatewayDesk.Yaml.Atom

/-!
# What plain scalars become

A plain scalar without a tag becomes null if it is one of five words for null, but also if it is one
of twelve words for a number that JSON does not have. Every other one becomes a boolean, a number or
the text that it is, or is refused.

* `cases_of_ofPlain`: what plain scalars are in YAML.
* `ofPlain_eq_null_iff`, `isUnbounded_ofPlain_iff`: the words.
* `toJson_ofPlain`: what plain scalars become in JSON.
-/

namespace GatewayDesk

namespace Yaml

namespace Atom

/-- The plain scalars that mean null. -/
def nullWords : List String := ["", "~", "null", "Null", "NULL"]

/-- The plain scalars that mean a number without bounds, or none at all. -/
def unboundedWords : List String :=
  [".inf", ".Inf", ".INF", "+.inf", "+.Inf", "+.INF", "-.inf", "-.Inf", "-.INF",
    ".nan", ".NaN", ".NAN"]

/-- Whether the value is a number without bounds or not a number. -/
def isUnbounded : Atom → Bool
  | .infinity _ => true
  | .notNumber => true
  | _ => false

variable {text : String} {cs : List Char} {atom : Atom}

theorem ofPlain_eq_null_iff : ofPlain text = .null ↔ text ∈ nullWords := by
  have same (word : String) : text.toList = word.toList ↔ text = word := String.toList_inj
  rw [ofPlain_null, isNull, List.contains_iff_mem]
  simp only [nullWords, List.mem_cons, List.not_mem_nil, or_false, ← same]
  constructor
  · rintro (h | h | h | h | h)
    · exact .inl h
    · exact .inr (.inr (.inl h))
    · exact .inr (.inr (.inr (.inl h)))
    · exact .inr (.inr (.inr (.inr h)))
    · exact .inr (.inl h)
  · rintro (h | h | h | h | h)
    · exact .inl h
    · exact .inr (.inr (.inr (.inr h)))
    · exact .inr (.inl h)
    · exact .inr (.inr (.inl h))
    · exact .inr (.inr (.inr (.inl h)))

/-- An integer is a number, or too wide for one. -/
theorem cases_of_readInteger (h : readInteger? cs = some atom) :
    (∃ n, atom = .number n) ∨ ∃ z, atom = .wide z := by
  obtain ⟨z, -, h⟩ := Option.bind_eq_some_iff.1 h
  unfold ofInteger? at h
  split at h
  · cases h
    exact .inl ⟨_, rfl⟩
  · split at h
    · cases h
      exact .inr ⟨_, rfl⟩
    · cases h

/-- A fraction is a number, or one of the words for a number without bounds. -/
theorem cases_of_readFraction (h : readFraction? cs = some atom) :
    (∃ n, atom = .number n) ∨ atom.isUnbounded = true ∧ String.ofList cs ∈ unboundedWords := by
  have listed {words : List (List Char × Atom)} (found : words.lookup cs = some atom)
      (all : ∀ m ∈ words, m.2.isUnbounded = true ∧ String.ofList m.1 ∈ unboundedWords) :
      atom.isUnbounded = true ∧ String.ofList cs ∈ unboundedWords := by
    obtain ⟨front, back, rfl, -⟩ := List.lookup_eq_some_iff.1 found
    exact all (cs, atom) (by simp)
  unfold readFraction? at h
  dsimp only at h
  split at h
  case h_1 found =>
    cases h
    exact .inr (listed found (by decide))
  case h_2 =>
    obtain ⟨d, -, h⟩ := Option.bind_eq_some_iff.1 h
    obtain ⟨x, -, h⟩ := Option.bind_eq_some_iff.1 h
    cases h
    exact .inl ⟨_, rfl⟩

/-- What a plain scalar is: null, a truth value, a number of one of three kinds, or its text. -/
theorem cases_of_ofPlain (text : String) :
    ofPlain text = .null ∨ (∃ b, ofPlain text = .boolean b) ∨ (∃ n, ofPlain text = .number n) ∨
      (∃ z, ofPlain text = .wide z) ∨
      ((ofPlain text).isUnbounded = true ∧ text ∈ unboundedWords) ∨ ofPlain text = .text text := by
  unfold ofPlain
  dsimp only
  split
  · exact .inl rfl
  · split
    case h_1 b _ => exact .inr (.inl ⟨b, rfl⟩)
    case h_2 =>
      split
      case h_1 atom found =>
        rcases cases_of_readInteger found with number | wide
        · exact .inr (.inr (.inl number))
        · exact .inr (.inr (.inr (.inl wide)))
      case h_2 =>
        split
        · exact .inr (.inr (.inr (.inr (.inr rfl))))
        · cases found : readFraction? text.toList with
          | none => exact .inr (.inr (.inr (.inr (.inr rfl))))
          | some atom =>
            rcases cases_of_readFraction found with number | unbounded
            · exact .inr (.inr (.inl number))
            · rw [String.ofList_toList] at unbounded
              exact .inr (.inr (.inr (.inr (.inl unbounded))))

theorem isUnbounded_ofPlain_iff : (ofPlain text).isUnbounded = true ↔ text ∈ unboundedWords := by
  constructor
  · intro h
    rcases cases_of_ofPlain text with e | ⟨_, e⟩ | ⟨_, e⟩ | ⟨_, e⟩ | ⟨-, word⟩ | e
    case inr.inr.inr.inr.inl => exact word
    all_goals
      rw [e] at h
      cases h
  · have all : ∀ word ∈ unboundedWords, (ofPlain word).isUnbounded = true := by decide +kernel
    exact all text

/-- What a plain scalar becomes in JSON: null if it is one of the words for null, or for a number
that JSON does not have, and a boolean, a number or its text otherwise. -/
theorem toJson_ofPlain {value : Json} (h : (ofPlain text).toJson = .ok value) :
    (value = .null ↔ text ∈ nullWords ∨ text ∈ unboundedWords) ∧
      (value ≠ .null →
        (∃ b, value = .boolean b) ∨ (∃ n, value = .number n) ∨ value = .string text) := by
  rw [← ofPlain_eq_null_iff, ← isUnbounded_ofPlain_iff]
  have kept (ne : value ≠ .null) (bounded : ¬(ofPlain text = .null ∨ (ofPlain text).isUnbounded))
      (kind : (∃ b, value = .boolean b) ∨ (∃ n, value = .number n) ∨ value = .string text) :
      (value = .null ↔ ofPlain text = .null ∨ (ofPlain text).isUnbounded = true) ∧
        (value ≠ .null →
          (∃ b, value = .boolean b) ∨ (∃ n, value = .number n) ∨ value = .string text) :=
    ⟨iff_of_false ne bounded, fun _ => kind⟩
  rcases cases_of_ofPlain text with e | ⟨b, e⟩ | ⟨n, e⟩ | ⟨z, e⟩ | ⟨unbounded, -⟩ | e
  · rw [e] at h
    cases h
    exact ⟨iff_of_true rfl (.inl e), fun ne => absurd rfl ne⟩
  · rw [e] at h
    cases h
    exact kept nofun (by simp [e, isUnbounded]) (.inl ⟨b, rfl⟩)
  · rw [e] at h
    cases h
    exact kept nofun (by simp [e, isUnbounded]) (.inr (.inl ⟨n, rfl⟩))
  · rw [e] at h
    cases h
  · have null : value = .null := by
      cases e : ofPlain text with
      | infinity _ | notNumber =>
        rw [e] at h
        cases h
        rfl
      | _ =>
        rw [e] at unbounded
        cases unbounded
    exact ⟨iff_of_true null (.inr unbounded), fun ne => absurd null ne⟩
  · rw [e] at h
    cases h
    exact kept nofun (by simp [e, isUnbounded]) (.inr (.inr rfl))

end Atom

end Yaml

end GatewayDesk
