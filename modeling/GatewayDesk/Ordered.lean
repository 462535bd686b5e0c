/-!
# Ascending keys

A list of pairs whose keys ascend holds every key once and lists them in one order.
`Ordered.insert` puts a pair at its place, over an older one of the same key;
`Ordered.insertOlder` leaves a pair that is there.

* `get?_insert`: insertion replaces one key and leaves the others.
* `Ascending.insert`, `Ascending.insertOlder`: insertion keeps the order.
-/

namespace GatewayDesk

namespace Ordered

variable {α : Type}

/-- The value of the first pair with a key. -/
def get? (entries : List (String × α)) (key : String) : Option α :=
  match entries with
  | [] => none
  | (k, v) :: rest => if k = key then some v else get? rest key

/-- Puts a pair at its place among ascending keys, over an older one of the same key. -/
def insert (key : String) (value : α) : List (String × α) → List (String × α)
  | [] => [(key, value)]
  | (k, v) :: rest =>
    if key < k then (key, value) :: (k, v) :: rest
    else if key = k then (key, value) :: rest
    else (k, v) :: insert key value rest

/-- Puts a pair at its place among ascending keys, unless the key is there already. -/
def insertOlder (key : String) (value : α) : List (String × α) → List (String × α)
  | [] => [(key, value)]
  | (k, v) :: rest =>
    if key < k then (key, value) :: (k, v) :: rest
    else if key = k then (k, v) :: rest
    else (k, v) :: insertOlder key value rest

/-- Whether the keys ascend. -/
def Ascending (entries : List (String × α)) : Prop :=
  entries.Pairwise fun a b => a.1 < b.1

/-! ## Laws -/

theorem get?_insert (key k : String) (value : α) (entries : List (String × α)) :
    get? (insert key value entries) k = if key = k then some value else get? entries k := by
  induction entries with
  | nil => simp [insert, get?]
  | cons m rest ih =>
    obtain ⟨j, v⟩ := m
    by_cases h₁ : key < j
    · simp [insert, h₁, get?]
    · by_cases h₂ : key = j
      · subst h₂
        by_cases h₃ : key = k <;> simp [insert, get?, h₃]
      · by_cases h₃ : j = k
        · subst h₃
          simp [insert, h₁, h₂, get?]
        · simp [insert, h₁, h₂, get?, h₃, ih]

theorem eq_or_mem_of_mem_insert {key : String} {value : α} {entries : List (String × α)}
    {m : String × α} (h : m ∈ insert key value entries) : m = (key, value) ∨ m ∈ entries := by
  induction entries with
  | nil => simp_all [insert]
  | cons n rest ih =>
    obtain ⟨j, v⟩ := n
    simp only [insert] at h
    split at h
    · rcases List.mem_cons.1 h with rfl | h
      · exact .inl rfl
      · exact .inr h
    · split at h
      · rcases List.mem_cons.1 h with rfl | h
        · exact .inl rfl
        · exact .inr (List.mem_cons_of_mem _ h)
      · rcases List.mem_cons.1 h with rfl | h
        · exact .inr List.mem_cons_self
        · rcases ih h with h | h
          · exact .inl h
          · exact .inr (List.mem_cons_of_mem _ h)

private theorem fst_of_mem_insertOlder {key : String} {value : α} {entries : List (String × α)}
    {m : String × α} (h : m ∈ insertOlder key value entries) : m.1 = key ∨ m ∈ entries := by
  induction entries with
  | nil => simp_all [insertOlder]
  | cons n rest ih =>
    obtain ⟨j, v⟩ := n
    simp only [insertOlder] at h
    split at h
    · rcases List.mem_cons.1 h with rfl | h
      · exact .inl rfl
      · exact .inr h
    · split at h
      · exact .inr h
      · rcases List.mem_cons.1 h with rfl | h
        · exact .inr List.mem_cons_self
        · rcases ih h with h | h
          · exact .inl h
          · exact .inr (List.mem_cons_of_mem _ h)

/-- Insertion keeps the order of the keys. -/
theorem Ascending.insert {entries : List (String × α)} (h : Ascending entries) (key : String)
    (value : α) : Ascending (insert key value entries) := by
  induction entries with
  | nil => simp [Ordered.insert, Ascending]
  | cons m rest ih =>
    obtain ⟨j, v⟩ := m
    obtain ⟨hj, hrest⟩ := List.pairwise_cons.1 h
    simp only [Ordered.insert]
    split
    case isTrue h₁ =>
      refine List.pairwise_cons.2 ⟨fun a ha => ?_, h⟩
      rcases List.mem_cons.1 ha with rfl | ha
      · exact h₁
      · exact String.lt_trans h₁ (hj a ha)
    case isFalse h₁ =>
      split
      case isTrue h₂ => subst h₂; exact List.pairwise_cons.2 ⟨hj, hrest⟩
      case isFalse h₂ =>
        refine List.pairwise_cons.2 ⟨fun a ha => ?_, ih hrest⟩
        rcases eq_or_mem_of_mem_insert ha with e | ha
        · show j < a.1
          rw [e]
          grind
        · exact hj a ha

/-- Insertion of an older pair keeps the order of the keys. -/
theorem Ascending.insertOlder {entries : List (String × α)} (h : Ascending entries) (key : String)
    (value : α) : Ascending (insertOlder key value entries) := by
  induction entries with
  | nil => simp [Ordered.insertOlder, Ascending]
  | cons m rest ih =>
    obtain ⟨j, v⟩ := m
    obtain ⟨hj, hrest⟩ := List.pairwise_cons.1 h
    simp only [Ordered.insertOlder]
    split
    case isTrue h₁ =>
      refine List.pairwise_cons.2 ⟨fun a ha => ?_, h⟩
      rcases List.mem_cons.1 ha with rfl | ha
      · exact h₁
      · exact String.lt_trans h₁ (hj a ha)
    case isFalse h₁ =>
      split
      case isTrue h₂ => exact h
      case isFalse h₂ =>
        refine List.pairwise_cons.2 ⟨fun a ha => ?_, ih hrest⟩
        rcases fst_of_mem_insertOlder ha with e | ha
        · show j < a.1
          rw [e]
          grind
        · exact hj a ha

theorem insertOlder_of_forall_lt {key : String} {value : α} {entries : List (String × α)}
    (h : ∀ m ∈ entries, key < m.1) : insertOlder key value entries = (key, value) :: entries := by
  cases entries with
  | nil => rfl
  | cons m rest =>
    obtain ⟨j, v⟩ := m
    simp [insertOlder, h (j, v) List.mem_cons_self]

end Ordered

end GatewayDesk
