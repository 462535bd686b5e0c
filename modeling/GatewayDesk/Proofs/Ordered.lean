import GatewayDesk.Ordered
import Mathlib.Data.List.Forall2
import Mathlib.Data.List.Sort

/-!
# Looking up keys

* `exists_get?_of_forall₂`: what two lists with the same keys hold.
* `get?_insertOlder`: an older pair counts only where there is no newer one.
* `Ascending.get?_reverse`: among ascending keys the first pair of a key is the last.
* `Ascending.get?_eq_some_iff`: among ascending keys every pair is found.
* `Ascending.ext`: ascending keys that hold the same values are the same.
-/

namespace GatewayDesk

namespace Ordered

variable {α : Type} {entries others : List (String × α)} {key k : String} {value : α}

theorem get?_append (a b : List (String × α)) (k : String) :
    get? (a ++ b) k = (get? a k).or (get? b k) := by
  induction a with
  | nil => rfl
  | cons m rest ih =>
    rw [List.cons_append, get?, get?, ih]
    split <;> rfl

theorem mem_of_get? (h : get? entries k = some value) : (k, value) ∈ entries := by
  induction entries with
  | nil => cases h
  | cons m rest ih =>
    obtain ⟨j, v⟩ := m
    rw [get?] at h
    split at h
    case isTrue same =>
      cases h
      subst same
      exact List.mem_cons_self
    case isFalse => exact List.mem_cons_of_mem _ (ih h)

/-- Where two lists have the same keys, what one holds at a key the other holds as well. -/
theorem exists_get?_of_forall₂ {β : Type} {same : α → β → Prop} {entries : List (String × α)}
    {others : List (String × β)}
    (h : List.Forall₂ (fun m n => m.1 = n.1 ∧ same m.2 n.2) entries others)
    (found : get? entries k = some value) :
    ∃ other, get? others k = some other ∧ same value other := by
  induction h with
  | nil => cases found
  | @cons m n rest rest' first _ ih =>
    obtain ⟨j, v⟩ := m
    obtain ⟨_, v'⟩ := n
    obtain ⟨rfl, alike⟩ := first
    rw [get?] at found ⊢
    split at found
    case isTrue same =>
      cases found
      exact ⟨v', if_pos same, alike⟩
    case isFalse other =>
      rw [if_neg other]
      exact ih found

theorem get?_eq_none_iff : get? entries k = none ↔ ∀ m ∈ entries, m.1 ≠ k := by
  induction entries with
  | nil => exact iff_of_true rfl (List.forall_mem_nil _)
  | cons m rest ih =>
    rw [get?, List.forall_mem_cons]
    split
    case isTrue same => exact iff_of_false (Option.some_ne_none _) fun h => h.1 same
    case isFalse other => rw [ih, and_iff_right other]

theorem mem_keys_iff : k ∈ entries.map Prod.fst ↔ get? entries k ≠ none := by
  rw [ne_eq, get?_eq_none_iff, List.mem_map]
  push Not
  rfl

/-- Among ascending keys every pair is found. -/
theorem Ascending.get?_eq_some_iff (h : Ascending entries) :
    get? entries k = some value ↔ (k, value) ∈ entries := by
  refine ⟨mem_of_get?, fun mem => ?_⟩
  induction entries with
  | nil => cases mem
  | cons m rest ih =>
    obtain ⟨first, others⟩ := List.pairwise_cons.1 h
    rw [get?]
    rcases List.mem_cons.1 mem with rfl | mem
    · exact if_pos rfl
    · rw [if_neg (String.ne_of_lt (first _ mem)), ih others mem]

/-- Among ascending keys the first pair of a key is the last. -/
theorem Ascending.get?_reverse (h : Ascending entries) (k : String) :
    get? entries.reverse k = get? entries k := by
  induction entries with
  | nil => rfl
  | cons m rest ih =>
    obtain ⟨first, others⟩ := List.pairwise_cons.1 h
    have last : get? [m] k = if m.1 = k then some m.2 else none := rfl
    rw [List.reverse_cons, get?_append, ih others, last, get?]
    split
    case isTrue same =>
      have absent : get? rest k = none :=
        get?_eq_none_iff.2 fun n mem e => String.ne_of_lt (first n mem) (same.trans e.symm)
      rw [absent]
      rfl
    case isFalse => exact Option.or_none

/-- An older pair counts only where there is no newer one. -/
theorem get?_insertOlder (h : Ascending entries) (key k : String) (value : α) :
    get? (insertOlder key value entries) k =
      (get? entries k).or (if key = k then some value else none) := by
  induction entries with
  | nil => rfl
  | cons m rest ih =>
    obtain ⟨j, v⟩ := m
    obtain ⟨first, others⟩ := List.pairwise_cons.1 h
    rw [insertOlder]
    split
    case isTrue before =>
      have absent : get? ((j, v) :: rest) key = none := by
        refine get?_eq_none_iff.2 (List.forall_mem_cons.2 ⟨(String.ne_of_lt before).symm, ?_⟩)
        exact fun n mem => (String.ne_of_lt (String.lt_trans before (first n mem))).symm
      rw [get?]
      split
      case isTrue same => rw [← same, absent]; rfl
      case isFalse => exact Option.or_none.symm
    case isFalse after =>
      split
      case isTrue same =>
        subst same
        rw [get?]
        split
        · rfl
        · exact Option.or_none.symm
      case isFalse other =>
        rw [get?, get?, ih others]
        split <;> rfl

/-- Ascending keys that hold the same values are the same. -/
theorem Ascending.ext (h : Ascending entries) (h' : Ascending others)
    (same : ∀ k, get? entries k = get? others k) : entries = others := by
  have irrefl : Std.Irrefl fun a b : String × α => a.1 < b.1 := ⟨fun a => String.lt_irrefl a.1⟩
  have antisymm : Std.Antisymm fun a b : String × α => a.1 < b.1 :=
    ⟨fun a b ab ba => absurd (String.lt_trans ab ba) (String.lt_irrefl a.1)⟩
  refine List.Pairwise.eq_of_mem_iff h h' fun m => ?_
  rw [← h.get?_eq_some_iff, ← h'.get?_eq_some_iff, same]

end Ordered

end GatewayDesk
