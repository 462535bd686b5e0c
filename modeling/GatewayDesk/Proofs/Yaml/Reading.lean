import GatewayDesk.Proofs.Except
import GatewayDesk.Yaml.Json
import Mathlib.Data.List.Forall2

/-!
# What walks find

How many aliases a walk may follow decides whether it succeeds, but not what it finds. A walk in two
parts finds what its second part finds, an alias is followed to the node that it refers to, and a
report that a node has the wrong shape ends the walk.

* `Reading.exists_of_bind`, `Reading.forall₂_of_mapM`: a walk in two parts, or in many.
* `Reading.finds_of_run`: the walk through a whole document.
* `Reading.referent_of_follow`, `Reading.referent_of_key`: where aliases lead.
-/

namespace GatewayDesk

namespace Yaml

/-- The node that a node stands for: itself, or what it refers to. -/
def Document.referent (document : Document) (node : Numbered) : Numbered :=
  match node with
  | .alias _ number => (document.target? number).getD .cut
  | node => node

namespace Reading

variable {α β : Type} {document : Document} {a b : α}

/-- Whether a walk finds a value if it may follow some number of aliases. -/
def Finds (walk : Reading α) (a : α) : Prop := ∃ left rest, StateT.run walk left = .ok (a, rest)

theorem exists_of_bind {walk : Reading β} {next : β → Reading α} (h : Finds (walk >>= next) a) :
    ∃ found, Finds walk found ∧ Finds (next found) a := by
  obtain ⟨left, rest, h⟩ := h
  obtain ⟨⟨found, between⟩, first, second⟩ := Except.bind_eq_ok.1 h
  exact ⟨found, ⟨left, between, first⟩, between, rest, second⟩

theorem eq_of_pure (h : Finds (pure a) b) : a = b := by
  obtain ⟨left, rest, h⟩ := h
  cases h
  rfl

theorem not_throw (error : Error) : ¬Finds (throw error) a := by
  rintro ⟨left, rest, h⟩
  cases h

/-- A walk along a list finds a value for each element. -/
theorem forall₂_of_mapM {walk : β → Reading α} {xs : List β} {found : List α}
    (h : Finds (xs.mapM walk) found) : List.Forall₂ (fun x a => Finds (walk x) a) xs found := by
  induction xs generalizing found with
  | nil =>
    rw [List.mapM_nil] at h
    cases eq_of_pure h
    exact .nil
  | cons x xs ih =>
    rw [List.mapM_cons] at h
    obtain ⟨first, walked, h⟩ := exists_of_bind h
    obtain ⟨others, later, h⟩ := exists_of_bind h
    cases eq_of_pure h
    exact .cons walked (ih later)

/-- The walk through a document that reads starts at its root. -/
theorem finds_of_run {walk : Numbered → Reading α} (h : run document walk = .ok a) :
    Finds (walk document.root) a := by
  obtain ⟨⟨found, rest⟩, walked, h⟩ := Except.bind_eq_ok.1 h
  dsimp only at h
  split at h
  · cases h
  · split at h
    · cases h
    · cases h
      exact ⟨document.aliasLimit, rest, walked⟩

theorem referent_of_follow {node target : Numbered} (h : Finds (follow document node) target) :
    document.referent node = target := by
  obtain ⟨left, rest, h⟩ := h
  unfold follow at h
  split at h
  case h_1 mark number =>
    cases left with
    | zero => cases h
    | succ left =>
      cases h
      rfl
  case h_2 other =>
    cases h
    unfold Document.referent
    split
    · exact absurd rfl (other _ _)
    · rfl

/-- A node of the wrong shape ends a walk. -/
theorem not_mismatch {wanted : String} {path : Path} {node : Numbered} :
    ¬Finds (mismatch document wanted path node : Reading α) a := by
  intro h
  cases node with
  | scalar mark anchor tag style text =>
    obtain ⟨atom, -, h⟩ := exists_of_bind h
    exact not_throw _ h
  | _ => exact not_throw _ h

/-- A key is the text of the scalar that it stands for. -/
theorem referent_of_key {wanted name : String} {path : Path} {node : Numbered}
    (h : Finds (key document wanted path node) name) :
    ∃ mark anchor tag style, document.referent node = .scalar mark anchor tag style name := by
  obtain ⟨target, followed, h⟩ := exists_of_bind h
  rw [referent_of_follow followed]
  split at h
  · cases eq_of_pure h
    exact ⟨_, _, _, _, rfl⟩
  · exact absurd h not_mismatch

end Reading

end Yaml

end GatewayDesk
