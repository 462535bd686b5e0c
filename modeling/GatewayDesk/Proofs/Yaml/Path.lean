import GatewayDesk.Proofs.Json.Repeated
import GatewayDesk.Proofs.Yaml.Reading

/-!
# Paths into a document

A path of keys and places leads from a node to a node inside it. On the way aliases are followed,
and of two members with one key the last counts, as in JSON. Where a node is read as JSON, its value
has at every path what the node there is read as.

* `Reading.cases_of_json`, `Reading.cases_of_object`: what nodes of each kind are read as.
* `Reading.child?_of_reads`: one way into a node.
* `Reading.at?_of_reads`, `Reading.at?_of_object`: what stands at a path.
* `Reading.scalar_of_reads`: what a scalar is read as.
-/

namespace GatewayDesk

namespace Yaml

namespace Document

variable (document : Document)

/-- The text of a key. -/
def keyText? (key : Numbered) : Option String :=
  match document.referent key with
  | .scalar _ _ _ _ text => some text
  | _ => none

/-- The members of a mapping whose keys are texts. -/
def fields (entries : List (Numbered × Numbered)) : List (String × Numbered) :=
  entries.filterMap fun entry => (document.keyText? entry.1).map fun name => (name, entry.2)

/-- What stands at a key or a place of a node; of two members with one key the last counts. -/
def child? (node : Numbered) (way : Json.Way) : Option Numbered :=
  match document.referent node, way with
  | .mapping _ _ _ entries, .key name => Ordered.get? (document.fields entries).reverse name
  | .sequence _ _ _ items, .place index => items[index]?
  | _, _ => none

/-- The node that stands at a path, or that the alias there refers to. -/
def at? (node : Numbered) : List Json.Way → Option Numbered
  | [] => some (document.referent node)
  | way :: path => (document.child? node way).bind fun inner => at? inner path

end Document

namespace Reading

variable {document : Document} {depth : Nat} {path : Path} {node : Numbered} {value : Json}
  {members : Json.Members}

/-- Whether a node is read as a value somewhere. -/
def Reads (document : Document) (node : Numbered) (value : Json) : Prop :=
  ∃ depth path, Finds (json document depth path node) value

/-- The members of a mapping are read one by one, each with its key. -/
theorem forall₂_of_members {wanted : String} {read : Path → Numbered → Reading Json}
    {entries : List (Numbered × Numbered)}
    (h : Finds (Reading.members document path wanted read entries) members) :
    List.Forall₂ (fun m n => m.1 = n.1 ∧ ∃ path, Finds (read path m.2) n.2)
      (document.fields entries) members := by
  have each := forall₂_of_mapM h
  rw [← List.zipIdx_map_fst 0 entries]
  clear h
  generalize entries.zipIdx = numbered at each ⊢
  induction each with
  | nil => exact .nil
  | @cons first member rest members found _ ih =>
    obtain ⟨⟨key, value⟩, i⟩ := first
    obtain ⟨name, named, found⟩ := exists_of_bind found
    obtain ⟨inner, walked, found⟩ := exists_of_bind found
    obtain ⟨mark, anchor, tag, style, scalar⟩ := referent_of_key named
    cases eq_of_pure found
    have text : document.keyText? key = some name := by rw [Document.keyText?, scalar]
    have first : document.fields (((key, value), i) :: rest |>.map Prod.fst) =
        (name, value) :: document.fields (rest.map Prod.fst) := by
      rw [List.map_cons, Document.fields, List.filterMap_cons, text]
      rfl
    rw [first]
    exact .cons ⟨rfl, _, walked⟩ ih

/-- A node that is read as JSON is a scalar, a sequence or a mapping, and so is its value. -/
theorem cases_of_json (h : Finds (json document depth path node) value) :
    (∃ mark anchor tag style text atom,
        document.referent node = .scalar mark anchor tag style text ∧
        Atom.ofScalar tag style text = .ok atom ∧ atom.toJson = .ok value) ∨
      (∃ mark anchor tag items values, document.referent node = .sequence mark anchor tag items ∧
        value = .array values ∧ List.Forall₂ (Reads document) items values) ∨
      ∃ mark anchor tag entries members,
        document.referent node = .mapping mark anchor tag entries ∧ value = .object members ∧
          List.Forall₂ (fun m n => m.1 = n.1 ∧ Reads document m.2 n.2) (document.fields entries)
            members := by
  unfold json at h
  obtain ⟨target, followed, h⟩ := exists_of_bind h
  rw [referent_of_follow followed]
  split at h
  case h_1 mark anchor tag style text =>
    split at h
    · exact absurd h (not_throw _)
    · obtain ⟨found, taken, h⟩ := exists_of_bind h
      unfold Reading.atom at taken
      cases made : Atom.ofScalar tag style text with
      | error reason =>
        rw [made] at taken
        exact absurd taken (not_throw _)
      | ok result =>
        rw [made] at taken
        obtain rfl := eq_of_pure taken
        split at h
        case h_1 json =>
          cases eq_of_pure h
          exact .inl ⟨mark, anchor, tag, style, text, result, rfl, made, json⟩
        case h_2 => exact absurd h (not_throw _)
  case h_2 mark anchor tag items =>
    split at h
    · exact absurd h (not_throw _)
    · split at h
      · exact absurd h (not_throw _)
      · obtain ⟨values, walked, h⟩ := exists_of_bind h
        cases eq_of_pure h
        have each := (forall₂_of_mapM walked).imp fun numbered value found =>
          (⟨_, _, found⟩ : Reads document numbered.1 value)
        have items : List.Forall₂ (Reads document) (items.zipIdx.map Prod.fst) values :=
          List.forall₂_map_left_iff.2 each
        rw [List.zipIdx_map_fst] at items
        exact .inr (.inl ⟨mark, anchor, tag, _, values, rfl, rfl, items⟩)
  case h_3 mark anchor tag entries =>
    split at h
    · exact absurd h (not_throw _)
    · split at h
      · exact absurd h (not_throw _)
      · obtain ⟨values, walked, h⟩ := exists_of_bind h
        cases eq_of_pure h
        have each := forall₂_of_members walked
        exact .inr (.inr ⟨mark, anchor, tag, entries, values, rfl, rfl,
          each.imp fun _ _ ⟨same, path, found⟩ => ⟨same, _, path, found⟩⟩)
  case h_4 => exact absurd h (not_throw _)

/-- What stands at a way into a node is read as what stands at the same way into its value. -/
theorem child?_of_reads (h : Reads document node value) {way : Json.Way} {inner : Numbered}
    (found : document.child? node way = some inner) :
    ∃ inside, value.child? way = some inside ∧ Reads document inner inside := by
  obtain ⟨depth, path, h⟩ := h
  unfold Document.child? at found
  rcases cases_of_json h with ⟨_, _, _, _, _, _, scalar, -⟩ |
    ⟨_, _, _, items, values, sequence, rfl, each⟩ | ⟨_, _, _, entries, members, mapping, rfl, each⟩
  · rw [scalar] at found
    cases found
  · rw [sequence] at found
    cases way with
    | key name => cases found
    | place index =>
      obtain ⟨there, rfl⟩ := List.getElem?_eq_some_iff.1 found
      have there' : index < values.length := each.length_eq ▸ there
      exact ⟨values[index], List.getElem?_eq_getElem there', each.get there there'⟩
  · rw [mapping] at found
    cases way with
    | key name => exact Ordered.exists_get?_of_forall₂ (List.rel_reverse each) found
    | place index => cases found

/-- What stands at a path into a node is read as what stands at the same path into its value. -/
theorem at?_of_reads (h : Reads document node value) {ways : List Json.Way} {target : Numbered}
    (found : document.at? node ways = some target) :
    ∃ inner inside, document.referent inner = target ∧ value.at? ways = some inside ∧
      Reads document inner inside := by
  induction ways generalizing node value with
  | nil =>
    cases found
    exact ⟨node, value, rfl, rfl, h⟩
  | cons way ways ih =>
    obtain ⟨inner, first, found⟩ := Option.bind_eq_some_iff.1 found
    obtain ⟨inside, first', read⟩ := child?_of_reads h first
    obtain ⟨last, leaf, stands, found', read⟩ := ih read found
    exact ⟨last, leaf, stands, by rw [Json.at?, first']; exact found', read⟩

/-- The members of an object are those of a mapping, and an object without any may be empty. -/
theorem cases_of_object (h : Finds (object document depth path node) members) :
    (∃ mark anchor tag style text, document.referent node = .scalar mark anchor tag style text) ∨
      ∃ mark anchor tag entries, document.referent node = .mapping mark anchor tag entries ∧
        List.Forall₂ (fun m n => m.1 = n.1 ∧ Reads document m.2 n.2) (document.fields entries)
          members := by
  obtain ⟨target, followed, h⟩ := exists_of_bind h
  rw [referent_of_follow followed]
  split at h
  case h_1 mark anchor tag entries =>
    split at h
    · exact absurd h (not_throw _)
    · exact .inr ⟨mark, anchor, tag, entries, rfl,
        (forall₂_of_members h).imp fun _ _ ⟨same, path, found⟩ => ⟨same, _, path, found⟩⟩
  case h_2 mark anchor tag style text => exact .inl ⟨mark, anchor, tag, style, text, rfl⟩
  case h_3 => exact absurd h not_mismatch

/-- What stands at a path into an object is read as what stands at the same path into its value. -/
theorem at?_of_object (h : Finds (object document depth path node) members)
    {ways : List Json.Way} (inside : ways ≠ []) {target : Numbered}
    (found : document.at? node ways = some target) :
    ∃ inner value, document.referent inner = target ∧ (Json.object members).at? ways = some value ∧
      Reads document inner value := by
  obtain ⟨way, ways, rfl⟩ := List.exists_cons_of_ne_nil inside
  obtain ⟨inner, first, further⟩ := Option.bind_eq_some_iff.1 found
  unfold Document.child? at first
  rcases cases_of_object h with ⟨_, _, _, _, _, scalar⟩ | ⟨_, _, _, entries, mapping, each⟩
  · rw [scalar] at first
    cases first
  · rw [mapping] at first
    cases way with
    | key name =>
      obtain ⟨value, first', read⟩ := Ordered.exists_get?_of_forall₂ (List.rel_reverse each) first
      obtain ⟨last, leaf, stands, found', read⟩ := at?_of_reads read further
      refine ⟨last, leaf, stands, ?_, read⟩
      rw [Json.at?, Json.child?, first']
      exact found'
    | place index => cases first

/-- A scalar is read as what its spelling says. -/
theorem scalar_of_reads {mark : Mark} {anchor : Option String} {tag : Option Address}
    {style : Style} {text : String} (h : Reads document node value)
    (scalar : document.referent node = .scalar mark anchor tag style text) :
    ∃ atom, Atom.ofScalar tag style text = .ok atom ∧ atom.toJson = .ok value := by
  obtain ⟨depth, path, h⟩ := h
  rcases cases_of_json h with ⟨_, _, _, _, _, atom, same, made, json⟩ | ⟨_, _, _, _, _, same, -⟩ |
    ⟨_, _, _, _, _, same, -⟩
  · cases scalar.symm.trans same
    exact ⟨atom, made, json⟩
  · cases scalar.symm.trans same
  · cases scalar.symm.trans same

end Reading

end Yaml

end GatewayDesk
