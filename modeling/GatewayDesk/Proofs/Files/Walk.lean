import GatewayDesk.Proofs.Files.Parent
import GatewayDesk.Proofs.Files.Tree

/-!
# Walks and what they pass

Where a path leads is a matter of its steps, and what is in the way of a step is a matter of two
entries, where it starts and where it leads to. So a walk ends alike in two trees that have the same
entries on its way.

* `walk_cons`: a walk takes one step after the other.
* `spot`, `Passes`: where a path leads, and the locations on its way.
* `walk_congr`: a walk is a matter of the entries that it passes.
* `Reaches.locate_put`: a file that is written beside a path does not change where it leads.
-/

namespace GatewayDesk

namespace FileTree

variable {tree tree' : FileTree} {from_ here l : Location} {steps : List String} {path : String}

/-! ## Steps -/

/-- The location that a step leads to. -/
def turn (from_ : Location) (step : String) : Location :=
  if step = "." then from_ else if step = ".." then from_.dropLast else from_ ++ [step]

/-- What is in the way of a step, if something is. -/
def obstacle? (tree : FileTree) (from_ : Location) (step : String) : Option FileError :=
  if tree.at? from_ ≠ some .directory then some .notDirectory
  else if step = "." ∨ step = ".." then none
  else if 255 < step.utf8ByteSize then some .nameTooLong
  else if tree.at? (turn from_ step) = none then some .notFound
  else none

theorem resolve_cons (from_ : Location) (step : String) (rest : List String) :
    resolve from_ (step :: rest) = resolve (turn from_ step) rest := by
  rw [resolve, turn]
  by_cases dot : step = "."
  · simp [dot]
  · by_cases dots : step = ".."
    · simp [dots]
    · simp [dot, dots]

theorem walk_cons (tree : FileTree) (from_ : Location) (step : String) (rest : List String) :
    tree.walk from_ (step :: rest) =
      match tree.obstacle? from_ step with
      | some fault => .error fault
      | none => tree.walk (turn from_ step) rest := by
  rw [walk, obstacle?]
  by_cases directory : tree.at? from_ = some .directory
  · by_cases dot : step = "."
    · simp [directory, dot, turn]
    · by_cases dots : step = ".."
      · simp [directory, dots, turn]
      · by_cases long : 255 < step.utf8ByteSize
        · simp [directory, dot, dots, long]
        · cases hn : tree.at? (from_ ++ [step]) <;> simp [directory, dot, dots, long, turn, hn]
  · simp [directory]

theorem obstacle?_congr {step : String} (hf : tree.at? from_ = tree'.at? from_)
    (ht : tree.at? (turn from_ step) = tree'.at? (turn from_ step)) :
    tree.obstacle? from_ step = tree'.obstacle? from_ step := by
  rw [obstacle?, obstacle?, hf, ht]

/-! ## Where paths lead -/

theorem resolve_append (from_ : Location) (first second : List String) :
    resolve from_ (first ++ second) = resolve (resolve from_ first) second := by
  induction first generalizing from_ with
  | nil => rfl
  | cons step rest ih => rw [List.cons_append, resolve_cons, resolve_cons, ih]

theorem resolve_concat {name : String} (h : name ≠ "." ∧ name ≠ "..") (from_ : Location)
    (steps : List String) : resolve from_ (steps ++ [name]) = resolve from_ steps ++ [name] := by
  rw [resolve_append, resolve_cons, turn, if_neg h.1, if_neg h.2, resolve]

theorem resolve_dots (from_ : Location) (n : Nat) :
    resolve from_ (List.replicate n ".") = from_ := by
  induction n with
  | zero => rfl
  | succ n ih => exact ih

/-- Where the steps of a path start. -/
def origin (tree : FileTree) (path : String) : Location :=
  if Path.isAbsolute path then [] else tree.here

/-- The location that a path leads to, whatever stands there. -/
def spot (tree : FileTree) (path : String) : Location :=
  resolve (tree.origin path) (Path.steps path)

theorem spot_of_locate (h : tree.locate path = .ok l) : l = tree.spot path := by
  obtain ⟨way, hr, hw⟩ := Except.bind_eq_ok.1 h
  obtain rfl := route_eq_ok hr
  exact walk_eq_resolve hw

/-- Whether steps lead through a location, or start or end there. -/
def Passes (from_ : Location) (steps : List String) (l : Location) : Prop :=
  ∃ first, first <+: steps ∧ l = resolve from_ first

theorem passes_start (from_ : Location) (steps : List String) : Passes from_ steps from_ :=
  ⟨[], List.nil_prefix, rfl⟩

theorem passes_mono {first : List String} (h : first <+: steps) (hl : Passes from_ first l) :
    Passes from_ steps l := by
  obtain ⟨some, part, rfl⟩ := hl
  exact ⟨some, part.trans h, rfl⟩

theorem passes_cons {step : String} (h : Passes (turn from_ step) steps l) :
    Passes from_ (step :: steps) l := by
  obtain ⟨first, part, rfl⟩ := h
  exact ⟨step :: first, List.cons_prefix_cons.2 ⟨rfl, part⟩, (resolve_cons _ _ _).symm⟩

/-- A walk to a directory passes directories only. -/
theorem directory_of_passes (h : tree.walk from_ steps = .ok here)
    (directory : tree.at? here = some .directory) (hl : Passes from_ steps l) :
    tree.at? l = some .directory := by
  obtain ⟨first, ⟨rest, rfl⟩, rfl⟩ := hl
  rw [walk_append] at h
  obtain ⟨there, hf, hr⟩ := Except.bind_eq_ok.1 h
  obtain rfl := walk_eq_resolve hf
  cases rest with
  | nil =>
    cases hr
    exact directory
  | cons step rest => exact directory_of_walk hr

/-- A walk is a matter of the entries that it passes. -/
theorem walk_congr (h : ∀ l, Passes from_ steps l → tree.at? l = tree'.at? l) :
    tree.walk from_ steps = tree'.walk from_ steps := by
  induction steps generalizing from_ with
  | nil => rfl
  | cons step rest ih =>
    have first := h _ (passes_start from_ _)
    have second := h _ (passes_cons (passes_start (turn from_ step) rest))
    rw [walk_cons, walk_cons, obstacle?_congr first second, ih fun l hl => h l (passes_cons hl)]

/-- A name that a path stands for is one that its steps pass. -/
theorem passes_of_goal {parent : Location} {name : String} {slash : Bool}
    (h : tree.goal path = .ok (.name parent name slash)) :
    Passes (tree.origin path) (Path.steps path) (parent ++ [name]) := by
  obtain ⟨way, hr, h⟩ := Except.bind_eq_ok.1 h
  obtain rfl := route_eq_ok hr
  dsimp only at h
  generalize hn : (if (Path.steps path).getLast? == some "." &&
    (Path.pieces path).getLast? == some [] then (Path.steps path).dropLast
    else Path.steps path) = named at h
  have part : named <+: Path.steps path := by
    rw [← hn]
    split
    · exact List.dropLast_prefix _
    · exact List.prefix_rfl
  split at h
  case h_1 => cases h
  case h_2 last hl =>
    obtain ⟨there, hw, h⟩ := Except.bind_eq_ok.1 h
    split at h
    · cases h
    case isFalse plain =>
      split at h
      · cases h
      · cases h
        obtain rfl := walk_eq_resolve (walk_dot.1 hw).1
        simp only [Bool.or_eq_true, beq_iff_eq, not_or] at plain
        refine ⟨named, part, ?_⟩
        obtain ⟨init, rfl⟩ : ∃ init, named = init ++ [name] := by
          rcases List.eq_nil_or_concat named with rfl | ⟨init, final, rfl⟩
          · cases hl
          · refine ⟨init, ?_⟩
            rw [List.concat_eq_append] at hl ⊢
            rw [List.getLast?_concat] at hl
            rw [Option.some.inj hl]
        rw [List.dropLast_concat]
        exact (resolve_concat plain _ _).symm

/-! ## File names -/

section Names

variable {front : List (List Char)} {name : List Char}

theorem origin_of_names (h : Path.Names path front name) (tree : FileTree) :
    tree.origin path = tree.start front := by
  rw [origin, h.isAbsolute_eq, start]

/-- A path leads to its file name. -/
theorem spot_of_names (h : Path.Names path front name) (tree : FileTree) :
    tree.spot path = tree.place front name := by
  obtain ⟨n, steps⟩ := h.steps
  rw [spot, steps, origin_of_names h, ← List.singleton_append, ← List.append_assoc,
    resolve_append, resolve_concat h.leads.ofList_ne, resolve_dots]
  rfl

/-- The steps of a path pass what is before its file name, and the name. -/
theorem passes_of_names (h : Path.Names path front name)
    (hl : Passes (tree.origin path) (Path.steps path) l) :
    Passes (tree.origin path) (Path.turns front) l ∨ l = tree.place front name := by
  obtain ⟨first, part, rfl⟩ := hl
  obtain ⟨n, steps⟩ := h.steps
  rw [steps] at part
  rcases List.prefix_or_prefix_of_prefix part (List.prefix_append _ _) with within | ⟨more, rfl⟩
  · exact .inl ⟨first, within, rfl⟩
  · rcases List.prefix_cons_iff.1 ((List.prefix_append_right_inj _).1 part) with
      rfl | ⟨dots, rfl, hd⟩
    · exact .inl ⟨_, List.prefix_rfl, by rw [List.append_nil]⟩
    · have all : dots = List.replicate dots.length "." :=
        List.eq_replicate_iff.2 ⟨rfl, fun s hs => List.eq_of_mem_replicate (hd.mem hs)⟩
      right
      rw [all, ← List.singleton_append, ← List.append_assoc, resolve_append,
        resolve_concat h.leads.ofList_ne, resolve_dots, origin_of_names h]
      rfl

end Names

/-! ## Files that are written -/

theorem at?_put_of_ne {location : Location} {entry : Entry} (h : l ≠ location) :
    (tree.put location entry).at? l = tree.at? l := by
  rw [at?_put, if_neg h]
  split
  case isTrue root => rw [root, at?, if_pos rfl]
  case isFalse => rfl

theorem at?_remove_of_ne {location : Location} (h : l ≠ location) :
    (tree.remove location).at? l = tree.at? l := by
  rw [at?_remove, if_neg h]
  split
  case isTrue root => rw [root, at?, if_pos rfl]
  case isFalse => rfl

/-- Only at a name whose directory is there can a file be written. -/
theorem reaches_of_write {contents : ByteArray} (h : tree.write path contents = .ok tree') :
    ∃ front name, tree.Reaches path front name ∧
      tree.at? (tree.place front name) ≠ some .directory ∧
      tree' = tree.put (tree.place front name) (.file contents) := by
  obtain ⟨goal, hg, hw⟩ := Except.bind_eq_ok.1 h
  cases goal with
  | dots => cases hw
  | name parent name slash =>
    dsimp only at hw
    split at hw
    case isTrue => cases hw
    case isFalse free =>
      simp only [Bool.or_eq_true, beq_iff_eq, not_or, Bool.not_eq_true] at free
      obtain ⟨rfl, free⟩ := free
      obtain ⟨front, leads⟩ := leads_of_goal hg
      obtain ⟨e, reaches⟩ := goal_eq_ok leads hg
      injection e with hp hn
      cases hw
      rw [hp, hn] at free ⊢
      exact ⟨front, name.toList, reaches, free, rfl⟩

/-- A file that is written beside a path does not change where the path leads. -/
theorem Reaches.locate_put {other : String} {front : List (List Char)} {name sibling : List Char}
    (h : tree.Reaches other front sibling) (names : Path.Names path front name)
    (apart : sibling ≠ name) (free : tree.at? (tree.place front sibling) ≠ some .directory)
    (contents : ByteArray) :
    (tree.put (tree.place front sibling) (.file contents)).locate path = tree.locate path := by
  obtain ⟨there, directory⟩ := walk_dot.1 h.walks
  have own : tree.place front name ≠ tree.place front sibling :=
    fun e => apart (place_injective e).symm
  rw [FileTree.locate, FileTree.locate]
  show tree.route path >>= _ = _
  cases hr : tree.route path with
  | error fault => rfl
  | ok way =>
    obtain rfl := route_eq_ok hr
    refine walk_congr fun l hl => at?_put_of_ne ?_
    -- The way to the path passes directories, and then another name.
    rintro rfl
    rcases passes_of_names names hl with before | e
    · rw [origin_of_names names] at before
      exact free (directory_of_passes there directory before)
    · exact own e.symm

end FileTree

end GatewayDesk
