import GatewayDesk.Files.Tree
import GatewayDesk.Proofs.Except
import GatewayDesk.Proofs.Files.Path

/-!
# Files that are replaced

There are no links, so where a walk ends is a matter of its steps alone; the tree says only whether
it gets there. A walk through directories gets there in every tree that has these directories.

* `walk_eq_resolve`: where a walk ends.
* `walk_of_directories`: a walk through directories in another tree.
* `goal_eq_ok`: what a path to a name stands for.
* `readBytes_replace`: a file that is written beside another and moved over it.
-/

namespace GatewayDesk

namespace FileTree

variable {tree tree' : FileTree} {from_ here : Location} {steps : List String}

/-! ## Walks -/

/-- The location that steps lead to, whatever stands there. -/
def resolve (from_ : Location) : List String → Location
  | [] => from_
  | step :: rest =>
    if step == "." then resolve from_ rest
    else if step == ".." then resolve from_.dropLast rest
    else resolve (from_ ++ [step]) rest

/-- Where a walk ends is a matter of its steps. -/
theorem walk_eq_resolve (h : tree.walk from_ steps = .ok here) : here = resolve from_ steps := by
  induction steps generalizing from_ with
  | nil =>
    cases h
    rfl
  | cons step rest ih =>
    rw [walk] at h
    rw [resolve]
    split at h
    · cases h
    · split at h
      case isTrue hs =>
        rw [if_pos hs]
        exact ih h
      case isFalse hs =>
        rw [if_neg hs]
        split at h
        case isTrue hd =>
          rw [if_pos hd]
          exact ih h
        case isFalse hd =>
          rw [if_neg hd]
          split at h
          · cases h
          · dsimp only at h
            split at h
            · cases h
            · exact ih h

theorem walk_append (tree : FileTree) (from_ : Location) (front back : List String) :
    tree.walk from_ (front ++ back) =
      tree.walk from_ front >>= fun here => tree.walk here back := by
  induction front generalizing from_ with
  | nil => rfl
  | cons step rest ih =>
    rw [List.cons_append, walk, walk]
    dsimp only
    split
    · rfl
    · split
      · exact ih _
      · split
        · exact ih _
        · split
          · rfl
          · split
            · rfl
            · exact ih _

/-- A walk that ends in a directory. -/
theorem walk_dot : tree.walk from_ (steps ++ ["."]) = .ok here ↔
    tree.walk from_ steps = .ok here ∧ tree.at? here = some .directory := by
  rw [walk_append, Except.bind_eq_ok]
  constructor
  · rintro ⟨there, hw, hd⟩
    rw [walk] at hd
    split at hd
    case isTrue => cases hd
    case isFalse hn =>
      cases hd
      exact ⟨hw, by simpa using hn⟩
  · rintro ⟨hw, hd⟩
    refine ⟨here, hw, ?_⟩
    rw [walk, if_neg (by simp [hd]), if_pos (by rfl)]
    rfl

/-- A walk that takes a step starts in a directory. -/
theorem directory_of_walk {step : String} (h : tree.walk from_ (step :: steps) = .ok here) :
    tree.at? from_ = some .directory := by
  rw [walk] at h
  split at h
  case isTrue => cases h
  case isFalse hn => simpa using hn

/-- A walk through directories gets there in every tree that has these directories. -/
theorem walk_of_directories
    (kept : ∀ l, tree.at? l = some .directory → tree'.at? l = some .directory)
    (h : tree.walk from_ (steps ++ ["."]) = .ok here) :
    tree'.walk from_ (steps ++ ["."]) = .ok here := by
  -- The dot at the end makes a directory of the last location too, as every step does of its start.
  induction steps generalizing from_ with
  | nil =>
    obtain ⟨hw, hd⟩ := walk_dot.1 h
    cases hw
    exact walk_dot.2 ⟨rfl, kept _ hd⟩
  | cons step rest ih =>
    have start := kept _ (directory_of_walk h)
    rw [List.cons_append, walk] at h ⊢
    split at h
    · cases h
    · rw [if_neg (by simp [start])]
      split at h
      case isTrue hs =>
        rw [if_pos hs]
        exact ih h
      case isFalse hs =>
        rw [if_neg hs]
        split at h
        case isTrue hd =>
          rw [if_pos hd]
          exact ih h
        case isFalse hd =>
          rw [if_neg hd]
          split at h
          · cases h
          case isFalse hl =>
            rw [if_neg hl]
            dsimp only at h ⊢
            split at h
            · cases h
            · have next : tree.at? (from_ ++ [step]) = some .directory := by
                cases rest <;> exact directory_of_walk h
              rw [if_neg (by simp [kept _ next])]
              exact ih h

/-! ## Names -/

variable {path : String} {front : List (List Char)} {name : List Char}

/-- Where a path with some first pieces starts. -/
def start (tree : FileTree) (front : List (List Char)) : Location :=
  if front.head? == some [] then [] else tree.here

/-- The directory that a path to a name leads to, through some pieces. -/
def home (tree : FileTree) (front : List (List Char)) : Location :=
  resolve (tree.start front) (Path.turns front)

theorem route_eq_ok {way : Location × List String} (hr : tree.route path = .ok way) :
    way = (if Path.isAbsolute path then [] else tree.here, Path.steps path) := by
  unfold route at hr
  split at hr
  · cases hr
  · split at hr
    · cases hr
    · split at hr
      · cases hr
      · cases hr
        rfl

/-- Where a path to a name starts, and its steps. -/
theorem route_of_leads (h : Path.Leads path front name) {way : Location × List String}
    (hr : tree.route path = .ok way) :
    way = (tree.start front, Path.turns front ++ [String.ofList name]) := by
  rw [route_eq_ok hr, h.isAbsolute_eq, h.steps, start]

/-- The location of a name that a path leads to. -/
def place (tree : FileTree) (front : List (List Char)) (name : List Char) : Location :=
  tree.home front ++ [String.ofList name]

theorem place_ne_nil (tree : FileTree) (front : List (List Char)) (name : List Char) :
    tree.place front name ≠ [] := by
  rw [place]
  exact List.append_ne_nil_of_right_ne_nil _ (List.cons_ne_nil _ _)

theorem place_injective {other : List Char} (h : tree.place front name = tree.place front other) :
    name = other :=
  String.ofList_injective (List.singleton_inj.1 (List.append_cancel_left h))

/-- Whether a path leads to a name in a directory that is there, and nothing on the way is too
long. -/
structure Reaches (tree : FileTree) (path : String) (front : List (List Char))
    (name : List Char) : Prop where
  leads : Path.Leads path front name
  hasRoute : ∃ way, tree.route path = .ok way
  short : (String.ofList name).utf8ByteSize ≤ 255
  walks : tree.walk (tree.start front) (Path.turns front ++ ["."]) = .ok (tree.home front)

/-- What a path to a name stands for, if nothing on its way fails. -/
theorem goal_eq_ok (h : Path.Leads path front name) {goal : Goal}
    (hg : tree.goal path = .ok goal) :
    goal = .name (tree.home front) (String.ofList name) false ∧ tree.Reaches path front name := by
  obtain ⟨way, hr, hg⟩ := Except.bind_eq_ok.1 hg
  obtain rfl := route_of_leads h hr
  have plain : ((Path.pieces path).getLast? == some []) = false := by
    rw [h.pieces, List.getLast?_concat, beq_eq_false_iff_ne]
    rintro ⟨⟩
    exact h.nonempty rfl
  simp only [plain, Bool.and_false, Bool.false_eq_true, if_false, List.getLast?_concat,
    List.dropLast_concat, lt_self_iff_false, decide_false] at hg
  obtain ⟨parent, hw, hg⟩ := Except.bind_eq_ok.1 hg
  obtain rfl : parent = tree.home front := walk_eq_resolve (walk_dot.1 hw).1
  rw [if_neg (by simp [h.ofList_ne])] at hg
  split at hg
  · cases hg
  case isFalse hl =>
    cases hg
    exact ⟨rfl, h, ⟨_, hr⟩, by omega, hw⟩

/-- Only a path to a name stands for one, unless it asks for a directory. -/
theorem leads_of_goal {parent : Location} {last : String}
    (hg : tree.goal path = .ok (.name parent last false)) :
    ∃ front, Path.Leads path front last.toList := by
  obtain ⟨way, hr, hg⟩ := Except.bind_eq_ok.1 hg
  obtain rfl := route_eq_ok hr
  dsimp only at hg
  split at hg
  case h_1 => cases hg
  case h_2 step hs =>
    obtain ⟨parent', hw, hg⟩ := Except.bind_eq_ok.1 hg
    split at hg
    · cases hg
    case isFalse hd =>
      split at hg
      · cases hg
      · simp only [Bool.or_eq_true, beq_iff_eq, not_or] at hd
        simp only [pure, Except.pure, Except.ok.injEq, Goal.name.injEq, decide_eq_false_iff_not,
          not_lt] at hg
        obtain ⟨-, rfl, whole⟩ := hg
        split at whole
        case isTrue asks =>
          -- The dot that asks for a directory is one step more than the names are.
          have some_ : Path.steps path ≠ [] := by
            intro hn
            simp [hn] at asks
          have := List.length_pos_iff.2 some_
          rw [List.length_dropLast] at whole
          omega
        case isFalse asks =>
          rw [if_neg asks] at hs
          exact Path.Leads.of_steps hs hd.1 hd.2

namespace Reaches

/-- What a path stands for whose directory is there. -/
theorem locate (h : tree.Reaches path front name) :
    tree.locate path =
      if (tree.at? (tree.place front name)).isNone then .error .notFound
      else .ok (tree.place front name) := by
  obtain ⟨way, hr⟩ := h.hasRoute
  obtain ⟨there, hd⟩ := walk_dot.1 h.walks
  have names := h.leads.ofList_ne
  have short := h.short
  rw [FileTree.locate, hr, route_of_leads h.leads hr]
  show tree.walk _ _ = _
  rw [walk_append, there]
  show tree.walk _ [_] = _
  rw [walk, if_neg (by simp [hd]), if_neg (by simp [names]), if_neg (by simp [names]),
    if_neg (by omega)]
  rfl

/-- A path gets there in every tree that has the same directories. -/
theorem kept (h : tree.Reaches path front name) (here : tree'.here = tree.here)
    (directories : ∀ l, tree.at? l = some .directory → tree'.at? l = some .directory) :
    tree'.Reaches path front name ∧ tree'.place front name = tree.place front name := by
  have start : tree'.start front = tree.start front := by rw [FileTree.start, here, FileTree.start]
  have home : tree'.home front = tree.home front := by rw [FileTree.home, start, FileTree.home]
  refine ⟨⟨h.leads, ?_, h.short, ?_⟩, by rw [place, home, place]⟩
  · obtain ⟨way, hr⟩ := h.hasRoute
    refine ⟨way, ?_⟩
    rw [route] at hr ⊢
    rw [here]
    exact hr
  · rw [start, home]
    exact walk_of_directories directories h.walks

end Reaches

/-! ## Replacement -/

/-- What a write leaves. -/
theorem write_eq_ok (h : Path.Leads path front name) {contents : ByteArray}
    (hw : tree.write path contents = .ok tree') :
    tree' = tree.put (tree.place front name) (.file contents) := by
  obtain ⟨goal, hg, hw⟩ := Except.bind_eq_ok.1 hw
  obtain ⟨rfl, -⟩ := goal_eq_ok h hg
  dsimp only at hw
  split at hw
  · cases hw
  · cases hw
    rfl

/-- A file that is moved is in its new place only, and no directory is lost. -/
theorem at?_moved {old new : Location} {contents : ByteArray} (hn : new ≠ [])
    (entry : tree.at? old = some (.file contents)) (free : tree.at? new ≠ some .directory) :
    ((tree.remove old).put new (.file contents)).at? new = some (.file contents) ∧
      (old ≠ new → ((tree.remove old).put new (.file contents)).at? old = none) ∧
      ∀ l, tree.at? l = some .directory →
        ((tree.remove old).put new (.file contents)).at? l = some .directory := by
  have ho : old ≠ [] := by
    rintro rfl
    rw [at?, if_pos rfl] at entry
    cases entry
  refine ⟨by rw [at?_put, if_neg hn, if_pos rfl], fun apart => ?_, fun l hl => ?_⟩
  · rw [at?_put, if_neg ho, if_neg apart, at?_remove, if_neg ho, if_pos rfl]
  · rw [at?_put, at?_remove]
    by_cases root : l = []
    · rw [if_pos root]
    · have fresh : l ≠ new := by
        rintro rfl
        exact free hl
      have stays : l ≠ old := by
        rintro rfl
        rw [entry] at hl
        cases hl
      rw [if_neg root, if_neg fresh, if_neg root, if_neg stays]
      exact hl

/-- What moves a file to another name in its directory. -/
theorem rename_eq_ok {source target : String} {first second : List Char}
    (hs : Path.Leads source front first) (ht : Path.Leads target front second)
    (hne : first ≠ second) (hr : tree.rename source target = .ok tree') :
    ∃ contents, tree.at? (tree.place front first) = some (.file contents) ∧
      tree.at? (tree.place front second) ≠ some .directory ∧
      tree' = (tree.remove (tree.place front first)).put (tree.place front second)
        (.file contents) ∧
      tree.Reaches source front first ∧ tree.Reaches target front second := by
  obtain ⟨goal, hg, hr⟩ := Except.bind_eq_ok.1 hr
  obtain ⟨rfl, atSource⟩ := goal_eq_ok hs hg
  obtain ⟨goal, hg, hr⟩ := Except.bind_eq_ok.1 hr
  obtain ⟨rfl, atTarget⟩ := goal_eq_ok ht hg
  dsimp only at hr
  split at hr
  case h_1 => cases hr
  case h_2 => cases hr
  case h_3 contents entry =>
    rw [if_neg (by simp)] at hr
    split at hr
    case isTrue => cases hr
    case isFalse free =>
      split at hr
      case isTrue same => exact absurd (place_injective same) hne
      case isFalse =>
        cases hr
        refine ⟨contents, entry, ?_, rfl, atSource, atTarget⟩
        intro directory
        exact free (beq_iff_eq.2 directory)

/-- A file is moved from a name to a name only. -/
theorem leads_of_rename {source target : String} (hr : tree.rename source target = .ok tree') :
    (∃ front name, Path.Leads source front name) ∧ ∃ front name, Path.Leads target front name := by
  obtain ⟨goal, hs, hr⟩ := Except.bind_eq_ok.1 hr
  obtain ⟨goal', ht, hr⟩ := Except.bind_eq_ok.1 hr
  cases goal with
  | dots => cases hr
  | name parent name slash =>
    cases goal' with
    | dots => cases hr
    | name parent' name' slash' =>
      dsimp only at hr
      split at hr
      case h_1 => cases hr
      case h_2 => cases hr
      case h_3 =>
        split at hr
        case isTrue => cases hr
        case isFalse plain =>
          simp only [Bool.or_eq_true, not_or, Bool.not_eq_true] at plain
          obtain ⟨rfl, rfl⟩ := plain
          obtain ⟨front, leads⟩ := leads_of_goal hs
          obtain ⟨front', leads'⟩ := leads_of_goal ht
          exact ⟨⟨front, _, leads⟩, front', _, leads'⟩

/-- A file that is moved to another name in its directory has its bytes there, and is gone from
where it was. -/
theorem readBytes_rename {source target : String} {first second : List Char}
    (hs : Path.Leads source front first) (ht : Path.Leads target front second)
    (hne : first ≠ second) (hr : tree.rename source target = .ok tree') :
    ∃ contents, tree.at? (tree.place front first) = some (.file contents) ∧
      tree'.readBytes target = .ok contents ∧ tree'.locate source = .error .notFound := by
  obtain ⟨contents, entry, free, moved, atSource, atTarget⟩ := rename_eq_ok hs ht hne hr
  obtain ⟨filled, emptied, directories⟩ := at?_moved (place_ne_nil _ _ _) entry free
  rw [← moved] at filled emptied directories
  have here : tree'.here = tree.here := by
    rw [moved]
    rfl
  obtain ⟨reached, place⟩ := atTarget.kept here directories
  obtain ⟨left, place'⟩ := atSource.kept here directories
  refine ⟨contents, entry, ?_, ?_⟩
  · refine Except.bind_eq_ok.2 ⟨tree.place front second, ?_, ?_⟩
    · rw [reached.locate, place, filled]
      rfl
    · rw [filled]
      rfl
  · rw [left.locate, place', emptied fun e => hne (place_injective e)]
    rfl

/-- A file that is written beside another and then moved over it has its bytes there. -/
theorem readBytes_replace {source target : String} {first second : List Char}
    {contents : ByteArray} {after : FileTree} (hs : Path.Leads source front first)
    (ht : Path.Leads target front second) (hne : first ≠ second)
    (hw : tree.write source contents = .ok tree') (hr : tree'.rename source target = .ok after) :
    after.readBytes target = .ok contents ∧ after.locate source = .error .notFound := by
  obtain ⟨moved, entry, read, gone⟩ := readBytes_rename hs ht hne hr
  have place : tree'.place front first = tree.place front first := by
    rw [write_eq_ok hs hw]
    rfl
  rw [place, write_eq_ok hs hw, at?_put, if_neg (place_ne_nil _ _ _), if_pos rfl] at entry
  cases entry
  exact ⟨read, gone⟩

end FileTree

end GatewayDesk
