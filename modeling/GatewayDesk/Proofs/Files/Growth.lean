import GatewayDesk.Proofs.Files.Walk

/-!
# Directories that are made

To make the directories of a path adds directories to a tree and changes nothing that is there. They
stand on the way of the path. So a path from which nothing is missing but names, one in the other,
stands for the same afterwards, which is nothing if it was nothing.

* `Grows`: what it is to add directories at some locations.
* `grows_makeDirectories`: the directories of a path stand on its way.
* `Settled`: paths from which names only are missing.
* `Grows.locate_eq`: what a path stands for after directories have been added.
-/

namespace GatewayDesk

namespace FileTree

variable {tree tree' before after : FileTree} {from_ l : Location} {steps : List String}
  {path : String}

/-! ## Growth -/

/-- Whether a tree has come from another by adding directories at some locations. -/
structure Grows (before after : FileTree) (made : Location → Prop) : Prop where
  here : after.here = before.here
  entries : ∀ l, after.at? l = before.at? l ∨
    made l ∧ before.at? l = none ∧ after.at? l = some .directory

namespace Grows

variable {made made' : Location → Prop}

theorem refl (tree : FileTree) (made : Location → Prop) : Grows tree tree made :=
  ⟨rfl, fun _ => .inl rfl⟩

theorem mono (h : Grows before after made) (le : ∀ l, made l → made' l) :
    Grows before after made' :=
  ⟨h.here, fun l => (h.entries l).imp_right fun ⟨m, rest⟩ => ⟨le l m, rest⟩⟩

theorem trans {between : FileTree} (first : Grows before between made)
    (second : Grows between after made) : Grows before after made := by
  refine ⟨second.here.trans first.here, fun l => ?_⟩
  rcases second.entries l with same | ⟨m, none, directory⟩
  · rw [same]
    exact first.entries l
  · rcases first.entries l with same | ⟨-, -, directory'⟩
    · exact .inr ⟨m, same ▸ none, directory⟩
    · cases none.symm.trans directory'

theorem origin_eq (h : Grows before after made) (path : String) :
    after.origin path = before.origin path := by
  rw [origin, h.here, origin]

theorem spot_eq (h : Grows before after made) (path : String) :
    after.spot path = before.spot path := by
  rw [spot, h.origin_eq, spot]

/-- What is there stays. -/
theorem at?_of_some (h : Grows before after made) {entry : Entry}
    (he : before.at? l = some entry) : after.at? l = some entry := by
  rcases h.entries l with same | ⟨-, none, -⟩
  · rw [same, he]
  · cases none.symm.trans he

end Grows

/-! ## Directories of a path -/

/-- A directory is made where nothing is, on the way of its path. -/
theorem grows_makeDirectory (h : tree.makeDirectory path = .ok tree') :
    Grows tree tree' (Passes (tree.origin path) (Path.steps path)) := by
  obtain ⟨goal, hg, h⟩ := Except.bind_eq_ok.1 h
  cases goal with
  | dots => cases h
  | name parent name slash =>
    dsimp only at h
    split at h
    · cases h
    case isFalse free =>
      cases h
      refine ⟨rfl, fun l => ?_⟩
      rw [at?_put]
      by_cases root : l = []
      · exact .inl (by simp [root, at?])
      · by_cases own : l = parent ++ [name]
        · subst own
          exact .inr ⟨passes_of_goal hg, by simpa using free, by simp⟩
        · exact .inl (by simp [root, own])

theorem grows_ensureDirectory (tree : FileTree) (path : String) :
    Grows tree (tree.ensureDirectory path).files (Passes (tree.origin path) (Path.steps path)) := by
  rw [ensureDirectory]
  cases hm : tree.makeDirectory path with
  | ok made => exact grows_makeDirectory hm
  | error fault => exact .refl tree _

/-- What is on the way of the directory above a path is on the way of the path. -/
theorem passes_of_parent? {directory : String} (h : Path.parent? path = some directory)
    (hne : directory ≠ "") (hl : Passes (tree.origin directory) (Path.steps directory) l) :
    ∃ above, above <+: (Path.trimmed (Path.pieces path)).dropLast ∧
      Passes (tree.origin path) (Path.turns above) l := by
  obtain ⟨absolute, above, part, own⟩ := Path.steps_of_parent? h hne
  have start : tree.origin directory = tree.origin path := by rw [origin, absolute, origin]
  refine ⟨above, part, ?_⟩
  obtain ⟨first, hf, rfl⟩ := hl
  rw [start]
  rcases own with own | own
  · exact ⟨first, own ▸ hf, rfl⟩
  · rw [own] at hf
    refine ⟨[], List.nil_prefix, ?_⟩
    rcases List.prefix_cons_iff.1 hf with rfl | ⟨none, rfl, hn⟩
    · rfl
    · rw [List.prefix_nil.1 hn]
      rfl

theorem makeDirectoriesUpTo_empty (tree : FileTree) (fuel : Nat) :
    tree.makeDirectoriesUpTo "" fuel = ⟨tree, .ok ()⟩ := by
  unfold makeDirectoriesUpTo
  rfl

/-- The directories of a path stand on its way, however many have to be made. -/
theorem grows_makeDirectoriesUpTo (tree : FileTree) (path : String) (fuel : Nat) :
    Grows tree (tree.makeDirectoriesUpTo path fuel).files
      (Passes (tree.origin path) (Path.steps path)) := by
  induction fuel generalizing path with
  | zero =>
    unfold makeDirectoriesUpTo
    split
    · exact .refl tree _
    · split
      case h_1 none => cases none
      case h_2 => exact grows_ensureDirectory tree path
  | succ fuel ih =>
    unfold makeDirectoriesUpTo
    split
    · exact .refl tree _
    · split
      case h_1 above _ _ hp hf =>
        obtain rfl := Nat.succ.inj hf
        have up : Grows tree (tree.makeDirectoriesUpTo above fuel).files
            (Passes (tree.origin path) (Path.steps path)) := by
          by_cases none : above = ""
          · subst none
            rw [makeDirectoriesUpTo_empty]
            exact .refl tree _
          · refine (ih above).mono fun l hl => ?_
            obtain ⟨pieces, part, passes⟩ := passes_of_parent? hp none hl
            exact passes_mono (Path.turns_prefix part) passes
        rcases hm : tree.makeDirectoriesUpTo above fuel with ⟨made, failure | ⟨⟨⟩⟩⟩ <;>
          rw [hm] at up
        · exact up
        · have own := grows_ensureDirectory made path
          rw [up.origin_eq] at own
          exact up.trans own
      case h_2 => exact grows_ensureDirectory tree path

/-- The directories of a path stand on its way. -/
theorem grows_makeDirectories (tree : FileTree) (path : String) :
    Grows tree (tree.makeDirectories path).files (Passes (tree.origin path) (Path.steps path)) :=
  grows_makeDirectoriesUpTo tree path _

/-! ## Settled paths -/

/-- Whether every entry stands in a directory. -/
def Sound (tree : FileTree) : Prop :=
  ∀ l entry, tree.at? l = some entry → tree.at? l.dropLast = some .directory

/-- Whether a step goes down to a name that is not too long, or nowhere. -/
def IsDown (step : String) : Prop := step ≠ ".." ∧ step.utf8ByteSize ≤ 255

/-- Whether a path leads through directories that are there, and from there on down only: what is
missing of it is names, one in the other. -/
def Settled (tree : FileTree) (path : String) : Prop :=
  ∃ there names l, Path.steps path = there ++ names ∧ tree.walk (tree.origin path) there = .ok l ∧
    tree.at? l = some .directory ∧ ∀ name ∈ names, IsDown name

/-- Where nothing is, nothing is below. -/
theorem Sound.at?_append (h : tree.Sound) (more : Location) (missing : tree.at? l = none) :
    tree.at? (l ++ more) = none := by
  induction more generalizing l with
  | nil => rwa [List.append_nil]
  | cons name more ih =>
    rw [← List.singleton_append, ← List.append_assoc]
    refine ih ?_
    cases he : tree.at? (l ++ [name]) with
    | none => rfl
    | some entry =>
      have := h _ _ he
      rw [List.dropLast_concat, missing] at this
      cases this

theorem resolve_of_down (h : ∀ step ∈ steps, IsDown step) (from_ : Location) :
    ∃ more, resolve from_ steps = from_ ++ more := by
  induction steps generalizing from_ with
  | nil => exact ⟨[], (List.append_nil _).symm⟩
  | cons step rest ih =>
    obtain ⟨more, hm⟩ := ih (fun s hs => h s (List.mem_cons_of_mem _ hs)) (turn from_ step)
    rw [resolve_cons, hm, turn, if_neg (h step List.mem_cons_self).1]
    split
    · exact ⟨more, rfl⟩
    · exact ⟨step :: more, by simp⟩

theorem walk_dot_cons (h : tree.at? from_ = some .directory) (rest : List String) :
    tree.walk from_ ("." :: rest) = tree.walk from_ rest := by
  rw [walk_cons, obstacle?, if_neg (by simp [h]), if_pos (.inl rfl)]
  rfl

theorem walk_name_cons {step : String} (h : tree.at? from_ = some .directory)
    (down : IsDown step) (name : step ≠ ".") (rest : List String) :
    tree.walk from_ (step :: rest) =
      match tree.at? (from_ ++ [step]) with
      | none => .error .notFound
      | some _ => tree.walk (from_ ++ [step]) rest := by
  have next : turn from_ step = from_ ++ [step] := by rw [turn, if_neg name, if_neg down.1]
  have short := down.2
  rw [walk_cons, obstacle?, if_neg (by simp [h]), if_neg (by simp [name, down.1]),
    if_neg (by omega), next]
  cases tree.at? (from_ ++ [step]) <;> rfl

/-- A walk down through directories to nothing does not get there. -/
theorem walk_of_none (h : ∀ step ∈ steps, IsDown step)
    (directories : ∀ l, Passes from_ steps l → tree.at? l = none ∨ tree.at? l = some .directory)
    (start : tree.at? from_ = some .directory) (missing : tree.at? (resolve from_ steps) = none) :
    tree.walk from_ steps = .error .notFound := by
  induction steps generalizing from_ with
  | nil => cases start.symm.trans missing
  | cons step rest ih =>
    have later := fun s hs => h s (List.mem_cons_of_mem step hs)
    have own := h step List.mem_cons_self
    rw [resolve_cons] at missing
    have further : tree.at? (turn from_ step) = some .directory →
        tree.at? (resolve (turn from_ step) rest) = none →
        tree.walk (turn from_ step) rest = .error .notFound :=
      ih later fun l hl => directories l (passes_cons hl)
    by_cases dot : step = "."
    · subst dot
      rw [walk_dot_cons start]
      exact further start missing
    · have next : turn from_ step = from_ ++ [step] := by rw [turn, if_neg dot, if_neg own.1]
      rw [walk_name_cons start own dot]
      rw [next] at further missing
      rcases directories _ (passes_cons (passes_start (turn from_ step) rest)) with hn | hd
      · rw [next] at hn
        rw [hn]
      · rw [next] at hd
        rw [hd]
        exact further hd missing

namespace Grows

variable {made : Location → Prop}

/-- Where nothing was, there are new directories only, so a walk further down does not get to what
is as before. -/
theorem walk_of_missing {step : String} {rest : List String} (h : Grows before after made)
    (sound : before.Sound) (down : ∀ s ∈ step :: rest, IsDown s)
    (start : after.at? from_ = some .directory) (missing : before.at? (turn from_ step) = none)
    (same : after.at? (resolve from_ (step :: rest)) = before.at? (resolve from_ (step :: rest))) :
    after.walk from_ (step :: rest) = .error .notFound := by
  have below : ∀ l, Passes (turn from_ step) rest l → before.at? l = none := by
    rintro l ⟨first, part, rfl⟩
    obtain ⟨more, hm⟩ := resolve_of_down
      (fun s hs => down s (List.mem_cons_of_mem step (part.mem hs))) (turn from_ step)
    rw [hm]
    exact sound.at?_append more missing
  refine walk_of_none down ?_ start ?_
  · rintro l ⟨first, part, rfl⟩
    rcases List.prefix_cons_iff.1 part with rfl | ⟨more, rfl, hm⟩
    · exact .inr start
    · have none := below _ ⟨more, hm, rfl⟩
      rw [resolve_cons]
      rcases h.entries (resolve (turn from_ step) more) with e | ⟨-, -, e⟩
      · exact .inl (e.trans none)
      · exact .inr e
  · rw [same, resolve_cons]
    exact below _ ⟨rest, List.prefix_rfl, rfl⟩

/-- A walk down ends as before where what it leads to is as before. -/
theorem walk_eq (h : Grows before after made) (sound : before.Sound)
    (down : ∀ step ∈ steps, IsDown step) (start : before.at? from_ = some .directory)
    (same : after.at? (resolve from_ steps) = before.at? (resolve from_ steps)) :
    after.walk from_ steps = before.walk from_ steps := by
  induction steps generalizing from_ with
  | nil => rfl
  | cons step rest ih =>
    have later := fun s hs => down s (List.mem_cons_of_mem step hs)
    have own := down step List.mem_cons_self
    have start' := h.at?_of_some start
    by_cases dot : step = "."
    · subst dot
      rw [walk_dot_cons start, walk_dot_cons start']
      exact ih later start (by rwa [resolve_cons] at same)
    · have next : turn from_ step = from_ ++ [step] := by rw [turn, if_neg dot, if_neg own.1]
      cases hb : before.at? (from_ ++ [step]) with
      | none =>
        rw [h.walk_of_missing sound down start' (next ▸ hb) same, walk_name_cons start own dot, hb]
      | some entry =>
        have ha := h.at?_of_some hb
        rw [walk_name_cons start own dot, walk_name_cons start' own dot, hb, ha]
        cases entry with
        | directory =>
          rw [resolve_cons, next] at same
          exact ih later hb same
        | file contents =>
          -- Below a file there is no way.
          cases rest with
          | nil => rfl
          | cons second rest =>
            rw [walk_cons, walk_cons, obstacle?, obstacle?, hb, ha]
            rfl

/-- A settled path stands for the same after directories have been added, unless one was added
where it leads to. -/
theorem locate_eq (h : Grows before after made) (sound : before.Sound)
    (settled : before.Settled path)
    (same : after.at? (before.spot path) = before.at? (before.spot path)) :
    after.locate path = before.locate path := by
  obtain ⟨there, names, l, split, walks, directory, down⟩ := settled
  have first : after.walk (before.origin path) there = .ok l := by
    rw [← walks]
    refine walk_congr fun m hm => ?_
    have := directory_of_passes walks directory hm
    rw [this, h.at?_of_some this]
  have route : after.route path = before.route path := by
    rw [FileTree.route, h.here, FileTree.route]
  rw [locate, locate, route]
  cases hr : before.route path with
  | error fault => rfl
  | ok way =>
    obtain rfl := route_eq_ok hr
    show after.walk (before.origin path) _ = before.walk (before.origin path) _
    rw [spot, split, resolve_append, ← walk_eq_resolve walks] at same
    rw [split, walk_append, walk_append, first, walks]
    exact h.walk_eq sound down directory same

end Grows

/-- From where something is missing, a settled path leads down only. -/
theorem Settled.isDown (h : tree.Settled path) {first rest : List String}
    (split : Path.steps path = first ++ rest)
    (missing : tree.at? (resolve (tree.origin path) first) = none) :
    ∀ step ∈ rest, IsDown step := by
  obtain ⟨there, names, l, known, walks, directory, down⟩ := h
  -- The directories that are there have been passed.
  have further : ¬first <+: there := fun inside =>
    nomatch missing.symm.trans (directory_of_passes walks directory ⟨first, inside, rfl⟩)
  have ahead : first <+: there ++ names := ⟨rest, by rw [← known, split]⟩
  obtain ⟨more, rfl⟩ :=
    (List.prefix_or_prefix_of_prefix ahead ⟨names, rfl⟩).resolve_left further
  rw [known, List.append_assoc] at split
  obtain rfl := List.append_cancel_left split
  exact fun step hs => down step (List.mem_append_right _ hs)

/-- What is missing above a settled path is not where the path leads to. -/
theorem Settled.spot_ne (h : tree.Settled path) (missing : tree.at? l = none)
    {above : List (List Char)} (part : above <+: (Path.trimmed (Path.pieces path)).dropLast)
    (hl : Passes (tree.origin path) (Path.turns above) l) : l ≠ tree.spot path := by
  obtain ⟨first, hf, rfl⟩ := hl
  obtain ⟨tail, ht⟩ : Path.turns (Path.trimmed (Path.pieces path)).dropLast <+: Path.steps path :=
    Path.turns_prefix List.prefix_rfl
  obtain ⟨rest, hr⟩ : first <+: Path.turns (Path.trimmed (Path.pieces path)).dropLast :=
    hf.trans ((part.filter _).map _)
  have down := h.isDown (by rw [← ht, ← hr, List.append_assoc]) missing
  cases hn : Path.fileName? path with
  | some name =>
    obtain ⟨front, names⟩ := Path.Names.of_fileName? hn
    obtain ⟨gone, hg⟩ := resolve_of_down (fun s hs => down s (List.mem_append_left _ hs))
      (resolve (tree.origin path) first)
    rw [names.trimmed, List.dropLast_concat] at hr
    have longer : tree.spot path =
        resolve (tree.origin path) first ++ (gone ++ [String.ofList name]) := by
      rw [spot_of_names names, place, home, ← origin_of_names names, ← hr, resolve_append, hg,
        List.append_assoc]
    rw [longer]
    intro e
    have := congrArg List.length e
    simp at this
  | none =>
    rcases Path.dots_of_fileName? hn with none | ⟨dots, hd⟩
    · -- Nothing but the start of the path is above it, where a directory is.
      obtain ⟨there, -, l, -, walks, directory, -⟩ := h
      rw [none] at hr
      rw [(List.append_eq_nil_iff.1 hr).1] at missing
      cases missing.symm.trans (directory_of_passes walks directory (passes_start _ _))
    · rw [← ht] at hd
      have back : ".." ∈ tail := by
        rw [List.append_cancel_left hd]
        exact List.mem_cons_self
      exact absurd rfl (down ".." (List.mem_append_right _ back)).1

end FileTree

end GatewayDesk
