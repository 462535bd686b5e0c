import GatewayDesk.Proofs.Config.Failure
import GatewayDesk.Proofs.Files.Component

/-!
# The path that is written first

A save writes to the sibling of its path, which has another name in the same directory. So what is
written leaves alone what stands at the path, and the move that follows stays in one directory. A
path without a file name is its own sibling, and a save there fails.

* `write_sibling`, `rename_sibling`: what the two steps of a save change.
* `save_nameless`: a save whose sibling has no file name fails and changes no file.
* `StandsBeside`: what it is to be another name in the directory of a path.
* `sibling_beside`: where the sibling of a path stands.
-/

namespace GatewayDesk

namespace Config

open FileTree

variable {config : Config} {path : String} {tree : FileTree}

/-! ## The steps of a save -/

/-- What is written to the sibling of a path leaves what stands at the path. -/
theorem write_sibling {contents : ByteArray} {written : FileTree}
    (h : tree.write (sibling path) contents = .ok written) :
    written.at? (tree.spot path) = tree.at? (tree.spot path) ∧
      written.readBytes path = tree.readBytes path := by
  obtain ⟨front, name, other, beside, rfl⟩ := beside_of_write h
  have elsewhere : tree.spot path ≠ tree.place front other := beside.spot_sibling ▸ beside.spot_ne
  have entry : (tree.put (tree.place front other) (.file contents)).at? (tree.spot path) =
      tree.at? (tree.spot path) := at?_put_of_ne elsewhere
  exact ⟨entry, (load_congr entry (beside.locate_put contents)).1⟩

/-- The move from the sibling of a path takes a file from the one place to the other. -/
theorem rename_sibling {moved : FileTree} (h : tree.rename (sibling path) path = .ok moved) :
    ∃ contents, tree.at? (tree.spot (sibling path)) = some (.file contents) ∧
      moved = (tree.remove (tree.spot (sibling path))).put (tree.spot path) (.file contents) := by
  obtain ⟨front, name, other, target, source, apart⟩ := leads_sibling h
  obtain ⟨contents, entry, -, result, -, -⟩ := rename_eq_ok source target apart h
  rw [spot_of_names source.names, spot_of_names target.names]
  exact ⟨contents, entry, result⟩

/-! ## Without a file name -/

/-- A save whose sibling has no file name fails. All that it may leave behind is directories. -/
theorem save_nameless (h : Path.fileName? (sibling config.path) = none) (files : FileTree) :
    (∃ failure, (config.save files).result = .error failure) ∧
      ∀ l, Kept config.path files (config.save files).files l := by
  have named {front : List (List Char)} {name other : List Char} :
      ¬ Beside (makeHome files config.path).files config.path front name other := by
    intro beside
    cases beside.reaches.leads.fileName?.symm.trans h
  have saves := saves_save config files
  generalize config.save files = saved at saves ⊢
  cases saves with
  | unwritten failure =>
    exact ⟨⟨failure, rfl⟩, (grows_makeHome files config.path).entries⟩
  | unmoved beside => exact absurd beside named
  | moved beside => exact absurd beside named

/-- A file name with a dot alone before its suffix is no file name without the suffix. -/
example : Path.fileName? "plant.d/..toml" = some "..toml".toList ∧
    Path.fileName? (sibling "plant.d/..toml") = none := by decide +kernel

/-! ## With a file name -/

/-- Whether a path leads to another name in the directory of a second path, so that it can be
written, and moved over the second, without harm. -/
structure StandsBeside (source target : String) (other name : List Char) : Prop where
  /-- The directory above has the same path. -/
  parent : Path.parent? source = Path.parent? target
  fileName : Path.fileName? source = some other
  apart : other ≠ name
  /-- Wherever the paths are looked up, they lead into the same directory. -/
  directory : ∀ tree : FileTree, ∃ directory,
    tree.spot source = directory ++ [String.ofList other] ∧
      tree.spot target = directory ++ [String.ofList name]
  /-- What is written at the one leaves what stands at the other. -/
  write : ∀ (tree written : FileTree) (contents : ByteArray),
    tree.write source contents = .ok written →
      written.at? (tree.spot target) = tree.at? (tree.spot target) ∧
        written.readBytes target = tree.readBytes target
  /-- The move takes a file from the one place to the other, and changes nothing else. -/
  rename : ∀ tree moved : FileTree, tree.rename source target = .ok moved →
    ∃ contents, tree.at? (tree.spot source) = some (.file contents) ∧
      moved = (tree.remove (tree.spot source)).put (tree.spot target) (.file contents)

/-- The sibling of a path stands beside it, if the file name does not start with two dots. -/
theorem standsBeside_of_names {front : List (List Char)} {name : List Char}
    (h : Path.Names path front name) (plain : ¬ ['.', '.'] <+: name) :
    ∃ stem, stem ≠ [] ∧ StandsBeside (sibling path) path (stem ++ ".toml.save".toList) name := by
  rcases sibling_of_names h with ⟨stem, nonempty, leads, apart⟩ | ⟨dots, -⟩
  · refine ⟨stem, nonempty, ?_⟩
    exact
      { parent := leads.names.parent?_eq.trans h.parent?_eq.symm
        fileName := leads.fileName?
        apart := apart
        directory := fun tree =>
          ⟨tree.home front, spot_of_names leads.names tree, spot_of_names h tree⟩
        write := fun _ _ _ done => write_sibling done
        rename := fun _ _ done => rename_sibling done }
  · exact absurd dots plain

/-- If the last component of a path does not start with two dots, a save at the path writes to
another name in the same directory, one that ends in `.toml.save`: what is written never touches
the file at the path, and the move never leaves the directory. If a path has no file name, a save
there would write to the path itself; it fails, and all that is new afterwards is directories above
the path. -/
theorem sibling_beside (path : String) :
    (∀ name, (Path.components path).getLast? = some name → ¬ ['.', '.'] <+: name →
      ∃ stem, stem ≠ [] ∧
        StandsBeside (sibling path) path (stem ++ ".toml.save".toList) name) ∧
    (Path.fileName? path = none →
      sibling path = path ∧
        ∀ (config : Config) (files : FileTree), config.path = path →
          (∃ failure, (config.save files).result = .error failure) ∧
            ∀ l, Kept path files (config.save files).files l) := by
  constructor
  · intro name last plain
    have dots : name ≠ ['.', '.'] := fun e => plain (e ▸ List.prefix_rfl)
    have named : Path.fileName? path = some name := by
      rw [Path.fileName?_eq, last]
      simp [Option.filter, dots]
    obtain ⟨front, names⟩ := Path.Names.of_fileName? named
    exact standsBeside_of_names names plain
  · intro nameless
    have own := sibling_eq_self nameless
    refine ⟨own, fun config files here => ?_⟩
    subst here
    exact save_nameless (own.symm ▸ nameless) files

/-- A hidden file whose name ends as that of a sibling does has another sibling, and a save at the
directory above another one fails. -/
theorem sibling_beside_hidden :
    let path := "plant.d/.desk.toml.save/./"
    let name := ".desk.toml.save".toList
    (∃ stem, stem ≠ [] ∧ StandsBeside (sibling path) path (stem ++ ".toml.save".toList) name) ∧
      ∃ failure, ((initial "plant.d/..").save ⟨[], []⟩).result = .error failure := by
  intro path name
  have last : (Path.components path).getLast? = some name := by decide +kernel
  have nameless : Path.fileName? "plant.d/.." = none := by decide +kernel
  refine ⟨(sibling_beside path).1 name last (by decide +kernel), ?_⟩
  exact (((sibling_beside "plant.d/..").2 nameless).2 (initial "plant.d/..") ⟨[], []⟩ rfl).1

end Config

end GatewayDesk
