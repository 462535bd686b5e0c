import GatewayDesk.Files.Error
import GatewayDesk.Files.Path

/-!
# Files and directories

A file tree says what stands at each location, and where relative paths start. The operations are
those of a file system without links: they fail for the same reasons, and a failed one changes
nothing.

* `at?_put`: what an entry is after another has been put.
* `at?_remove`: what an entry is after another has been removed.
-/

namespace GatewayDesk

/-- What stands at a location. -/
inductive Entry where
  | file (contents : ByteArray)
  | directory

instance : DecidableEq Entry
  | .file a, .file b =>
    if h : a.data = b.data then isTrue (congrArg Entry.file (ByteArray.ext h))
    else isFalse fun hab => h (by cases hab; rfl)
  | .directory, .directory => isTrue rfl
  | .file _, .directory => isFalse fun h => by cases h
  | .directory, .file _ => isFalse fun h => by cases h

/-- The names that lead from the root to an entry. -/
abbrev Location := List String

/-- Files and directories. -/
structure FileTree where
  entries : List (Location × Entry)
  /-- The directory where relative paths start. -/
  here : Location

namespace FileTree

/-- What stands at a location; the root is a directory. -/
def at? (tree : FileTree) (location : Location) : Option Entry :=
  if location = [] then some .directory else tree.entries.lookup location

/-- The tree without what stands at a location. -/
def remove (tree : FileTree) (location : Location) : FileTree :=
  { tree with entries := tree.entries.filter fun e => e.1 != location }

/-- The tree with an entry at a location. -/
def put (tree : FileTree) (location : Location) (entry : Entry) : FileTree :=
  { tree with entries := (location, entry) :: (tree.remove location).entries }

private theorem lookup_filter_ne (entries : List (Location × Entry)) (location l : Location) :
    (entries.filter fun e => e.1 != location).lookup l =
      if l = location then none else entries.lookup l := by
  induction entries with
  | nil => simp
  | cons e rest ih =>
    obtain ⟨k, entry⟩ := e
    by_cases hk : k = location
    · subst hk
      have drop : ((k, entry) :: rest).filter (fun e => e.1 != k) =
          rest.filter fun e => e.1 != k := by simp
      rw [drop, ih]
      by_cases hl : l = k
      · simp [hl]
      · have hne : (l == k) = false := by simpa using hl
        simp [hl, hne, List.lookup_cons]
    · have keep : ((k, entry) :: rest).filter (fun e => e.1 != location) =
          (k, entry) :: rest.filter fun e => e.1 != location := by simp [hk]
      rw [keep, List.lookup_cons, List.lookup_cons, ih]
      by_cases hl : l = location
      · have hne : (l == k) = false := by simpa [hl] using Ne.symm hk
        simp [hl, hl ▸ hne]
      · simp [hl]

theorem at?_remove (tree : FileTree) (location l : Location) :
    (tree.remove location).at? l =
      if l = [] then some .directory else if l = location then none else tree.at? l := by
  unfold at? remove
  by_cases h : l = []
  · simp [h]
  · simp only [h, if_false, lookup_filter_ne]

theorem at?_put (tree : FileTree) (location l : Location) (entry : Entry) :
    (tree.put location entry).at? l =
      if l = [] then some .directory else if l = location then some entry else tree.at? l := by
  unfold at? put remove
  by_cases h : l = []
  · simp [h]
  · by_cases hl : l = location
    · simp [hl]
    · have hne : (l == location) = false := by simpa using hl
      simp [h, hl, hne, List.lookup_cons, lookup_filter_ne]

/-! ## Walks -/

/-- The location that steps lead to; every step but the last leads to a directory. -/
def walk (tree : FileTree) (from_ : Location) : List String → Except FileError Location
  | [] => .ok from_
  | step :: rest =>
    if tree.at? from_ != some .directory then .error .notDirectory
    else if step == "." then tree.walk from_ rest
    else if step == ".." then tree.walk from_.dropLast rest
    else if 255 < step.utf8ByteSize then .error .nameTooLong
    else
      let next := from_ ++ [step]
      if (tree.at? next).isNone then .error .notFound else tree.walk next rest

/-- The steps of a path and where they start, unless no path has this text. -/
def route (tree : FileTree) (path : String) : Except FileError (Location × List String) :=
  if path.toList.contains '\x00' then .error .nulInPath
  else if path.isEmpty then .error .notFound
  else if 4096 ≤ path.utf8ByteSize then .error .nameTooLong
  else .ok (if Path.isAbsolute path then [] else tree.here, Path.steps path)

/-- The location of an existing entry. -/
def locate (tree : FileTree) (path : String) : Except FileError Location := do
  let (start, steps) ← tree.route path
  tree.walk start steps

/-- The locations that steps lead through, whatever stands there. -/
def waypoints (from_ : Location) : List String → List Location
  | [] => []
  | step :: rest =>
    let next :=
      if step == "." then from_
      else if step == ".." then from_.dropLast
      else from_ ++ [step]
    next :: waypoints next rest

/-- The last step of a path. -/
inductive Goal where
  /-- A name in a directory; `directory` says that the path asks for a directory. -/
  | name (parent : Location) (name : String) (directory : Bool)
  /-- A directory that is there: the root, or one that dots stand for. -/
  | dots

/-- The location of an entry that may not exist: its directory must. -/
def goal (tree : FileTree) (path : String) : Except FileError Goal := do
  let (start, steps) ← tree.route path
  let named := if steps.getLast? == some "." && (Path.pieces path).getLast? == some [] then
    steps.dropLast else steps
  match named.getLast? with
  | none => return .dots
  | some last =>
    let parent ← tree.walk start (named.dropLast ++ ["."])
    if last == "." || last == ".." then return .dots
    else if 255 < last.utf8ByteSize then throw .nameTooLong
    else return .name parent last (named.length < steps.length)

/-! ## Operations -/

/-- The bytes of a file. -/
def readBytes (tree : FileTree) (path : String) : Except FileError ByteArray := do
  let location ← tree.locate path
  match tree.at? location with
  | some (.file contents) => return contents
  | some .directory => throw .isDirectory
  | none => throw .notFound

/-- The text of a file. -/
def readText (tree : FileTree) (path : String) : Except FileError String := do
  let bytes ← tree.readBytes path
  match Utf8.decode bytes with
  | .ok text => return text
  | .error _ => throw .notText

/-- Whether a directory is at a path. -/
def isDirectory (tree : FileTree) (path : String) : Bool :=
  match tree.locate path with
  | .ok location => tree.at? location == some .directory
  | .error _ => false

/-- The tree with other contents of a file, which may be new. -/
def write (tree : FileTree) (path : String) (contents : ByteArray) :
    Except FileError FileTree := do
  match ← tree.goal path with
  | .dots => throw .isDirectory
  | .name parent name directory =>
    let location := parent ++ [name]
    if directory || tree.at? location == some .directory then throw .isDirectory
    else return tree.put location (.file contents)

/-- The tree with a new directory. -/
def makeDirectory (tree : FileTree) (path : String) : Except FileError FileTree := do
  match ← tree.goal path with
  | .dots => throw .exists
  | .name parent name _ =>
    let location := parent ++ [name]
    if (tree.at? location).isSome then throw .exists
    else return tree.put location .directory

/-- What is left of several changes, of which one may have failed. -/
structure Outcome (ε : Type) where
  files : FileTree
  result : Except ε Unit

/-- Makes a directory, unless one is there. -/
def ensureDirectory (tree : FileTree) (path : String) : Outcome FileError :=
  match tree.makeDirectory path with
  | .ok tree => ⟨tree, .ok ()⟩
  | .error fault => ⟨tree, if tree.isDirectory path then .ok () else .error fault⟩

/-- Makes a directory and those above it, where they are not there yet; `fuel` bounds how many are
above it. -/
def makeDirectoriesUpTo (tree : FileTree) (path : String) (fuel : Nat) : Outcome FileError :=
  if path.isEmpty then ⟨tree, .ok ()⟩
  else
    match tree.makeDirectory path, Path.parent? path, fuel with
    | .error .notFound, some parent, fuel + 1 =>
      match tree.makeDirectoriesUpTo parent fuel with
      | ⟨tree, .ok ()⟩ => tree.ensureDirectory path
      | failed => failed
    | _, _, _ => tree.ensureDirectory path

/-- Makes a directory and those above it, where they are not there yet. -/
def makeDirectories (tree : FileTree) (path : String) : Outcome FileError :=
  tree.makeDirectoriesUpTo path (Path.pieces path).length

/-- The tree with a file moved to another path, over a file that is there. -/
def rename (tree : FileTree) (source target : String) : Except FileError FileTree := do
  match ← tree.goal source, ← tree.goal target with
  | .name sourceParent sourceName sourceSlash, .name targetParent targetName targetSlash =>
    let old := sourceParent ++ [sourceName]
    let new := targetParent ++ [targetName]
    match tree.at? old with
    | none => throw .notFound
    | some .directory => throw .busy
    | some (.file contents) =>
      if sourceSlash || targetSlash then throw .notDirectory
      else if tree.at? new == some .directory then throw .isDirectory
      else if old = new then return tree
      else return (tree.remove old).put new (.file contents)
  | _, _ => throw .busy

end FileTree

end GatewayDesk
