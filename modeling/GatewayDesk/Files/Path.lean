/-!
# Paths

A path is a text whose pieces stand between slashes. Empty pieces, and single dots after the first
piece, say nothing; `Path.trimmed` leaves them out at the end. The last piece that is left is the
file name, unless it is one or two dots.

`join_pieces` says that the pieces make up the path again.
-/

namespace GatewayDesk

namespace Path

/-! ## Pieces -/

/-- The pieces between the slashes of a text, also the empty ones. -/
def split : List Char → List (List Char)
  | [] => [[]]
  | c :: cs =>
    match split cs with
    | [] => [[c]]
    | p :: ps => if c = '/' then [] :: p :: ps else (c :: p) :: ps

/-- Pieces with slashes between them. -/
def join : List (List Char) → List Char
  | [] => []
  | [p] => p
  | p :: ps => p ++ '/' :: join ps

/-- The pieces of a path. -/
def pieces (path : String) : List (List Char) := split path.toList

theorem join_split (cs : List Char) : join (split cs) = cs := by
  induction cs with
  | nil => rfl
  | cons c cs ih =>
    unfold split
    cases h : split cs with
    | nil =>
      rw [h] at ih
      simp only [join] at ih ⊢
      rw [← ih]
    | cons p ps =>
      rw [h] at ih
      by_cases hc : c = '/'
      · simp [hc, join, ih]
      · cases ps with
        | nil => simpa [hc, join] using ih
        | cons q qs => simpa [hc, join] using ih

theorem join_pieces (path : String) : join (pieces path) = path.toList := join_split _

/-- Whether a piece says nothing. -/
def isIdle (piece : List Char) : Bool := piece == [] || piece == ['.']

/-- The pieces without the idle ones at the end; the first stays. -/
def trimmed (ps : List (List Char)) : List (List Char) :=
  match ps with
  | [] => []
  | p :: rest => p :: (rest.reverse.dropWhile isIdle).reverse

/-- The text of trimmed pieces: a first empty piece alone is the root. -/
def ofTrimmed (ps : List (List Char)) : String :=
  String.ofList (if ps == [[]] then ['/'] else join ps)

/-! ## Parts -/

/-- The last piece that says something. -/
def last (path : String) : List Char := (trimmed (pieces path)).getLastD []

/-- The file name: the last piece, unless it is one or two dots. -/
def fileName? (path : String) : Option (List Char) :=
  let name := last path
  if name == [] || name == ['.'] || name == ['.', '.'] then none else some name

/-- The path of the directory that holds the entry; the root and the empty path have none. -/
def parent? (path : String) : Option String :=
  match trimmed (pieces path) with
  | [] => none
  | [p] => if p == [] then none else some ""
  | ps => some (ofTrimmed (trimmed ps.dropLast))

/-- A file name without its suffix, and the suffix: what follows the last dot, if something stands
before that dot. -/
def splitSuffix (name : List Char) : List Char × Option (List Char) :=
  let suffix := (name.reverse.takeWhile (· != '.')).reverse
  let stem := name.take (name.length - suffix.length - 1)
  if stem == [] then (name, none) else (stem, some suffix)

/-- The suffix of the file name. -/
def suffix? (path : String) : Option (List Char) :=
  (fileName? path).bind fun name => (splitSuffix name).2

/-- The path with another suffix of the file name; a path without a file name stays as it is. The
old suffix is taken off first, and a path that ends in two dots without it has no file name any
more. -/
def withSuffix (path : String) (suffix : List Char) : String :=
  match fileName? path with
  | none => path
  | some name =>
    let front := (trimmed (pieces path)).dropLast
    let stem := (splitSuffix name).1
    let bare := stem == ['.'] && pieces path == front ++ [name]
    String.ofList (join (front ++ [if bare then ['.', '.'] else stem ++ '.' :: suffix]))

/-- The path of an entry of a directory. -/
def under (directory name : String) : String :=
  match directory.toList.getLast? with
  | none => name
  | some '/' => directory ++ name
  | some _ => directory ++ "/" ++ name

/-! ## Steps -/

/-- The pieces that lead from a directory to an entry: the empty ones lead nowhere, and a slash at
the end asks for a directory, as a dot does. -/
def steps (path : String) : List String :=
  let ps := pieces path
  let named := ps.filter (· != [])
  let asksDirectory := 1 < ps.length && ps.getLast? == some []
  (named ++ if asksDirectory then [['.']] else []).map String.ofList

/-- Whether the path starts at the root. -/
def isAbsolute (path : String) : Bool := path.toList.head? == some '/'

end Path

end GatewayDesk
