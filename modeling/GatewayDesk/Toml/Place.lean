import GatewayDesk.Toml.Document

/-!
# Where values stand

Each value of a document has a piece of the text. That of a value after a key is the value itself.
That of a table with a header reaches from the header to the last value under it, and that of an
array of such tables from its first to its last; that of the document starts with the text. A table
that only a longer key implies has the piece of its own key, where that comes first.

`Place.clues` gathers what the statements of a text say about places, and `Place.find?` reads the
piece of a path off them.
-/

namespace GatewayDesk

namespace Toml

/-- What a text says about the place of a path. -/
structure Clue where
  path : Path
  piece : Piece
  /-- Whether the piece is a key that implies a table. -/
  implied : Bool
  deriving DecidableEq, Repr

namespace Place

/-! ## Keys and values -/

/-- A part of a key, with its piece. -/
abbrev Part := String × Piece

/-- The parts of the key at the front of a text, at most `limit` of them, and the text behind it. -/
def parts (limit : Nat) (cs : List Char) : List Part × List Char :=
  let start := Document.skip cs
  match limit, Document.part? start with
  | limit + 1, some (part, rest) =>
    match Document.skip rest with
    | '.' :: more =>
      let (others, rest') := parts limit more
      ((part, ⟨start, rest⟩) :: others, rest')
    | more => ([(part, ⟨start, rest⟩)], more)
  | _, _ => ([], start)

/-- The key of the pair at the front of a text, and the text from its value on. -/
def pair (cs : List Char) : List Part × List Char :=
  let (parts, rest) := parts Document.limit cs
  (parts, Document.skip (rest.drop 1))

/-- The text behind the value at the front of a text. -/
def afterValue (cs : List Char) : List Char :=
  match Document.value? Document.limit cs with
  | some (_, rest) => rest
  | none => []

/-- The texts from each item of an array on, at most `fuel` of them and of the lines before each. -/
def itemTexts (fuel : Nat) (cs : List Char) : List (List Char) :=
  match fuel, Document.skipLines fuel cs with
  | 0, _ => []
  | _, [] => []
  | _, ']' :: _ => []
  | fuel + 1, start =>
    start :: itemTexts fuel ((Document.skipLines (fuel + 1) (afterValue start)).drop 1)

/-- The texts from each pair of a table between braces on, at most `fuel` of them. -/
def pairTexts (fuel : Nat) (cs : List Char) : List (List Char) :=
  match fuel, Document.skip cs with
  | 0, _ => []
  | _, [] => []
  | _, '\x7d' :: _ => []
  | fuel + 1, start =>
    start :: pairTexts fuel ((Document.skip (afterValue (pair start).2)).drop 1)

/-! ## Paths -/

/-- The newest table of each array of tables, by its index. -/
abbrev Newest := List (Path × Nat)

/-- The path that a key leads to; that of an array of tables leads to the newest of them. -/
def enter (newest : Newest) (path : Path) (part : Part) : Path :=
  let path := path ++ [.key part.1]
  match newest.lookup path with
  | some index => path ++ [.item index]
  | none => path

/-- The path that keys lead to. -/
def follow (newest : Newest) (path : Path) (parts : List Part) : Path :=
  parts.foldl (enter newest) path

/-! ## Clues -/

/-- The clues of the keys that lead to another one: each implies a table. -/
def impliedClues (newest : Newest) (path : Path) : List Part → List Clue
  | [] => []
  | [_] => []
  | part :: more =>
    let path := enter newest path part
    ⟨path, part.2, true⟩ :: impliedClues newest path more

/-- The clues of a value and of those in it, with at most `depth` brackets and braces open. -/
def valueClues (depth : Nat) (path : Path) (cs : List Char) : List Clue :=
  ⟨path, ⟨cs, afterValue cs⟩, false⟩ ::
    match depth, cs with
    | depth + 1, '[' :: inner =>
      (itemTexts inner.length inner).zipIdx.flatMap fun (text, index) =>
        valueClues depth (path ++ [.item index]) text
    | depth + 1, '\x7b' :: inner =>
      (pairTexts inner.length inner).flatMap fun text =>
        let (parts, value) := pair text
        impliedClues [] path parts ++ valueClues depth (follow [] path parts) value
    | _, _ => []

/-- What stands around a statement: the table that pairs belong to, and the newest tables. -/
structure Setting where
  here : Path
  newest : Newest

/-- The clues of a piece that belongs to a table with a header, which the arrays of tables around it
share. -/
def ownClues (path : Path) (piece : Piece) : List Clue :=
  match path.getLast? with
  | some (.item _) => [⟨path.dropLast, piece, false⟩, ⟨path, piece, false⟩]
  | _ => [⟨path, piece, false⟩]

/-- The clues of a statement with a piece, and what stands around the next. -/
def statementClues (setting : Setting) (piece : Piece) : List Clue × Setting :=
  match piece.start with
  | '[' :: '[' :: inner =>
    let (parts, _) := parts Document.limit inner
    let array := follow [] (follow setting.newest [] parts.dropLast) (parts.drop (parts.length - 1))
    let index := ((setting.newest.lookup array).map (· + 1)).getD 0
    let here := array ++ [.item index]
    (impliedClues setting.newest [] parts ++ ownClues here piece,
      ⟨here, (array, index) :: setting.newest⟩)
  | '[' :: inner =>
    let (parts, _) := parts Document.limit inner
    let here := follow setting.newest [] parts
    (impliedClues setting.newest [] parts ++ ownClues here piece, ⟨here, setting.newest⟩)
  | start =>
    let (parts, value) := pair start
    (ownClues setting.here piece ++ impliedClues setting.newest setting.here parts ++
      valueClues Document.limit (follow setting.newest setting.here parts) value, setting)

/-- The clues of the statements of a text, which has at most `fuel` lines. -/
def clues (fuel : Nat) (setting : Setting) (cs : List Char) : List Clue :=
  match fuel, cs with
  | _, [] => []
  | 0, _ => []
  | fuel + 1, cs =>
    match Document.lineEnd? cs with
    | some rest => clues fuel setting rest
    | none =>
      match Document.statement? (Document.skip cs) with
      | none => []
      | some (_, rest) =>
        let (found, next) := statementClues setting ⟨Document.skip cs, rest⟩
        found ++ clues fuel next ((Document.lineEnd? rest).getD [])

/-! ## Places -/

/-- The piece of a path: from the first to the last that belongs to it, else the first key that
implies it. -/
def find? (clues : List Clue) (path : Path) : Option Piece :=
  let (implied, own) := (clues.filter fun c => c.path == path).partition Clue.implied
  match own with
  | [] => implied.head?.map Clue.piece
  | first :: more => some (first.piece.reach (more.getLastD first).piece)

end Place

/-- The line of a text where the value of a path starts. -/
def Excerpt.ofPath (text : String) (path : Path) : Excerpt :=
  let cs := text.toList
  let start : Clue := ⟨[], ⟨cs, cs⟩, false⟩
  let clues := start :: Place.clues cs.length ⟨[], []⟩ (Document.unmarked cs)
  .ofPiece cs ((Place.find? clues path).getD start.piece)

end Toml

end GatewayDesk
