/-!
# Excerpts

A report about a value shows the line on which it starts, and marks the value below that line. A
piece of a text is given by what is left of the text at its start and behind it, so that a reader,
which passes such rests on, can name the pieces it has read.
-/

namespace GatewayDesk

namespace Toml

/-- A piece of a text: the text from its start on, and the text behind it. -/
structure Piece where
  start : List Char
  rest : List Char
  deriving DecidableEq, Repr

namespace Piece

/-- The number of bytes of a piece. -/
def size (piece : Piece) : Nat :=
  (String.ofList piece.start).utf8ByteSize - (String.ofList piece.rest).utf8ByteSize

/-- What stands before a piece of a text. -/
def before (piece : Piece) (text : List Char) : List Char :=
  text.take (text.length - piece.start.length)

/-- The piece from the start of one to the end of another. -/
def reach (first last : Piece) : Piece := ⟨first.start, last.rest⟩

end Piece

/-- A line of a text with a mark below it. -/
structure Excerpt where
  /-- The number of the line, from one. -/
  line : Nat
  /-- The number of the character where the mark starts, from one. -/
  column : Nat
  content : String
  /-- How many places the mark takes. -/
  width : Nat
  deriving DecidableEq, Repr

namespace Excerpt

/-- Whether a character belongs to the line of the one before it. -/
def isInLine (c : Char) : Bool := c != '\n'

/-- The line on which a piece of a text starts. The mark is as long as the bytes of the piece, but
ends with the bytes of the line, and is never empty. -/
def ofPiece (text : List Char) (piece : Piece) : Excerpt :=
  let before := piece.before text
  let lead := before.reverse.takeWhile isInLine
  let content := String.ofList (lead.reverse ++ piece.start.takeWhile isInLine)
  ⟨before.count '\n' + 1, lead.length + 1, content,
    max 1 (min piece.size (content.utf8ByteSize - lead.length))⟩

/-- Blanks. -/
def blanks (n : Nat) : String := String.ofList (List.replicate n ' ')

/-- The excerpt above a sentence about it. -/
def describe (excerpt : Excerpt) (sentence : String) : String :=
  let number := toString excerpt.line
  let gutter := blanks (number.length + 1) ++ "|"
  let mark := String.ofList (List.replicate excerpt.width '^')
  s!"TOML parse error at line {number}, column {excerpt.column}\n{gutter}\n" ++
    s!"{number} | {excerpt.content}\n{gutter}{blanks excerpt.column}{mark}\n{sentence}\n"

end Excerpt

end Toml

end GatewayDesk
