/-!
# Characters and where they stand

A YAML text is read as a row of glyphs: a glyph is a character and its mark. A line break of any
kind is one glyph, and the row ends with a NUL glyph, which no text holds, so that every place of
the text, its end included, has a mark.
-/

namespace GatewayDesk

namespace Yaml

/-- A place in a text: how many bytes, line breaks, and characters of its line are before it. -/
structure Mark where
  index : Nat
  line : Nat
  column : Nat
  deriving DecidableEq, Repr

/-- The mark in words. -/
def Mark.describe (mark : Mark) : String :=
  s!"line {mark.line + 1} column {mark.column + 1}"

/-- Whether the mark is that of the first character. -/
def Mark.isStart (mark : Mark) : Bool := mark.line == 0 && mark.column == 0

/-- A character with its mark. -/
structure Glyph where
  char : Char
  mark : Mark
  deriving Repr

/-- The rest of a text. -/
abbrev Row := List Glyph

namespace Glyph

/-- The glyphs of a text that starts at a mark. -/
def ofChars (mark : Mark) : List Char → Row
  | [] => [⟨'\x00', mark⟩]
  | '\r' :: '\n' :: rest =>
    ⟨'\n', mark⟩ :: ofChars ⟨mark.index + 2, mark.line + 1, 0⟩ rest
  | c :: rest =>
    let index := mark.index + c.utf8Size
    if c == '\r' || c == '\n' || c == '\x85' then
      ⟨'\n', mark⟩ :: ofChars ⟨index, mark.line + 1, 0⟩ rest
    else if c == '\u2028' || c == '\u2029' then
      ⟨c, mark⟩ :: ofChars ⟨index, mark.line + 1, 0⟩ rest
    else ⟨c, mark⟩ :: ofChars ⟨index, mark.line, mark.column + 1⟩ rest

/-- Whether the glyph ends the text. -/
def isEnd (g : Glyph) : Bool := g.char == '\x00'

/-- Whether the glyph is a line break. -/
def isBreak (g : Glyph) : Bool :=
  g.char == '\n' || g.char == '\u2028' || g.char == '\u2029'

/-- Whether the glyph is a space or a tab. -/
def isSpace (g : Glyph) : Bool := g.char == ' ' || g.char == '\t'

/-- Whether the glyph separates words: a space, a tab, a line break or the end. -/
def separates (g : Glyph) : Bool := g.isSpace || g.isBreak || g.isEnd

/-- Whether the glyph ends its line. -/
def endsLine (g : Glyph) : Bool := g.isBreak || g.isEnd

end Glyph

namespace Row

/-- The character at the front, NUL at the end of the text. -/
def char (row : Row) : Char :=
  match row with
  | [] => '\x00'
  | g :: _ => g.char

/-- The mark at the front. -/
def mark (row : Row) : Mark :=
  match row with
  | [] => ⟨0, 0, 0⟩
  | g :: _ => g.mark

/-- Whether the glyph at the front separates words. -/
def separates (row : Row) : Bool :=
  match row with
  | [] => true
  | g :: _ => g.separates

/-- Whether the line ends here. -/
def endsLine (row : Row) : Bool :=
  match row with
  | [] => true
  | g :: _ => g.endsLine

/-- The row after the spaces and tabs at its front. -/
def skipSpaces (row : Row) : Row := row.dropWhile Glyph.isSpace

/-- The row from the end of the line, if a comment stands at its front. -/
def skipComment (row : Row) : Row :=
  if char row == '#' then row.dropWhile fun g => !g.endsLine else row

/-- The row after the line break at its front, if there is one. -/
def skipBreak (row : Row) : Row :=
  match row with
  | [] => []
  | g :: rest => if g.isBreak then rest else row

/-- Whether three times a character stands at the start of a line, as a word of its own. -/
def isRule (c : Char) (row : Row) : Bool :=
  match row with
  | a :: b :: d :: rest =>
    a.mark.column == 0 && a.char == c && b.char == c && d.char == c && separates rest
  | _ => false

/-- Whether a document begins or ends here. -/
def isDocumentRule (row : Row) : Bool := isRule '-' row || isRule '.' row

end Row

/-! ## Texts -/

/-- Whether a character may stand in a text. -/
def mayStand (c : Char) : Bool :=
  let n := c.toNat
  n == 9 || n == 10 || n == 13 || (0x20 ≤ n && n ≤ 0x7E) || n == 0x85 ||
  (0xA0 ≤ n && n ≤ 0xD7FF) || (0xE000 ≤ n && n ≤ 0xFFFD) || 0x10000 ≤ n

/-- How many bytes are before the first character that may not stand in a text. -/
def strayOffset? (text : List Char) (offset : Nat) : Option Nat :=
  match text with
  | [] => none
  | c :: rest => if mayStand c then strayOffset? rest (offset + c.utf8Size) else some offset

/-- The glyphs of a text. -/
def rowOf (text : List Char) : Row := Glyph.ofChars ⟨0, 0, 0⟩ text

end Yaml

end GatewayDesk
