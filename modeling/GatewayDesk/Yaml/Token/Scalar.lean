import GatewayDesk.Numeric.Digits
import GatewayDesk.Yaml.Token.Basic

/-!
# Scalars

The texts of plain, quoted and block scalars. Between the words of a plain or quoted scalar stands a
gap: spaces stay as they are, one line break becomes a space, and further line breaks stay line
breaks. A block scalar keeps its lines, or folds them by the same rule where they are not indented
further.
-/

namespace GatewayDesk

namespace Yaml

namespace Scalar

/-! ## Gaps -/

/-- Spaces and line breaks between words, each list in reverse. -/
structure Gap where
  spaces : List Char
  /-- Whether there is a line break, an escaped one included. -/
  broken : Bool
  /-- The first line break, unless it is escaped. -/
  first : Option Char
  /-- The line breaks after the first. -/
  more : List Char

/-- No gap. -/
def Gap.none : Gap := ⟨[], false, .none, []⟩

/-- Whether there is nothing between two characters. -/
def Gap.isNone (gap : Gap) : Bool := gap.spaces.isEmpty && !gap.broken

/-- The gap with one more space or line break. -/
def Gap.push (gap : Gap) (g : Glyph) : Gap :=
  if g.isBreak then
    if gap.broken then { gap with more := g.char :: gap.more }
    else ⟨[], true, some g.char, []⟩
  else if gap.broken then gap
  else { gap with spaces := g.char :: gap.spaces }

/-- What becomes of line breaks between words. -/
def fold (first : Option Char) (more : List Char) : List Char :=
  match first with
  | .none => more
  | some c => if c == '\n' then (if more.isEmpty then [' '] else more) else c :: more

/-- What a gap becomes. -/
def Gap.text (gap : Gap) : List Char :=
  if gap.broken then fold gap.first gap.more.reverse else gap.spaces.reverse

/-- The text so far, in reverse, with a gap at its end. -/
def Gap.appendTo (gap : Gap) (done : List Char) : List Char := gap.text.reverse ++ done

/-! ## Plain scalars -/

/-- A plain scalar that has been read. -/
structure Plain where
  text : List Char
  rest : Row
  /-- Whether a line break follows it. -/
  broken : Bool

/-- The scalar whose text is `done` in reverse, with a gap and a row after it. -/
def Plain.ofReverse (done : List Char) (gap : Gap) (row : Row) : Plain :=
  ⟨done.reverse, row, gap.broken⟩

/-- Whether a character is one of the five that structure flow collections. -/
def isFlowSign (c : Char) : Bool :=
  c == ',' || c == '[' || c == ']' || c == '\x7b' || c == '\x7d'

/-- The plain scalar at the front of a row, after `done` in reverse and a gap. In a block it ends
where a line is indented less than `indent`. -/
def plain (flow : Bool) (indent : Nat) (since : Mark) (row : Row) (done : List Char) (gap : Gap) :
    Except Fault Plain :=
  let fail (what : Problem) (g : Glyph) : Except Fault Plain :=
    .error (.problem what g.mark (some (.plainScalar, since)))
  match row with
  | [] => .ok (.ofReverse done gap row)
  | g :: rest =>
    if g.isSpace || g.isBreak then
      if gap.broken && g.mark.column < indent && g.char == '\t' then fail .tabBeforeText g
      else plain flow indent since rest done (gap.push g)
    else if g.isEnd then .ok (.ofReverse done gap row)
    else if !gap.isNone && ((!flow && g.mark.column < indent) || g.char == '#') then
      .ok (.ofReverse done gap row)
    else if gap.broken && Row.isDocumentRule row then .ok (.ofReverse done gap row)
    else if g.char == ':' && flow && (isFlowSign (Row.char rest) || Row.char rest == '?') then
      fail .unexpectedColon g
    else if (g.char == ':' && Row.separates rest) || (flow && isFlowSign g.char) then
      .ok (.ofReverse done gap row)
    else plain flow indent since rest (g.char :: gap.appendTo done) Gap.none

/-! ## Quoted scalars -/

/-- The character that a backslash and a letter stand for. -/
def unescape? (c : Char) : Option Char :=
  match c with
  | '0' => some '\x00'
  | 'a' => some '\x07'
  | 'b' => some '\x08'
  | 't' => some '\t'
  | '\t' => some '\t'
  | 'n' => some '\n'
  | 'v' => some '\x0b'
  | 'f' => some '\x0c'
  | 'r' => some '\r'
  | 'e' => some '\x1b'
  | ' ' => some ' '
  | '"' => some '"'
  | '/' => some '/'
  | '\\' => some '\\'
  | 'N' => some '\x85'
  | '_' => some '\xa0'
  | 'L' => some '\u2028'
  | 'P' => some '\u2029'
  | _ => none

/-- How many digits the code point after a backslash and a letter has. -/
def codeLength? (c : Char) : Option Nat :=
  match c with
  | 'x' => some 2
  | 'u' => some 4
  | 'U' => some 8
  | _ => none

/-- The character of a code point with `count` digits at the front of a row. -/
def codePoint (since : Mark) (count : Nat) (row : Row) : Except Fault Char :=
  let fail (what : Problem) : Except Fault Char :=
    .error (.problem what (Row.mark row) (some (.escape, since)))
  match Digits.ofDigits? 16 ((row.take count).map Glyph.char) with
  | none => fail .noHexDigit
  | some n => if n.isValidChar then .ok (Char.ofNat n) else fail .badCodePoint

/-- The text up to the closing quote, and the row after it: `skip` glyphs of an escape are still to
pass. -/
def quoted (double : Bool) (since : Mark) (row : Row) (skip : Nat) (done : List Char) (gap : Gap) :
    Except Fault (List Char × Row) :=
  let fail (what : Problem) (activity : Activity) (mark : Mark) : Except Fault (List Char × Row) :=
    .error (.problem what mark (some (activity, since)))
  match row, skip with
  | [], _ => .ok (done.reverse, [])
  | _ :: rest, skip + 1 => quoted double since rest skip done gap
  | g :: rest, 0 =>
    if g.isSpace || g.isBreak then quoted double since rest 0 done (gap.push g)
    else if Row.isDocumentRule row then fail .documentRule .quotedScalar g.mark
    else if g.isEnd then fail .endOfText .quotedScalar g.mark
    else
      let done := gap.appendTo done
      if g.char == (if double then '"' else '\'') then
        if !double && Row.char rest == '\'' then quoted double since rest 1 ('\'' :: done) Gap.none
        else .ok (done.reverse, rest)
      else if double && g.char == '\\' then
        match rest with
        | [] => fail .unknownEscape .escape g.mark
        | e :: inside =>
          if e.isBreak then quoted double since rest 1 done ⟨[], true, none, []⟩
          else
            match unescape? e.char, codeLength? e.char with
            | some c, _ => quoted double since rest 1 (c :: done) Gap.none
            | none, some count => do
              let c ← codePoint since count inside
              quoted double since rest (count + 1) (c :: done) Gap.none
            | none, none => fail .unknownEscape .escape g.mark
      else quoted double since rest 0 (g.char :: done) Gap.none

/-! ## Block scalars -/

/-- What becomes of the line breaks at the end of a block scalar. -/
inductive Chomp where
  /-- All of them go. -/
  | strip
  /-- One of them stays. -/
  | clip
  /-- All of them stay. -/
  | keep
  deriving DecidableEq, Repr

/-- The first line of a block scalar: how its end is treated, and how much its lines are indented
if that is said. -/
structure Header where
  chomp : Chomp
  indent : Option Nat

/-- The treatment of the end that a character says. -/
def chomp? (c : Char) : Option Chomp :=
  if c == '+' then some .keep else if c == '-' then some .strip else none

/-- The digit at the front of a row, which must not be zero. -/
def indentOf? (since : Mark) (row : Row) : Except Fault (Option Nat × Row) :=
  let c := Row.char row
  if c == '0' then .error (.problem .zeroIndent (Row.mark row) (some (.blockScalar, since)))
  else if Digits.isDigit c then .ok (some (Digits.value c), row.drop 1)
  else .ok (none, row)

/-- The first line of a block scalar, after its sign, and the row after it. -/
def header (since : Mark) (row : Row) : Except Fault (Header × Row) := do
  let (head, rest) ←
    match chomp? (Row.char row) with
    | some chomp => do
      let (indent, rest) ← indentOf? since (row.drop 1)
      pure (Header.mk chomp indent, rest)
    | none => do
      let (indent, rest) ← indentOf? since row
      match indent, chomp? (Row.char rest) with
      | some n, some chomp => pure (Header.mk chomp (some n), rest.drop 1)
      | _, _ => pure (Header.mk .clip indent, rest)
  let rest := Row.skipComment (Row.skipSpaces rest)
  if Row.endsLine rest then return (head, Row.skipBreak rest)
  else .error (.problem .noCommentOrBreak (Row.mark rest) (some (.blockScalar, since)))

/-- A block scalar so far. -/
structure Block where
  /-- The text in reverse. -/
  done : List Char
  /-- The line break after the last line of text. -/
  lineBreak : Option Char
  /-- The line breaks of the empty lines after it, in reverse. -/
  empty : List Char
  /-- Whether the last line of text starts with a space. -/
  spaced : Bool

/-- A block scalar before its first line. -/
def Block.start : Block := ⟨[], none, [], false⟩

/-- Begins a line of text with a glyph. -/
def Block.beginLine (block : Block) (folded : Bool) (g : Glyph) : Block :=
  let lineBreak : List Char :=
    if folded && block.lineBreak == some '\n' && !block.spaced && !g.isSpace then
      if block.empty.isEmpty then [' '] else []
    else block.lineBreak.toList
  ⟨g.char :: (block.empty ++ lineBreak ++ block.done), none, [], g.isSpace⟩

/-- The whole text. -/
def Block.finish (block : Block) (chomp : Chomp) : List Char :=
  let lineBreak := if chomp == .strip then [] else block.lineBreak.toList
  let empty := if chomp == .keep then block.empty else []
  (empty ++ lineBreak ++ block.done).reverse

/-- Where in a line of a block scalar a glyph stands. -/
inductive Place where
  /-- Before the text, while it is not yet known how far lines are indented; so far at most this
  far. -/
  | unknown (most : Nat)
  /-- Before the text of a line that is indented this far. -/
  | margin (indent : Nat)
  /-- In the text of a line. -/
  | text (indent : Nat)

/-- The lines of a block scalar and the row after it; `least` is how far they are indented at
least. -/
def blockLines (folded : Bool) (least : Nat) (since : Mark) (row : Row) (place : Place)
    (block : Block) : Except Fault (Block × Row) :=
  match row with
  | [] => .ok (block, [])
  | g :: rest =>
    let column := g.mark.column
    let blank (place : Place) : Except Fault (Block × Row) :=
      blockLines folded least since rest place { block with empty := g.char :: block.empty }
    let text (indent : Nat) : Except Fault (Block × Row) :=
      if column == indent && !g.isEnd then
        blockLines folded least since rest (.text indent) (block.beginLine folded g)
      else .ok (block, row)
    let tab : Except Fault (Block × Row) :=
      .error (.problem .tabInIndent g.mark (some (.blockScalar, since)))
    match place with
    | .unknown most =>
      if g.char == ' ' then blockLines folded least since rest place block
      else
        let most := max most column
        if g.char == '\t' then tab
        else if g.isBreak then blank (.unknown most)
        else text (max most least)
    | .margin indent =>
      if g.char == ' ' && column < indent then blockLines folded least since rest place block
      else if g.char == '\t' && column < indent then tab
      else if g.isBreak then blank place
      else text indent
    | .text indent =>
      if g.isBreak then
        blockLines folded least since rest (.margin indent) { block with lineBreak := some g.char }
      else if g.isEnd then .ok (block, row)
      else blockLines folded least since rest place { block with done := g.char :: block.done }

/-- The block scalar whose sign is at the front of a row, in a block that is indented `indent`
far. -/
def block (folded : Bool) (indent : Option Nat) (row : Row) : Except Fault (List Char × Row) := do
  let since := Row.mark row
  let (head, rest) ← header since (row.drop 1)
  let place :=
    match head.indent with
    | none => Place.unknown 0
    | some n => .margin (indent.getD 0 + n)
  let least := max 1 (indent.elim 0 (· + 1))
  let (body, rest) ← blockLines folded least since rest place Block.start
  return (body.finish head.chomp, rest)

end Scalar

end Yaml

end GatewayDesk
