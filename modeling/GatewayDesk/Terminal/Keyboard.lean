/-!
# What is typed at a terminal

A terminal hands over what is typed line by line. Until its line is ended, what is typed can still
be taken back: the last byte, the last word or the whole line. A program reads chunk after chunk,
and an empty chunk is the end of what it can read.
-/

namespace GatewayDesk

namespace Keyboard

/-! ## Keys -/

/-- What a key does. -/
inductive Key where
  /-- Adds a byte to the line. -/
  | byte (b : UInt8)
  /-- Ends the line. -/
  | enter
  /-- Hands over the line without an end; an empty line so handed over is the end of all. -/
  | finish
  | eraseByte
  | eraseWord
  | eraseLine
  /-- Takes the next key as a byte. -/
  | quote
  /-- Throws away all that has not been read. -/
  | interrupt
  /-- Does nothing to the text: shows the line once more, or stops or goes on with the output. -/
  | still
  deriving DecidableEq, Repr

/-- The key that a byte is. -/
def Key.ofByte (b : UInt8) : Key :=
  if b == 0x0A || b == 0x0D then .enter
  else if b == 0x04 then .finish
  else if b == 0x7F then .eraseByte
  else if b == 0x17 then .eraseWord
  else if b == 0x15 then .eraseLine
  else if b == 0x16 then .quote
  else if b == 0x03 || b == 0x1C || b == 0x1A then .interrupt
  else if b == 0x12 || b == 0x11 || b == 0x13 then .still
  else .byte b

/-! ## Lines -/

/-- How many bytes a line holds before its end; what is typed beyond them is lost. -/
def lineLimit : Nat := 4095

/-- What has been typed: the chunks that can be read and the line that is not ended, the last chunk
and the last byte first. -/
structure State where
  chunks : List (List UInt8)
  line : List UInt8
  /-- How many bytes the line still takes. -/
  room : Nat
  /-- Whether the next key is a byte. -/
  quoting : Bool
  deriving DecidableEq, Repr

/-- A terminal at which nothing has been typed. -/
def State.empty : State := ⟨[], [], lineLimit, false⟩

/-- Whether a byte is part of a word: a letter, a digit or an underscore, the letters of the upper
half of Latin-1 among them. -/
def isWordByte (b : UInt8) : Bool :=
  (0x30 ≤ b && b ≤ 0x39) || (0x41 ≤ b && b ≤ 0x5A) || (0x61 ≤ b && b ≤ 0x7A) || b == 0x5F ||
  (0xC0 ≤ b && b != 0xD7 && b != 0xF7)

/-- A line in reverse without its last word and what follows the word. -/
def withoutWord (line : List UInt8) : List UInt8 :=
  (line.dropWhile (!isWordByte ·)).dropWhile isWordByte

/-- Adds a byte to the line, if that takes it. -/
def State.add (s : State) (b : UInt8) : State :=
  if s.room = 0 then s else { s with line := b :: s.line, room := s.room - 1 }

/-- Puts another line in the place of the one that is not ended. -/
def State.change (s : State) (line : List UInt8) : State :=
  { s with line := line, room := lineLimit - line.length }

/-- Lets the line be read, with some bytes behind it. -/
def State.release (s : State) (ending : List UInt8) : State :=
  { s with chunks := (s.line.reverse ++ ending) :: s.chunks, line := [], room := lineLimit }

/-- Types a key. -/
def State.press (s : State) (b : UInt8) : State :=
  if s.quoting then { s.add b with quoting := false }
  else
    match Key.ofByte b with
    | .byte b => s.add b
    | .enter => s.release [0x0A]
    | .finish => s.release []
    | .eraseByte => s.change (s.line.drop 1)
    | .eraseWord => s.change (withoutWord s.line)
    | .eraseLine => s.change []
    | .quote => { s with quoting := true }
    | .interrupt => .empty
    | .still => s

/-- The bytes that a program reads, up to the end or to a line that is not ended. -/
def State.readable (s : State) : List UInt8 :=
  (s.chunks.reverse.takeWhile (!·.isEmpty)).flatten

/-- The bytes that a program reads when some bytes are typed. -/
def read (bytes : List UInt8) : List UInt8 := (bytes.foldl State.press .empty).readable

end Keyboard

end GatewayDesk
