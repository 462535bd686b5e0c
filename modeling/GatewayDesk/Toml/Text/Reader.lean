import GatewayDesk.Toml.Text.Basic

/-!
# Reading texts

`Text.body` reads a text of a given form up to its end, one character at a time; `Text.read?` finds
the form first. In a text of several lines, a line break right after the quotes says nothing, and
neither does a backslash at the end of a line with the blanks and line breaks after it.
-/

namespace GatewayDesk

namespace Toml

namespace Text

/-- What the characters before say about the next one. -/
inductive Mode where
  | plain
  /-- A backslash stood before. -/
  | escape
  /-- So many digits of a code are to come, and the others have this value. -/
  | code (digits value : Nat)
  /-- A backslash and blanks stood before, so a line break is to come. -/
  | joint
  /-- A joint and its line break stood before. -/
  | joined
  deriving DecidableEq, Repr

/-- The character that a letter after a backslash stands for. -/
def unescape? (c : Char) : Option Char :=
  match c with
  | '"' => some '"'
  | '\\' => some '\\'
  | 'b' => some '\x08'
  | 'f' => some '\x0c'
  | 'n' => some '\n'
  | 'r' => some '\r'
  | 't' => some '\t'
  | _ => none

/-- The character of a code, unless no character has it. -/
def character? (n : Nat) : Option Char :=
  if h : n.isValidChar then some (Char.ofNatAux n h) else none

/-- A character before what is read after it. -/
def keep (c : Char) (read : Option (List Char × List Char)) : Option (List Char × List Char) :=
  read.map fun (text, rest) => (c :: text, rest)

/-- Whether a character is a blank within a line. -/
def isSpace (c : Char) : Bool := c == ' ' || c == '\t'

/-- Whether the carriage return before a text belongs to a line break. -/
def breaks (rest : List Char) : Bool := rest.head? == some '\n'

/-- The quotes that still belong to the text, and what follows it, if a quote before this ends it.
-/
def close? (form : Form) (rest : List Char) : Option (List Char × List Char) :=
  if form.lines then
    let q := form.quote
    match rest with
    | a :: b :: rest =>
      if a == q && b == q then
        match rest with
        | c :: d :: rest' =>
          if c == q && d == q then some ([q, q], rest')
          else if c == q then some ([q], d :: rest')
          else some ([], rest)
        | [c] => if c == q then some ([q], []) else some ([], rest)
        | [] => some ([], [])
      else none
    | _ => none
  else some ([], rest)

/-- Reads a text up to its end: its characters, and what follows it. -/
def body (form : Form) (mode : Mode) : List Char → Option (List Char × List Char)
  | [] => none
  | c :: rest =>
    match mode with
    | .code digits value =>
      match Digits.hexValue? c with
      | none => none
      | some d =>
        if 1 < digits then body form (.code (digits - 1) (value * 16 + d)) rest
        else
          match character? (value * 16 + d) with
          | none => none
          | some e => keep e (body form .plain rest)
    | .escape =>
      match unescape? c with
      | some e => keep e (body form .plain rest)
      | none =>
        if c == 'u' then body form (.code 4 0) rest
        else if c == 'U' then body form (.code 8 0) rest
        else if form.lines && (isSpace c || (c == '\r' && breaks rest)) then body form .joint rest
        else if form.lines && c == '\n' then body form .joined rest
        else none
    | .joint =>
      if isSpace c || (c == '\r' && breaks rest) then body form .joint rest
      else if c == '\n' then body form .joined rest
      else none
    | _ =>
      if c == form.quote then
        match close? form rest with
        | some result => some result
        | none => keep c (body form .plain rest)
      else if c == '\\' && !form.literal then body form .escape rest
      else if mode == .joined && (isSpace c || c == '\n' || (c == '\r' && breaks rest)) then
        body form .joined rest
      else if form.lines && c == '\r' && breaks rest then body form .plain rest
      else if isPlain c || (form.lines && c == '\n') then keep c (body form .plain rest)
      else none

/-- What follows a line break at the front of a text. -/
def afterBreak (cs : List Char) : List Char :=
  match cs with
  | '\n' :: rest => rest
  | '\r' :: '\n' :: rest => rest
  | _ => cs

/-- Reads a text of one line, with its quotes. -/
def line? (cs : List Char) : Option (List Char × List Char) :=
  match cs with
  | '"' :: rest => body .basic .plain rest
  | '\'' :: rest => body .verbatim .plain rest
  | _ => none

/-- Reads a text, with its quotes. -/
def read? (cs : List Char) : Option (List Char × List Char) :=
  match cs with
  | '"' :: '"' :: '"' :: rest => body .basicLines .plain (afterBreak rest)
  | '\'' :: '\'' :: '\'' :: rest => body .verbatimLines .plain (afterBreak rest)
  | _ => line? cs

end Text

end Toml

end GatewayDesk
