import GatewayDesk.Toml.Error
import GatewayDesk.Toml.Table
import GatewayDesk.Toml.Text.Reader

/-!
# TOML documents

A document is a row of statements, each on a line of its own: a pair, or the header of the table
that the pairs after it belong to. `Document.statements?` finds them and `Document.assemble`
carries them out; `Toml.read` does both.
-/

namespace GatewayDesk

namespace Toml

/-- What a line says. -/
inductive Statement where
  /-- The value of a key. -/
  | pair (keys : List String) (value : Value)
  /-- The header of a table. -/
  | table (keys : List String)
  /-- The header of an element of an array of tables. -/
  | element (keys : List String)

namespace Document

/-! ## Between tokens -/

/-- The text after blanks. -/
def skip (cs : List Char) : List Char := cs.dropWhile Text.isSpace

/-- The text after a comment, if one is at the front. -/
def skipComment (cs : List Char) : List Char :=
  match cs with
  | '#' :: rest => rest.dropWhile isPlain
  | _ => cs

/-- What follows the end of a line, after blanks and a comment. -/
def lineEnd? (cs : List Char) : Option (List Char) :=
  match skipComment (skip cs) with
  | [] => some []
  | '\n' :: rest => some rest
  | '\r' :: '\n' :: rest => some rest
  | _ => none

/-- The text after blanks, comments and line breaks; `fuel` bounds the number of lines. -/
def skipLines (fuel : Nat) (cs : List Char) : List Char :=
  match fuel, skipComment (skip cs) with
  | fuel + 1, '\n' :: rest => skipLines fuel rest
  | fuel + 1, '\r' :: '\n' :: rest => skipLines fuel rest
  | _, rest => rest

/-- The text after a character that must be there. -/
def expect? (c : Char) (cs : List Char) : Option (List Char) :=
  match cs with
  | d :: rest => if d == c then some rest else none
  | [] => none

/-! ## Keys -/

/-- One part of a key. -/
def part? (cs : List Char) : Option (String × List Char) :=
  match Text.line? cs with
  | some (text, rest) => some (String.ofList text, rest)
  | none =>
    let bare := cs.takeWhile isBare
    if bare.isEmpty then none else some (String.ofList bare, cs.dropWhile isBare)

/-- A key of at most `limit` parts. -/
def key? (limit : Nat) (cs : List Char) : Option (List String × List Char) :=
  match limit with
  | 0 => none
  | limit + 1 => do
    let (part, rest) ← part? (skip cs)
    match skip rest with
    | '.' :: rest => do
      let (parts, rest) ← key? limit rest
      some (part :: parts, rest)
    | rest => some ([part], rest)

/-- How many parts a key may have, and how many brackets and braces may be open. -/
def limit : Nat := 79

/-! ## Values -/

/-- Whether a character may stand in a number, a truth value or a moment. -/
def isWord (c : Char) : Bool := isBare c || c == '+' || c == '.' || c == ':'

/-- A moment at the front of a text. A blank may part the date from the time of day. -/
def moment? (cs : List Char) : Option (Moment × List Char) :=
  let rest := cs.dropWhile isWord
  match Moment.ofWord? (cs.takeWhile isWord) with
  | none => none
  | some (.day date) =>
    match rest with
    | ' ' :: more =>
      match Moment.timed? date (more.takeWhile isWord) with
      | some moment => some (moment, more.dropWhile isWord)
      | none => some (.day date, rest)
    | _ => some (.day date, rest)
  | some moment => some (moment, rest)

/-- The number or truth value that a word spells. -/
def word? (cs : List Char) : Option Value :=
  if cs == ['t', 'r', 'u', 'e'] then some (.boolean true)
  else if cs == ['f', 'a', 'l', 's', 'e'] then some (.boolean false)
  else
    match Numeral.real? cs with
    | some x => some (.real x)
    | none => (Numeral.integer? cs).map .integer

/-- The items of an array up to its end, at most `fuel` of them and of the lines before each. -/
def items? (value? : List Char → Option (Value × List Char)) (fuel : Nat) (cs : List Char) :
    Option (List Value × List Char) :=
  match fuel with
  | 0 => none
  | fuel + 1 =>
    match skipLines (fuel + 1) cs with
    | ']' :: rest => some ([], rest)
    | rest => do
      let (item, rest) ← value? rest
      match skipLines (fuel + 1) rest with
      | ',' :: rest => do
        let (items, rest) ← items? value? fuel rest
        some (item :: items, rest)
      | ']' :: rest => some ([item], rest)
      | _ => none

/-- The pairs of a table between braces up to its end, at most `fuel` of them. -/
def pairs? (value? : List Char → Option (Value × List Char)) (members : Members) (fuel : Nat)
    (cs : List Char) : Option (Members × List Char) :=
  match fuel with
  | 0 => none
  | fuel + 1 => do
    let (keys, rest) ← key? limit cs
    let rest ← expect? '=' rest
    let (value, rest) ← value? (skip rest)
    let members ← Table.define members keys value
    match skip rest with
    | ',' :: rest => pairs? value? members fuel rest
    | '\x7d' :: rest => some (members, rest)
    | _ => none

/-- A value at the front of a text, with at most `depth` brackets and braces open in it. -/
def value? (depth : Nat) (cs : List Char) : Option (Value × List Char) :=
  match cs with
  | [] => none
  | c :: rest =>
    if c == '"' || c == '\'' then
      (Text.read? cs).map fun (text, rest) => (.text (String.ofList text), rest)
    else if c == '[' then
      match depth with
      | 0 => none
      | depth + 1 =>
        (items? (value? depth) rest.length rest).map fun (items, rest) => (.array items, rest)
    else if c == '\x7b' then
      match depth, skip rest with
      | 0, _ => none
      | _ + 1, '\x7d' :: rest => some (.table .braces [], rest)
      | depth + 1, _ =>
        (pairs? (value? depth) [] rest.length rest).map fun (members, rest) =>
          (.table .braces members, rest)
    else
      match moment? cs with
      | some (moment, rest) => some (.moment moment, rest)
      | none => (word? (cs.takeWhile isWord)).map fun value => (value, cs.dropWhile isWord)

/-! ## Statements -/

/-- The header at the front of a text, after its first bracket. -/
def header? (cs : List Char) : Option (Statement × List Char) :=
  match cs with
  | '[' :: rest => do
    let (keys, rest) ← key? limit rest
    let rest ← expect? ']' rest
    let rest ← expect? ']' rest
    some (.element keys, rest)
  | _ => do
    let (keys, rest) ← key? limit cs
    let rest ← expect? ']' rest
    some (.table keys, rest)

/-- The statement at the front of a text. -/
def statement? (cs : List Char) : Option (Statement × List Char) :=
  match cs with
  | '[' :: rest => header? rest
  | _ => do
    let (keys, rest) ← key? limit cs
    let rest ← expect? '=' rest
    let (value, rest) ← value? limit (skip rest)
    some (.pair keys value, rest)

/-- The statements of a text, which has at most `fuel` lines. -/
def statements? (fuel : Nat) (cs : List Char) : Option (List Statement) :=
  match fuel, cs with
  | _, [] => some []
  | 0, _ => none
  | fuel + 1, cs =>
    match lineEnd? cs with
    | some rest => statements? fuel rest
    | none => do
      let (statement, rest) ← statement? (skip cs)
      let rest ← lineEnd? rest
      let statements ← statements? fuel rest
      some (statement :: statements)

/-! ## Documents -/

/-- What has been defined, and the table that pairs belong to. -/
structure State where
  root : Members
  here : List String

/-- Carries out a statement. -/
def perform (state : State) (statement : Statement) : Option State :=
  match statement with
  | .pair keys value =>
    (Table.within (fun members => Table.define members keys value) state.root state.here).map
      fun root => ⟨root, state.here⟩
  | .table keys => (Table.openTable state.root keys).map fun root => ⟨root, keys⟩
  | .element keys => (Table.openElement state.root keys).map fun root => ⟨root, keys⟩

/-- The table that statements define. -/
def assemble (statements : List Statement) : Option Members :=
  (statements.foldlM perform ⟨[], []⟩).map State.root

/-- The text without the mark of its encoding at the front. -/
def unmarked (cs : List Char) : List Char :=
  match cs with
  | '\uFEFF' :: rest => rest
  | _ => cs

end Document

/-- The table that a text spells. -/
def read (text : String) : Except Error Members :=
  let cs := Document.unmarked text.toList
  match (Document.statements? cs.length cs).bind Document.assemble with
  | some members => .ok members
  | none => .error .malformed

end Toml

end GatewayDesk
