import GatewayDesk.Log.Filter
import GatewayDesk.Log.Pattern
import GatewayDesk.Numeric.Digits
import GatewayDesk.Text.Blank
import GatewayDesk.Text.Letters
import GatewayDesk.Text.Utf8

/-!
# Texts of filters

A filter is written as directives with commas between them. A directive is a level, the start of the
name of a part of the program, or such a text and a level after the sign `=`. Between the text and
the level may stand, in square brackets, the name of a span of time and, in braces, a field and
maybe a value that it must have: `part[span{field=value}]=level`. No span is ever open here
and only spans are asked for values, so that a directive about either is read and gives no rule.

A directive may have blanks around it, but they belong to its parts: the places of its signs are
counted from the first character that is no blank, and the parts between them are cut out of the
text as it stands. A directive after a blank is therefore rarely what it seems.
-/

namespace GatewayDesk

namespace Log

/-! ## Levels -/

/-- The levels by name. -/
def levelNames : List (String × Option Level) :=
  [("off", none), ("error", some .error), ("warn", some .warn), ("info", some .info),
    ("debug", some .debug), ("trace", some .trace)]

/-- The level that a number stands for. -/
def levelOfNumber? (n : Nat) : Option (Option Level) := (levelNames[n]?).map Prod.snd

/-- The number that a text spells, maybe after a plus sign. -/
def number? (cs : List Char) : Option Nat :=
  let digits := if cs.head? = some '+' then cs.tail else cs
  if digits.isEmpty then none else Digits.ofDigits? 10 digits

/-- The level that a text names, by a word in any case or by a number. -/
def level? (text : String) : Option (Option Level) :=
  let word := String.ofList (text.toList.map Char.toLower)
  (levelNames.lookup word).or <| (number? text.toList).bind levelOfNumber?

/-- The level that stands after the sign `=`; an empty text tells all. -/
def levelAfter? (text : String) : Option (Option Level) :=
  if text.isEmpty then some (some .trace) else level? text

/-! ## Directives -/

namespace Directive

/-- What a directive says. -/
structure Draft where
  source : Option String
  ofSpan : Bool
  field : Option String
  /-- Whether the field must have a value. -/
  ofValue : Bool
  level : Option Level
  deriving DecidableEq, Repr

/-- A directive that says nothing yet. -/
def Draft.empty : Draft := ⟨none, false, none, false, some .trace⟩

/-- The part of a directive that a reader is in, and the place where the part starts. -/
inductive Stage where
  | head (start : Nat)
  | span (start : Nat)
  | field (start : Nat)
  | afterField
  | afterSpan
  | level (start : Nat)
  deriving DecidableEq, Repr

/-- What stands between two places of a text, if that is text. -/
def cut (text : List UInt8) (start stop : Nat) : Option String :=
  (Utf8.decode ⟨((text.take stop).drop start).toArray⟩).toOption

/-- The draft with a field, which has a name and maybe a value after the sign `=`. -/
def Draft.withField? (draft : Draft) (text : String) : Option Draft :=
  match text.splitOn "=" with
  | name :: value :: _ =>
    if Pattern.isValue value then some { draft with field := some name, ofValue := true } else none
  | _ => if text.isEmpty then none else some { draft with field := some text }

/-- The stage after the first character. -/
def start? (c : Char) : Option Stage :=
  if c == '[' then some (.span 1)
  else if c == '-' || c == ':' || c == '_' || Char.isLetterOrNumber c then some (.head 0)
  else none

/-- The draft and the stage after a character at a place of a text. -/
def step (text : List UInt8) (draft : Draft) (stage : Stage) (place : Nat) (c : Char) :
    Option (Draft × Stage) :=
  match stage with
  | .head start =>
    if c == '=' then do
      some ({ draft with source := some (← cut text start place) }, .level (place + 1))
    else if c == '[' then do
      some ({ draft with source := some (← cut text start place) }, .span (place + 1))
    else some (draft, stage)
  | .span start =>
    if c == ']' then some ({ draft with ofSpan := true }, .afterSpan)
    else if c == '\x7b' then
      some ({ draft with ofSpan := draft.ofSpan || start < place }, .field (place + 1))
    else some (draft, stage)
  | .field start =>
    if c == '\x7d' then do
      let text ← cut text start place
      some (← draft.withField? text, .afterField)
    else some (draft, stage)
  | .afterField => if c == ']' then some (draft, .afterSpan) else none
  | .afterSpan => if c == '=' then some (draft, .level (place + 1)) else none
  | .level _ => some (draft, stage)

/-- The draft and the stage after several characters from a place on. -/
def run (text : List UInt8) (draft : Draft) (stage : Stage) (place : Nat) :
    List Char → Option (Draft × Stage)
  | [] => some (draft, stage)
  | c :: rest => do
    let (draft, stage) ← step text draft stage place c
    run text draft stage (place + c.utf8Size) rest

/-- The draft at the end of a text, in a stage. -/
def finish (text : List UInt8) (draft : Draft) (stage : Stage) : Option Draft :=
  match stage with
  | .head start => do
    let word ← cut text start text.length
    match level? word with
    | some level => some { draft with level }
    | none => some { draft with source := some word }
  | .level start => do
    let level ← levelAfter? (← cut text start text.length)
    some { draft with level }
  | .afterSpan => some draft
  | _ => none

/-- Reads a directive. -/
def read? (piece : List Char) : Option Draft :=
  match Text.trim piece with
  | [] => none
  | c :: rest => do
    let text := Utf8.encode piece
    let (draft, stage) ← run text .empty (← start? c) c.utf8Size rest
    finish text draft stage

/-- The rule of a directive; one about spans, or about values of fields, has none. -/
def Draft.rule? (draft : Draft) : Option Rule :=
  if draft.ofSpan || draft.ofValue then none else some ⟨draft.source, draft.field, draft.level⟩

end Directive

/-! ## Filters -/

namespace Filter

/-- The pieces of a text between commas, without the empty ones. -/
def pieces (text : String) : List (List Char) :=
  ((text.splitOn ",").filter (· != "")).map String.toList

/-- The filter that a text spells; a text without directives lets errors through. -/
def read? (text : String) : Option Filter :=
  match pieces text with
  | [] => some (always .error)
  | found => (found.mapM Directive.read?).map (List.filterMap Directive.Draft.rule?)

/-- The filter of a setting. Where it is missing or spells no filter, warnings are told. -/
def ofSetting (setting : Option String) : Filter :=
  (setting.bind read?).getD (always .warn)

end Filter

end Log

end GatewayDesk
