import GatewayDesk.Numeric.DecimalText
import GatewayDesk.Text.Letters

/-!
# Patterns of values

The value that a field must have is a number or a pattern, a regular expression. Nothing here
matches a pattern; a reader only has to know whether a text is one. As a pattern stands in braces
itself it has no closing brace, so that counted repetitions are never closed and an open brace
outside a class of characters is always a fault.

A pattern may not ask for the borders of words, which its automaton cannot see.
-/

namespace GatewayDesk

namespace Log

namespace Pattern

/-! ## Escapes -/

/-- What a backslash and the characters after it stand for. -/
inductive Escaped where
  | literal (code : Nat)
  | set
  | anchor
  deriving DecidableEq, Repr

/-- The character of a code point with `count` digits of base sixteen. -/
def code? (count : Nat) (cs : List Char) : Option (Escaped × List Char) := do
  let digits := cs.take count
  let n ← Digits.ofDigits? 16 digits
  if digits.length = count && n.isValidChar then some (.literal n, cs.drop count) else none

/-- The codes of the letters that stand for controls. -/
def controls : List (Char × Nat) :=
  [('a', 7), ('f', 12), ('t', 9), ('n', 10), ('r', 13), ('v', 11)]

/-- What stands after a backslash. -/
def escaped? : List Char → Option (Escaped × List Char)
  | [] => none
  | 'x' :: rest => code? 2 rest
  | 'u' :: rest => code? 4 rest
  | 'U' :: rest => code? 8 rest
  | c :: rest =>
    if c == 'p' || c == 'P' then
      match rest with
      | k :: rest =>
        if ['l', 'm', 'n', 'p', 's', 'z', 'c'].contains k.toLower then some (.set, rest) else none
      | [] => none
    else if ['d', 's', 'w', 'D', 'S', 'W'].contains c then some (.set, rest)
    else if c == 'A' || c == 'z' then some (.anchor, rest)
    else
      match controls.lookup c with
      | some n => some (.literal n, rest)
      | none =>
        if 0x80 ≤ c.toNat || c.isAlphanum || c == '<' || c == '>' then none
        else some (.literal c.toNat, rest)

/-! ## Classes of characters -/

/-- The names of classes. -/
def classNames : List String :=
  ["alnum", "alpha", "ascii", "blank", "cntrl", "digit", "graph", "lower", "print", "punct",
    "space", "upper", "word", "xdigit"]

/-- The text after the name of a class, if the name of one stands after a bracket and a colon. -/
def afterName? (cs : List Char) : Option (List Char) :=
  match cs with
  | ':' :: rest =>
    let rest := if rest.head? == some '^' then rest.drop 1 else rest
    let name := rest.takeWhile (· != ':')
    match rest.dropWhile (· != ':') with
    | ':' :: ']' :: rest => if classNames.contains (String.ofList name) then some rest else none
    | _ => none
  | _ => none

/-- A member of a class. -/
def member? : List Char → Option (Escaped × List Char)
  | [] => none
  | '\\' :: rest => escaped? rest
  | c :: rest => some (.literal c.toNat, rest)

/-- The text after a member of a class, or after a range of them. -/
def afterMember? (cs : List Char) : Option (List Char) := do
  let (first, rest) ← member? cs
  let single := if first == .anchor then none else some rest
  match rest with
  | [] => none
  | ['-'] => none
  | '-' :: ']' :: _ => single
  | '-' :: '-' :: _ => single
  | '-' :: rest =>
    match first, ← member? rest with
    | .literal a, (.literal b, rest) => if a ≤ b then some rest else none
    | _, _ => none
  | _ => single

/-- The text after the bracket that opens a class, the sign that turns the class around, and the
dashes and the closing bracket that are its first members. -/
def afterOpening (cs : List Char) : List Char :=
  let inside := if cs.head? == some '^' then cs.drop 1 else cs
  let rest := inside.dropWhile (· == '-')
  if rest.length = inside.length && rest.head? == some ']' then rest.drop 1 else rest

/-- The text after the members of a class, of which `depth` more are open around it. -/
def afterClass? (fuel depth : Nat) (cs : List Char) : Option (List Char) :=
  match fuel, cs with
  | 0, _ => none
  | _, [] => none
  | fuel + 1, '[' :: rest =>
    match afterName? rest with
    | some rest => afterClass? fuel depth rest
    | none => afterClass? fuel (depth + 1) (afterOpening rest)
  | fuel + 1, ']' :: rest =>
    match depth with
    | 0 => some rest
    | depth + 1 => afterClass? fuel depth rest
  | fuel + 1, '&' :: '&' :: rest => afterClass? fuel depth rest
  | fuel + 1, '-' :: '-' :: rest => afterClass? fuel depth rest
  | fuel + 1, '~' :: '~' :: rest => afterClass? fuel depth rest
  | fuel + 1, cs => do afterClass? fuel depth (← afterMember? cs)

/-! ## Groups -/

/-- What opens a group. -/
inductive Opening where
  | group
  | named (name : List Char)
  /-- No group, but flags for the rest of the group around. -/
  | flags
  deriving DecidableEq, Repr

/-- Whether a character may stand in the name of a group. -/
def isNameChar (first : Bool) (c : Char) : Bool :=
  if first then c == '_' || (Char.isLetterOrNumber c && !c.isDigit)
  else c == '_' || c == '.' || c == '[' || c == ']' || Char.isLetterOrNumber c

/-- The name of a group. -/
def name? (cs : List Char) : Option (Opening × List Char) :=
  let name := cs.takeWhile (· != '>')
  match name, cs.dropWhile (· != '>') with
  | c :: more, _ :: rest =>
    if isNameChar true c && more.all (isNameChar false) then some (.named name, rest) else none
  | _, _ => none

/-- The flags of a group or of the rest of a group. -/
def flags? (cs : List Char) : Option (Opening × List Char) :=
  let isEnd (c : Char) : Bool := c == ':' || c == ')'
  let flags := cs.takeWhile (!isEnd ·)
  let known := ['i', 'm', 's', 'U', 'u', 'R', 'x', '-']
  if flags.all known.contains && flags.eraseDups == flags && flags.getLast? != some '-' then
    match cs.dropWhile (!isEnd ·) with
    | ':' :: rest => some (.group, rest)
    | ')' :: rest => if flags.isEmpty then none else some (.flags, rest)
    | _ => none
  else none

/-- What stands after an opening parenthesis. -/
def opening? : List Char → Option (Opening × List Char)
  | '?' :: 'P' :: '<' :: rest => name? rest
  | '?' :: '<' :: rest => name? rest
  | '?' :: rest => flags? rest
  | cs => some (.group, cs)

/-! ## Patterns -/

/-- Whether a text is a pattern, or the rest of one: `depth` groups are open, groups have these
names, and what stands before may be repeated or not. -/
def holds (fuel depth : Nat) (names : List (List Char)) (repeatable : Bool) (cs : List Char) :
    Bool :=
  match fuel, cs with
  | 0, _ => false
  | _, [] => depth == 0
  | fuel + 1, '(' :: rest =>
    match opening? rest with
    | some (.group, rest) => holds fuel (depth + 1) names false rest
    | some (.named name, rest) =>
      !names.contains name && holds fuel (depth + 1) (name :: names) false rest
    | some (.flags, rest) => holds fuel depth names false rest
    | none => false
  | fuel + 1, ')' :: rest => depth != 0 && holds fuel (depth - 1) names true rest
  | fuel + 1, '|' :: rest => holds fuel depth names false rest
  | fuel + 1, '[' :: rest =>
    match afterClass? rest.length.succ 0 (afterOpening rest) with
    | some rest => holds fuel depth names true rest
    | none => false
  | fuel + 1, '\\' :: rest =>
    match escaped? rest with
    | some (_, rest) => holds fuel depth names true rest
    | none => false
  | fuel + 1, c :: rest =>
    if c == '*' || c == '+' || c == '?' then
      let rest := if rest.head? == some '?' then rest.drop 1 else rest
      repeatable && holds fuel depth names true rest
    else c != '\x7b' && holds fuel depth names true rest

/-- Whether a text is a number after a plus sign. -/
def isRaisedNumber (cs : List Char) : Bool :=
  match cs with
  | '+' :: rest =>
    let word := String.ofList (rest.map Char.toLower)
    ["inf", "infinity", "nan"].contains word ||
      (rest.head?.any (fun c => c != '-' && c != '+') && (DecimalText.read? rest).isSome)
  | _ => false

/-- Whether a text is a value: a number or a pattern. -/
def isValue (text : String) : Bool :=
  let cs := text.toList
  isRaisedNumber cs || holds cs.length.succ 0 [] false cs

end Pattern

end Log

end GatewayDesk
