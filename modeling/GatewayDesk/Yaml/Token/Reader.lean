import GatewayDesk.Yaml.Token.Property
import GatewayDesk.Yaml.Token.Scalar

/-!
# The tokens of a text

The reader takes one token after another and remembers two things: how far the open block
collections are indented, and where a key may have started that only a later colon reveals. When the
colon comes, a key token, and the start of a block mapping if one starts, go before the tokens of
the key. A token is settled when no key can start at it or before it any more; where the text turns
out to be faulty, the tokens settled so far are all that counts.
-/

namespace GatewayDesk

namespace Yaml

namespace Tokens

/-- A place where a key may have started. -/
structure Candidate where
  /-- How many tokens are before it. -/
  position : Nat
  mark : Mark
  /-- Whether only a key can stand there. -/
  required : Bool

/-- What is known between two tokens. -/
structure State where
  row : Row
  /-- The tokens so far, the last first. -/
  tokens : List Token
  /-- How many tokens there are. -/
  count : Nat
  /-- The columns of the open block collections, the innermost first. -/
  columns : List Nat
  /-- Where the key of the block or of each open flow collection may have started, the innermost
  first. -/
  candidates : List (Option Candidate)
  /-- Whether a key may start here. -/
  keyAllowed : Bool

namespace State

/-- Whether a flow collection is open. -/
def inFlow (s : State) : Bool := 1 < s.candidates.length

/-- The column of the innermost open block collection. -/
def column? (s : State) : Option Nat := s.columns.head?

/-- The mark at the front. -/
def mark (s : State) : Mark := Row.mark s.row

/-- A problem at the front. -/
def fail (s : State) (what : Problem) : Except Fault State :=
  .error (.problem what s.mark none)

/-- Puts a token at the end. -/
def push (s : State) (sign : Sign) (mark : Mark) : State :=
  { s with tokens := ⟨sign, mark⟩ :: s.tokens, count := s.count + 1 }

/-- Puts a token after the first `position` tokens. -/
def insert (s : State) (position : Nat) (sign : Sign) (mark : Mark) : State :=
  let behind := s.count - position
  { s with
    tokens := s.tokens.take behind ++ ⟨sign, mark⟩ :: s.tokens.drop behind
    count := s.count + 1 }

/-- Takes `length` glyphs as a token. -/
def take (s : State) (length : Nat) (sign : Sign) : State :=
  { s.push sign s.mark with row := s.row.drop length }

/-! ## Indentation -/

/-- Opens a block collection before the token at `position` if the column is further right than
that of the innermost one. -/
def indent (s : State) (column position : Nat) (sign : Sign) (mark : Mark) : State :=
  if !s.inFlow && s.column?.all (· < column) then
    { s.insert position sign mark with columns := column :: s.columns }
  else s

/-- Closes the block collections that are further right than a column, all without one. -/
def dedent (s : State) (column : Option Nat) : State :=
  if s.inFlow then s
  else
    let closed := s.columns.takeWhile fun c => column.all (· < c)
    let s' := closed.foldl (fun s _ => s.push .blockEnd s.mark) s
    { s' with columns := s.columns.drop closed.length }

/-! ## Keys -/

/-- Gives up the place of the innermost collection where a key may have started. -/
def dropCandidate (s : State) : Except Fault State :=
  match s.candidates with
  | some c :: rest =>
    if c.required then .error (.problem .noColon s.mark (some (.simpleKey, c.mark)))
    else .ok { s with candidates := none :: rest }
  | _ => .ok s

/-- Notes that a key may start here. -/
def addCandidate (s : State) : Except Fault State :=
  if s.keyAllowed then do
    let s ← s.dropCandidate
    let required := !s.inFlow && s.column? == some s.mark.column
    return { s with candidates := some ⟨s.count, s.mark, required⟩ :: s.candidates.drop 1 }
  else .ok s

/-- A place where a key may have started, if it is still near enough: on the same line and at most
1024 bytes ago. -/
def fresh? (here : Mark) : Option Candidate → Except Fault (Option Candidate)
  | none => .ok none
  | some c =>
    if c.mark.line < here.line || c.mark.index + 1024 < here.index then
      if c.required then .error (.problem .noColon here (some (.simpleKey, c.mark)))
      else .ok none
    else .ok (some c)

/-- Gives up the places that are too far away, the outermost first. -/
def refresh (s : State) : Except Fault State := do
  let candidates ← s.candidates.reverse.mapM (fresh? s.mark)
  return { s with candidates := candidates.reverse }

/-- How many tokens are settled. -/
def settled (s : State) : Nat :=
  s.candidates.foldl (fun n c => c.elim n fun c => min n c.position) s.count

/-! ## Between tokens -/

/-- Whether a glyph before the next token is passed over: a space, or a tab where no key of a block
may start. -/
def isPadding (s : State) (g : Glyph) : Bool :=
  g.char == ' ' || (g.char == '\t' && (s.inFlow || !s.keyAllowed))

/-- Passes over spaces, comments and line breaks; `comment` says that a comment is open. After a
line break of a block a key may start. -/
def skip (s : State) (row : Row) (comment : Bool) : State :=
  match row with
  | [] => { s with row := [] }
  | g :: rest =>
    if g.isBreak then skip (if s.inFlow then s else { s with keyAllowed := true }) rest false
    else if g.isEnd then { s with row := row }
    else if comment then skip s rest true
    else if g.mark.column == 0 && g.char == '\uFEFF' then skip s rest false
    else if s.isPadding g then skip s rest false
    else if g.char == '#' then skip s rest true
    else { s with row := row }

/-! ## Single tokens -/

/-- Ends the tokens. -/
def finish (s : State) : Except Fault State := do
  let here := s.mark
  let here : Mark := if here.column == 0 then here else ⟨here.index, here.line + 1, 0⟩
  let row : Row := [⟨'\x00', here⟩]
  let s ← ({ s with row := row }.dedent none).dropCandidate
  return { s.push .streamEnd here with keyAllowed := false }

/-- A directive. -/
def directive (s : State) : Except Fault State := do
  let s ← (s.dedent none).dropCandidate
  let (sign, rest) ← Property.directive s.row
  return { s.push sign s.mark with row := rest, keyAllowed := false }

/-- A rule that starts or ends a document. -/
def rule (s : State) (sign : Sign) : Except Fault State := do
  let s ← (s.dedent none).dropCandidate
  return { s.take 3 sign with keyAllowed := false }

/-- The start of a flow collection. -/
def openFlow (s : State) (sign : Sign) : Except Fault State := do
  let s ← s.addCandidate
  return { s.take 1 sign with candidates := none :: s.candidates, keyAllowed := true }

/-- The end of a flow collection. -/
def closeFlow (s : State) (sign : Sign) : Except Fault State := do
  let s ← s.dropCandidate
  let candidates := if s.inFlow then s.candidates.drop 1 else s.candidates
  return { s.take 1 sign with candidates, keyAllowed := false }

/-- A comma. -/
def comma (s : State) : Except Fault State := do
  let s ← s.dropCandidate
  return { s.take 1 .comma with keyAllowed := true }

/-- The dash of an item. -/
def entry (s : State) : Except Fault State := do
  if !s.inFlow && !s.keyAllowed then s.fail .entryNotAllowed
  else
    let s ← (s.indent s.mark.column s.count .blockSequence s.mark).dropCandidate
    return { s.take 1 .entry with keyAllowed := true }

/-- The question mark of a key. -/
def key (s : State) : Except Fault State := do
  if !s.inFlow && !s.keyAllowed then s.fail .keyNotAllowed
  else
    let s ← (s.indent s.mark.column s.count .blockMapping s.mark).dropCandidate
    return { s.take 1 .key with keyAllowed := !s.inFlow }

/-- The colon of a value. -/
def value (s : State) : Except Fault State :=
  match s.candidates with
  | some c :: rest =>
    let s := s.insert c.position .key c.mark
    let s := s.indent c.mark.column c.position .blockMapping c.mark
    .ok { s.take 1 .value with candidates := none :: rest, keyAllowed := false }
  | _ =>
    if !s.inFlow && !s.keyAllowed then s.fail .valueNotAllowed
    else
      let s := s.indent s.mark.column s.count .blockMapping s.mark
      .ok { s.take 1 .value with keyAllowed := !s.inFlow }

/-- A part that a key may start with. -/
def part (s : State) (read : Row → Except Fault (Sign × Row)) : Except Fault State := do
  let s ← s.addCandidate
  let (sign, rest) ← read s.row
  return { s.push sign s.mark with row := rest, keyAllowed := false }

/-- A block scalar. -/
def block (s : State) (folded : Bool) : Except Fault State := do
  let s ← s.dropCandidate
  let (text, rest) ← Scalar.block folded s.column? s.row
  let s := s.push (.scalar (String.ofList text) .block) s.mark
  return { s with row := rest, keyAllowed := true }

/-- A quoted scalar. -/
def quoted (s : State) (double : Bool) : Except Fault State :=
  s.part fun row => do
    let (text, rest) ← Scalar.quoted double (Row.mark row) (row.drop 1) 0 [] Scalar.Gap.none
    return (.scalar (String.ofList text) .quoted, rest)

/-- A plain scalar. After a line break a key may start. -/
def plain (s : State) : Except Fault State := do
  let s ← s.addCandidate
  let indent := s.column?.elim 0 (· + 1)
  let scalar ← Scalar.plain s.inFlow indent s.mark s.row [] Scalar.Gap.none
  return { s.push (.scalar (String.ofList scalar.text) .plain) s.mark with
    row := scalar.rest, keyAllowed := scalar.broken }

/-- Whether a plain scalar may start here. -/
def startsPlain (s : State) : Bool :=
  match s.row with
  | [] => false
  | g :: rest =>
    let special := ['-', '?', ':', ',', '[', ']', '\x7b', '\x7d', '#', '&', '*', '!', '|', '>',
      '\'', '"', '%', '@', '\x60']
    !(g.separates || special.contains g.char) ||
    (g.char == '-' && !rest.head?.any Glyph.isSpace) ||
    (!s.inFlow && (g.char == '?' || g.char == ':') && !Row.separates rest)

/-- The token at the front. -/
def token (s : State) : Except Fault State :=
  let alone := Row.separates (s.row.drop 1)
  match Row.char s.row with
  | '\x00' => s.finish
  | c =>
    if s.mark.column == 0 && c == '%' then s.directive
    else if Row.isRule '-' s.row then s.rule .documentStart
    else if Row.isRule '.' s.row then s.rule .documentEnd
    else if c == '[' then s.openFlow .flowSequence
    else if c == '\x7b' then s.openFlow .flowMapping
    else if c == ']' then s.closeFlow .flowSequenceEnd
    else if c == '\x7d' then s.closeFlow .flowMappingEnd
    else if c == ',' then s.comma
    else if c == '-' && alone then s.entry
    else if c == '?' && (s.inFlow || alone) then s.key
    else if c == ':' && (s.inFlow || alone) then s.value
    else if c == '*' then s.part (Property.reference .alias .alias)
    else if c == '&' then s.part (Property.reference .anchor .anchor)
    else if c == '!' then s.part (Property.tag s.inFlow)
    else if c == '|' && !s.inFlow then s.block false
    else if c == '>' && !s.inFlow then s.block true
    else if c == '\'' then s.quoted false
    else if c == '"' then s.quoted true
    else if s.startsPlain then s.plain
    else .error (.problem .noToken s.mark (some (.nextToken, s.mark)))

/-- One more token, and what goes before it. -/
def step (s : State) : Except Fault State := do
  let s ← (s.skip s.row false).refresh
  (s.dedent (some s.mark.column)).token

end State

/-- Tokens, and the fault that ends them if there is one. -/
structure Result where
  tokens : List Token
  fault : Option Fault

/-- The tokens from a state on, of which `settled` have been settled before; `fuel` bounds the
number of steps. -/
def run (s : State) (settled : Nat) (fuel : Nat) : Result :=
  let stop (tokens : List Token) (settled : Nat) (fault : Fault) : Result :=
    ⟨(tokens.reverse).take settled, some fault⟩
  match fuel with
  | 0 => ⟨s.tokens.reverse, none⟩
  | fuel + 1 =>
    match s.refresh with
    | .error fault => stop s.tokens settled fault
    | .ok s =>
      match s.step with
      | .error fault => stop s.tokens s.settled fault
      | .ok next =>
        match next.tokens with
        | ⟨.streamEnd, _⟩ :: _ => ⟨next.tokens.reverse, none⟩
        | _ => run next s.settled fuel

/-- The tokens of a text. -/
def ofText (text : List Char) : Result :=
  match strayOffset? text 0 with
  | some offset => ⟨[], some (.stray offset)⟩
  | none =>
    let row := rowOf text
    run ⟨row, [], 0, [], [none], true⟩ 0 (row.length + 1)

end Tokens

end Yaml

end GatewayDesk
