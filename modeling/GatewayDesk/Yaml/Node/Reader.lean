import GatewayDesk.Yaml.Node.Basic
import GatewayDesk.Yaml.Token.Reader

/-!
# The tree of a row of tokens

Each reader takes the tokens from where its part starts and gives the part and the tokens after it.
Where the tokens are faulty, or run out, it gives the part as far as it goes, with a cut at its end,
and the fault.
-/

namespace GatewayDesk

namespace Yaml

/-- A part of a document, and the tokens after it unless it ends in a fault. -/
structure Part (α : Type) where
  value : α
  rest : Except Fault (List Token)

namespace Part

/-- A part that ends in a fault. -/
def fail {α : Type} (value : α) (fault : Fault) : Part α := ⟨value, .error fault⟩

/-- A part and the one after it. -/
def andThen {α β γ : Type} (part : Part α) (cut : β) (next : List Token → Part β)
    (join : α → β → γ) : Part γ :=
  match part.rest with
  | .error fault => ⟨join part.value cut, .error fault⟩
  | .ok tokens =>
    let after := next tokens
    ⟨join part.value after.value, after.rest⟩

/-- A part under another view. -/
def map {α β : Type} (part : Part α) (f : α → β) : Part β := ⟨f part.value, part.rest⟩

end Part

namespace Node

/-- A tree whose aliases are names. -/
abbrev Named := Node String

/-- What holds for the nodes of one document: the fault at the end of the tokens, and the addresses
that tag handles stand for. -/
structure Setting where
  ended : Fault
  handles : List (String × Address)

/-- The anchor and the tag of a node. -/
structure Properties where
  anchor : Option String
  tag : Option (String × Address × Mark)

/-- The properties at the front of the tokens, in either order. -/
def properties (tokens : List Token) : Properties × List Token :=
  match tokens with
  | ⟨.anchor a, _⟩ :: ⟨.tag h r, m⟩ :: rest => (⟨some a, some (h, r, m)⟩, rest)
  | ⟨.tag h r, m⟩ :: ⟨.anchor a, _⟩ :: rest => (⟨some a, some (h, r, m)⟩, rest)
  | ⟨.anchor a, _⟩ :: rest => (⟨some a, none⟩, rest)
  | ⟨.tag h r, m⟩ :: rest => (⟨none, some (h, r, m)⟩, rest)
  | _ => (⟨none, none⟩, tokens)

/-- The full tag of a node that starts at a mark. -/
def fullTag (setting : Setting) (since : Mark) (tag : Option (String × Address × Mark)) :
    Except Fault (Option Address) :=
  match tag with
  | none => .ok none
  | some (handle, rest, mark) =>
    if handle.isEmpty then .ok (some rest)
    else
      match setting.handles.lookup handle with
      | some address => .ok (some (address ++ rest))
      | none => .error (.problem .undefinedHandle mark (some (.node, since)))

/-- Whether one of some signs is at the front. -/
def startsWith (signs : List Sign) (tokens : List Token) : Bool :=
  tokens.head?.any fun t => signs.contains t.sign

/-- The fault that another token should stand at the front. -/
def missing (setting : Setting) (what : Problem) (during : Option (Activity × Mark))
    (tokens : List Token) : Fault :=
  match tokens with
  | [] => setting.ended
  | t :: _ => .problem what t.mark during

mutual

/-- A node. Block collections stand only in blocks; `dashes` says that items may stand without a
collection around them. -/
def read (setting : Setting) (block dashes : Bool) (tokens : List Token) (fuel : Nat) :
    Part Named :=
  match fuel with
  | 0 => .fail .cut setting.ended
  | fuel + 1 =>
    match tokens with
    | [] => .fail .cut setting.ended
    | ⟨.alias name, mark⟩ :: rest => ⟨.alias mark name, .ok rest⟩
    | ⟨_, mark⟩ :: _ =>
      let (found, inside) := properties tokens
      if inside.isEmpty then .fail .cut setting.ended
      else
        match fullTag setting mark found.tag with
        | .error fault => .fail .cut fault
        | .ok tag =>
          let anchor := found.anchor
          match inside with
          | ⟨.scalar text style, _⟩ :: rest => ⟨.scalar mark anchor tag style text, .ok rest⟩
          | ⟨.flowSequence, since⟩ :: rest =>
            (flowItems setting since true rest fuel).map (.sequence mark anchor tag)
          | ⟨.flowMapping, since⟩ :: rest =>
            (flowMembers setting since true rest fuel).map (.mapping mark anchor tag)
          | ⟨.entry, _⟩ :: _ =>
            if dashes then (dashItems setting inside fuel).map (.sequence mark anchor tag)
            else other setting block found mark inside tag
          | ⟨.blockSequence, since⟩ :: rest =>
            if block then (blockItems setting since rest fuel).map (.sequence mark anchor tag)
            else other setting block found mark inside tag
          | ⟨.blockMapping, since⟩ :: rest =>
            if block then (blockMembers setting since rest fuel).map (.mapping mark anchor tag)
            else other setting block found mark inside tag
          | _ => other setting block found mark inside tag

/-- A node without content: an empty scalar if it has properties. -/
def other (setting : Setting) (block : Bool) (found : Properties) (mark : Mark)
    (tokens : List Token) (tag : Option Address) : Part Named :=
  if found.anchor.isSome || found.tag.isSome then
    ⟨.scalar mark found.anchor tag .plain "", .ok tokens⟩
  else
    let activity := if block then Activity.blockNode else .flowNode
    .fail .cut (missing setting .noContent (some (activity, mark)) tokens)

/-- A node, or an empty scalar before one of some signs. -/
def readUnless (setting : Setting) (signs : List Sign) (block dashes : Bool) (mark : Mark)
    (tokens : List Token) (fuel : Nat) : Part Named :=
  match fuel with
  | 0 => .fail .cut setting.ended
  | fuel + 1 =>
    if startsWith signs tokens then ⟨empty mark, .ok tokens⟩
    else read setting block dashes tokens fuel

/-- The items of a block sequence, and its end. -/
def blockItems (setting : Setting) (since : Mark) (tokens : List Token) (fuel : Nat) :
    Part (List Named) :=
  match fuel with
  | 0 => .fail [.cut] setting.ended
  | fuel + 1 =>
    match tokens with
    | ⟨.entry, mark⟩ :: rest =>
      (readUnless setting [.entry, .blockEnd] true false mark rest fuel).andThen []
        (fun tokens => blockItems setting since tokens fuel) (· :: ·)
    | ⟨.blockEnd, _⟩ :: rest => ⟨[], .ok rest⟩
    | _ => .fail [.cut] (missing setting .noDash (some (.blockSequence, since)) tokens)

/-- Items that stand without a collection around them. -/
def dashItems (setting : Setting) (tokens : List Token) (fuel : Nat) : Part (List Named) :=
  match fuel with
  | 0 => .fail [.cut] setting.ended
  | fuel + 1 =>
    match tokens with
    | [] => .fail [.cut] setting.ended
    | ⟨.entry, mark⟩ :: rest =>
      (readUnless setting [.entry, .key, .value, .blockEnd] true false mark rest fuel).andThen []
        (fun tokens => dashItems setting tokens fuel) (· :: ·)
    | _ => ⟨[], .ok tokens⟩

/-- The members of a block mapping, and its end. -/
def blockMembers (setting : Setting) (since : Mark) (tokens : List Token) (fuel : Nat) :
    Part (List (Named × Named)) :=
  match fuel with
  | 0 => .fail [(.cut, .cut)] setting.ended
  | fuel + 1 =>
    match tokens with
    | ⟨.key, mark⟩ :: rest =>
      let member := (readUnless setting [.key, .value, .blockEnd] true true mark rest fuel).andThen
        .cut (fun tokens => blockValue setting tokens fuel) Prod.mk
      member.andThen [] (fun tokens => blockMembers setting since tokens fuel) (· :: ·)
    | ⟨.blockEnd, _⟩ :: rest => ⟨[], .ok rest⟩
    | _ => .fail [(.cut, .cut)] (missing setting .noKey (some (.blockMapping, since)) tokens)

/-- The value of a member of a block mapping, maybe absent. -/
def blockValue (setting : Setting) (tokens : List Token) (fuel : Nat) : Part Named :=
  match fuel with
  | 0 => .fail .cut setting.ended
  | fuel + 1 =>
    match tokens with
    | [] => .fail .cut setting.ended
    | ⟨.value, mark⟩ :: rest =>
      readUnless setting [.key, .value, .blockEnd] true true mark rest fuel
    | ⟨_, mark⟩ :: _ => ⟨empty mark, .ok tokens⟩

/-- The items of a flow sequence, and its end. -/
def flowItems (setting : Setting) (since : Mark) (first : Bool) (tokens : List Token)
    (fuel : Nat) : Part (List Named) :=
  match fuel with
  | 0 => .fail [.cut] setting.ended
  | fuel + 1 =>
    if startsWith [.flowSequenceEnd] tokens then ⟨[], .ok (tokens.drop 1)⟩
    else if !first && !startsWith [.comma] tokens then
      .fail [.cut] (missing setting .noCommaInSequence (some (.flowSequence, since)) tokens)
    else
      let tokens := if first then tokens else tokens.drop 1
      match tokens with
      | [] => .fail [.cut] setting.ended
      | ⟨.flowSequenceEnd, _⟩ :: rest => ⟨[], .ok rest⟩
      | ⟨.key, mark⟩ :: rest =>
        (flowPair setting mark rest fuel).andThen []
          (fun tokens => flowItems setting since false tokens fuel) (· :: ·)
      | _ =>
        (read setting false false tokens fuel).andThen []
          (fun tokens => flowItems setting since false tokens fuel) (· :: ·)

/-- An item of a flow sequence that is a mapping of one member without braces. An absent key takes
the place of the sign that stands there. -/
def flowPair (setting : Setting) (mark : Mark) (tokens : List Token) (fuel : Nat) : Part Named :=
  match fuel with
  | 0 => .fail .cut setting.ended
  | fuel + 1 =>
    let key : Part Named :=
      if startsWith [.value, .comma, .flowSequenceEnd] tokens then
        ⟨empty mark, .ok (tokens.drop 1)⟩
      else read setting false false tokens fuel
    (key.andThen .cut (fun tokens => flowValue setting .flowSequenceEnd tokens fuel)
      Prod.mk).map fun member => .mapping mark none none [member]

/-- The value of a member of a flow collection, maybe absent. -/
def flowValue (setting : Setting) (close : Sign) (tokens : List Token) (fuel : Nat) :
    Part Named :=
  match fuel with
  | 0 => .fail .cut setting.ended
  | fuel + 1 =>
    match tokens with
    | [] => .fail .cut setting.ended
    | ⟨.value, mark⟩ :: rest => readUnless setting [.comma, close] false false mark rest fuel
    | ⟨_, mark⟩ :: _ => ⟨empty mark, .ok tokens⟩

/-- The members of a flow mapping, and its end. -/
def flowMembers (setting : Setting) (since : Mark) (first : Bool) (tokens : List Token)
    (fuel : Nat) : Part (List (Named × Named)) :=
  match fuel with
  | 0 => .fail [(.cut, .cut)] setting.ended
  | fuel + 1 =>
    if startsWith [.flowMappingEnd] tokens then ⟨[], .ok (tokens.drop 1)⟩
    else if !first && !startsWith [.comma] tokens then
      .fail [(.cut, .cut)]
        (missing setting .noCommaInMapping (some (.flowMapping, since)) tokens)
    else
      let tokens := if first then tokens else tokens.drop 1
      match tokens with
      | [] => .fail [(.cut, .cut)] setting.ended
      | ⟨.flowMappingEnd, _⟩ :: rest => ⟨[], .ok rest⟩
      | ⟨.key, mark⟩ :: rest =>
        let member :=
          (readUnless setting [.value, .comma, .flowMappingEnd] false false mark rest fuel).andThen
            .cut (fun tokens => flowValue setting .flowMappingEnd tokens fuel) Prod.mk
        member.andThen [] (fun tokens => flowMembers setting since false tokens fuel) (· :: ·)
      | _ =>
        let member := (read setting false false tokens fuel).andThen .cut
          (fun tokens =>
            match tokens with
            | [] => .fail .cut setting.ended
            | ⟨_, mark⟩ :: _ => ⟨empty mark, .ok tokens⟩) Prod.mk
        member.andThen [] (fun tokens => flowMembers setting since false tokens fuel) (· :: ·)

end

end Node

end Yaml

end GatewayDesk
