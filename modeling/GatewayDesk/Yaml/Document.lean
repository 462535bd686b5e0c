import GatewayDesk.Yaml.Node.Reader

/-!
# Documents

The first document of a text: its tree, the nodes that aliases stand for, and the fault that ends it
if there is one. An anchor is numbered by how many names there are before it, and an alias stands
for the node whose anchor has the number of its name; where anchors share a number, the last one
counts.
-/

namespace GatewayDesk

namespace Yaml

/-- A tree whose aliases are numbers. -/
abbrev Numbered := Node Nat

/-! ## Aliases -/

namespace Anchors

/-- The names of anchors with their numbers. -/
abbrev Names := List (String × Nat)

/-- The names with one more anchor. -/
def add (names : Names) (name : String) : Names :=
  (name, names.length) :: names.filter fun n => n.1 != name

/-- What becomes of a part of a tree when its aliases get numbers. -/
structure Resolved (α : Type) where
  value : α
  names : Names
  /-- The numbers of the anchors and their nodes, in the order in which the nodes start. -/
  anchored : List (Nat × Numbered)
  fault : Option Fault

/-- A node with its own anchor. -/
def close (names : Names) (anchor : Option String) (inside : Resolved Numbered) :
    Resolved Numbered :=
  match anchor with
  | none => inside
  | some _ => { inside with anchored := (names.length, inside.value) :: inside.anchored }

/-- The names inside a node with an anchor. -/
def inside (names : Names) (anchor : Option String) : Names :=
  anchor.elim names (add names)

/-- The number of a name whose anchor's names are `names`: the anchors before it count. -/
def number? (names : Names) (name : String) : Option Nat := names.lookup name

mutual

/-- A tree with numbers for names, cut where a name has no anchor. -/
def resolve (names : Names) : Node.Named → Resolved Numbered
  | .scalar mark anchor tag style text =>
    close names anchor ⟨.scalar mark anchor tag style text, inside names anchor, [], none⟩
  | .sequence mark anchor tag items =>
    let r := resolveItems (inside names anchor) items
    close names anchor ⟨.sequence mark anchor tag r.value, r.names, r.anchored, r.fault⟩
  | .mapping mark anchor tag members =>
    let r := resolveMembers (inside names anchor) members
    close names anchor ⟨.mapping mark anchor tag r.value, r.names, r.anchored, r.fault⟩
  | .alias mark name =>
    match number? names name with
    | some n => ⟨.alias mark n, names, [], none⟩
    | none => ⟨.cut, names, [], some (.unknownAnchor mark)⟩
  | .cut => ⟨.cut, names, [], none⟩

/-- Several trees with numbers for names. -/
def resolveItems (names : Names) : List Node.Named → Resolved (List Numbered)
  | [] => ⟨[], names, [], none⟩
  | item :: rest =>
    let a := resolve names item
    if a.fault.isSome then ⟨[a.value], a.names, a.anchored, a.fault⟩
    else
      let b := resolveItems a.names rest
      ⟨a.value :: b.value, b.names, a.anchored ++ b.anchored, b.fault⟩

/-- Keys and values with numbers for names. -/
def resolveMembers (names : Names) :
    List (Node.Named × Node.Named) → Resolved (List (Numbered × Numbered))
  | [] => ⟨[], names, [], none⟩
  | (key, value) :: rest =>
    let a := resolve names key
    if a.fault.isSome then ⟨[(a.value, .cut)], a.names, a.anchored, a.fault⟩
    else
      let b := resolve a.names value
      if b.fault.isSome then ⟨[(a.value, b.value)], b.names, a.anchored ++ b.anchored, b.fault⟩
      else
        let c := resolveMembers b.names rest
        ⟨(a.value, b.value) :: c.value, c.names, a.anchored ++ b.anchored ++ c.anchored, c.fault⟩

end

end Anchors

/-! ## Documents -/

/-- The first document of a text. -/
structure Document where
  root : Numbered
  /-- The nodes that aliases stand for, by number. -/
  anchored : List (Nat × Numbered)
  /-- The fault that ends the document, if there is one. -/
  fault : Option Fault
  /-- Whether another document follows. -/
  more : Bool

namespace Document

/-- The node of a number. -/
def target? (document : Document) (number : Nat) : Option Numbered :=
  document.anchored.reverse.lookup number

/-- How many aliases may be followed in all. -/
def aliasLimit (document : Document) : Nat := document.root.size * 100

/-- The tag handles that need no directive. -/
def commonHandles : List (String × Address) :=
  [("!", Utf8.encode ['!']), ("!!", Utf8.encode "tag:yaml.org,2002:".toList)]

/-- The tag handles of the directives at the front, and the tokens after them; `version` says that a
version has been named. -/
def directives (ended : Fault) (version : Bool) (handles : List (String × Address)) :
    List Token → Except Fault (List (String × Address) × List Token)
  | [] => .error ended
  | ⟨.version major minor, mark⟩ :: rest =>
    if version then .error (.problem .secondVersion mark none)
    else if major == 1 && (minor == 1 || minor == 2) then directives ended true handles rest
    else .error (.problem .otherVersion mark none)
  | ⟨.handle name address, mark⟩ :: rest =>
    if (handles.lookup name).isSome then .error (.problem .secondHandle mark none)
    else directives ended version (handles ++ [(name, address)]) rest
  | tokens => .ok (handles ++ commonHandles, tokens)

/-- The tree of a document that starts without a rule. -/
def bare (ended : Fault) (tokens : List Token) : Part Node.Named :=
  Node.read ⟨ended, commonHandles⟩ true false tokens (4 * tokens.length + 4)

/-- The tree of a document that starts with a rule. -/
def ruled (ended : Fault) (tokens : List Token) : Part Node.Named :=
  match directives ended false [] tokens with
  | .error fault => .fail .cut fault
  | .ok (handles, ⟨.documentStart, _⟩ :: rest) =>
    match rest with
    | [] => .fail .cut ended
    | ⟨sign, mark⟩ :: _ =>
      match sign with
      | .version _ _ | .handle _ _ | .documentStart | .documentEnd | .streamEnd =>
        ⟨.empty mark, .ok rest⟩
      | _ => Node.read ⟨ended, handles⟩ true false rest (4 * rest.length + 4)
  | .ok (_, tokens) =>
    .fail .cut (Node.missing ⟨ended, []⟩ .noDocumentStart none tokens)

/-- The tree of the first document and the tokens after it; a text without one has an empty
scalar. -/
def tree (ended : Fault) (tokens : List Token) : Part Node.Named :=
  match tokens with
  | [] => .fail .cut ended
  | ⟨sign, mark⟩ :: _ =>
    match sign with
    | .streamEnd => ⟨.empty mark, .ok tokens⟩
    | .version _ _ | .handle _ _ | .documentStart => ruled ended tokens
    | _ => bare ended tokens

/-- Whether another document follows these tokens. -/
def another (tokens : List Token) : Bool :=
  match tokens.dropWhile fun t => t.sign == .documentEnd with
  | [⟨.streamEnd, _⟩] => false
  | _ => true

/-- The first document of a text. -/
def ofText (text : List Char) : Document :=
  let read := Tokens.ofText text
  let ended := read.fault.getD (.problem .endOfText ⟨0, 0, 0⟩ none)
  let part := tree ended read.tokens
  let (fault, more) : Option Fault × Bool :=
    match part.rest with
    | .error fault => (some fault, false)
    | .ok [] => (some ended, false)
    | .ok tokens => (none, another tokens)
  let resolved := Anchors.resolve [] part.value
  ⟨resolved.value, resolved.anchored, resolved.fault <|> fault, more⟩

end Document

end Yaml

end GatewayDesk
