import GatewayDesk.Yaml.Atom
import GatewayDesk.Yaml.Document

/-!
# Walks through a document

A reader of a YAML value walks through the tree of a document and follows its aliases, of which it
may follow only so many in all. `Reading` is such a walk; its state is how many aliases it may still
follow. A collection may be nested in at most 127 others.
-/

namespace GatewayDesk

namespace Yaml

/-- A walk through a document. -/
abbrev Reading := StateT Nat (Except Error)

namespace Reading

/-- How many collections may be nested. -/
def depthLimit : Nat := 128

/-- The fault that a walk meets at a cut. -/
def atCut (document : Document) : Error :=
  .fault (document.fault.getD (.problem .endOfText ⟨0, 0, 0⟩ none))

/-- The node that a node stands for. -/
def follow (document : Document) (node : Numbered) : Reading Numbered :=
  match node with
  | .alias _ number => do
    match ← get with
    | 0 => throw .tooManyAliases
    | left + 1 =>
      set left
      return (document.target? number).getD .cut
  | _ => return node

/-- The tag of the text's own that a tag is, if its octets are text. -/
def localTag? (tag : Option Address) : Option String :=
  tag.bind fun t => if Atom.isLocal t then (Utf8.decode ⟨t.toArray⟩).toOption else none

/-- A reason that a value is not of the wanted shape. -/
def refuse {α : Type} (reason : Reason) (path : Path) (mark : Mark) : Reading α :=
  throw (.shape reason path mark)

/-- The value of a scalar. -/
def atom (tag : Option Address) (style : Style) (text : String) (path : Path) (mark : Mark) :
    Reading Atom :=
  match Atom.ofScalar tag style text with
  | .ok atom => return atom
  | .error reason => refuse reason path mark

/-- The report that a node is not of the wanted shape. -/
def mismatch {α : Type} (document : Document) (wanted : String) (path : Path) (node : Numbered) :
    Reading α :=
  match node with
  | .scalar mark _ tag style text => do
    let atom ← atom tag style text path mark
    refuse (.mismatch atom.found wanted) path mark
  | .sequence mark _ _ _ => refuse (.mismatch .sequence wanted) path mark
  | .mapping mark _ _ _ => refuse (.mismatch .map wanted) path mark
  | _ => throw (atCut document)

/-- The text of a key. -/
def key (document : Document) (wanted : String) (path : Path) (node : Numbered) :
    Reading String := do
  match ← follow document node with
  | .scalar _ _ _ _ text => return text
  | other => mismatch document wanted path other

/-- The step to the value of a key. -/
def stepOf (node : Numbered) : Step :=
  match node with
  | .scalar _ _ _ _ text => .key text
  | _ => .unnamed

/-- Walks through a document from its root; the text must hold nothing else. -/
def run {α : Type} (document : Document) (walk : Numbered → Reading α) : Except Error α := do
  let (value, _) ← StateT.run (walk document.root) document.aliasLimit
  match document.fault with
  | some fault => throw (.fault fault)
  | none => if document.more then throw .anotherDocument else return value

end Reading

end Yaml

end GatewayDesk
