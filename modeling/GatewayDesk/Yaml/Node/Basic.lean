import GatewayDesk.Yaml.Token.Basic

/-!
# Nodes

A YAML document is a tree of nodes. An alias stands for a node that is elsewhere in the tree; the
type of its target is a parameter, because it is a name at first and a number later. Where a text is
faulty its tree ends in a cut, so that what stands before the fault can still be read.
-/

namespace GatewayDesk

namespace Yaml

/-- A node, whose aliases refer to their targets by values of type `α`. -/
inductive Node (α : Type) where
  | scalar (mark : Mark) (anchor : Option String) (tag : Option Address) (style : Style)
      (text : String)
  | sequence (mark : Mark) (anchor : Option String) (tag : Option Address) (items : List (Node α))
  | mapping (mark : Mark) (anchor : Option String) (tag : Option Address)
      (members : List (Node α × Node α))
  | alias (mark : Mark) (target : α)
  | cut
  deriving Repr

namespace Node

variable {α : Type}

/-- A plain scalar without characters. -/
def empty (mark : Mark) : Node α := .scalar mark none none .plain ""

mutual

/-- Whether the tree ends in a cut. -/
def isCut : Node α → Bool
  | .cut => true
  | .sequence _ _ _ items => anyCut items
  | .mapping _ _ _ members => anyMemberCut members
  | _ => false

/-- Whether one of several trees ends in a cut. -/
def anyCut : List (Node α) → Bool
  | [] => false
  | item :: rest => item.isCut || anyCut rest

/-- Whether a key or value ends in a cut. -/
def anyMemberCut : List (Node α × Node α) → Bool
  | [] => false
  | (key, value) :: rest => key.isCut || value.isCut || anyMemberCut rest

end

mutual

/-- How many scalars, aliases, and starts and ends of collections the tree has. -/
def size : Node α → Nat
  | .cut => 0
  | .scalar _ _ _ _ _ => 1
  | .alias _ _ => 1
  | .sequence _ _ _ items => 1 + sizeItems items + if anyCut items then 0 else 1
  | .mapping _ _ _ members => 1 + sizeMembers members + if anyMemberCut members then 0 else 1

/-- The sizes of several trees together. -/
def sizeItems : List (Node α) → Nat
  | [] => 0
  | item :: rest => item.size + sizeItems rest

/-- The sizes of keys and values together. -/
def sizeMembers : List (Node α × Node α) → Nat
  | [] => 0
  | (key, value) :: rest => key.size + value.size + sizeMembers rest

end

end Node

end Yaml

end GatewayDesk
