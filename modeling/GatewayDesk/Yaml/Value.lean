import GatewayDesk.Yaml.Reading

/-!
# YAML values of any shape

`Value.read` reads a text that holds one YAML value of whatever shape. It refuses a mapping in which
two keys are equal, and integers beyond 64 bits.
-/

namespace GatewayDesk

namespace Yaml

/-- A YAML value. -/
inductive Value where
  | atom (atom : Atom)
  | sequence (items : List Value)
  | mapping (members : List (Value × Value))
  /-- A value with a tag of the text's own. -/
  | tagged (tag : String) (value : Value)
  deriving Repr

namespace Value

/-- Equality of scalars: fractions by value, and what is not a number equals itself. -/
def sameAtom : Atom → Atom → Bool
  | .number a, .number b => a.same b
  | a, b => a == b

mutual

/-- Equality of values: the order of a mapping's members does not count. -/
def same : Value → Value → Bool
  | .atom a, .atom b => sameAtom a b
  | .sequence as, .sequence bs => sameItems as bs
  | .mapping as, .mapping bs => as.length == bs.length && allIn as bs
  | .tagged s a, .tagged t b => s == t && a.same b
  | _, _ => false

/-- Equality of two lists of values. -/
def sameItems : List Value → List Value → Bool
  | [], [] => true
  | a :: as, b :: bs => a.same b && sameItems as bs
  | _, _ => false

/-- Whether each of some members is one of some others. -/
def allIn : List (Value × Value) → List (Value × Value) → Bool
  | [], _ => true
  | (key, value) :: rest, bs =>
    bs.any (fun b => key.same b.1 && value.same b.2) && allIn rest bs

end

/-- A key of which there are two, in words. -/
def describeKey : Value → String
  | .atom .null => "with null key"
  | .atom (.boolean true) => "with key `true`"
  | .atom (.boolean false) => "with key `false`"
  | .atom (.number n) => s!"with key {String.ofList n.text}"
  | .atom (.text s) => s!"with key {Text.quoted s}"
  | .atom (.infinity false) => "with key .inf"
  | .atom (.infinity true) => "with key -.inf"
  | .atom .notNumber => "with key .nan"
  | _ => "in YAML map"

open Reading

/-- The members of a mapping, with a reader for keys and values. -/
def members (path : Path) (mark : Mark) (read : Path → Numbered → Reading Value) :
    List (Numbered × Numbered) → List (Value × Value) → Reading (List (Value × Value))
  | [], done => return done.reverse
  | (key, value) :: rest, done => do
    let k ← read path key
    if done.any fun m => m.1.same k then
      refuse (.repeatedKey k.describeKey) path mark
    else
      let v ← read (stepOf key :: path) value
      members path mark read rest ((k, v) :: done)

/-- A scalar as a value. -/
def scalar (tag : Option Address) (style : Style) (text : String) (path : Path) (mark : Mark) :
    Reading Value := do
  match ← Reading.atom tag style text path mark with
  | .wide z => refuse (.mismatch (.wide z) "any YAML value") path mark
  | value => return .atom value

/-- A value at a path, in which collections may be nested `depth` deep. -/
def value (document : Document) (depth : Nat) (path : Path) (node : Numbered) :
    Reading Value := do
  let withTag (tag : Option Address) (value : Value) : Value :=
    match localTag? tag with
    | some t => .tagged t value
    | none => value
  match ← follow document node with
  | .scalar mark _ tag style text => withTag tag <$> scalar tag style text path mark
  | .sequence mark _ tag items =>
    match depth with
    | 0 => throw (.tooDeep mark)
    | depth + 1 =>
      let items ← items.zipIdx.mapM fun (item, i) => value document depth (.item i :: path) item
      return withTag tag (.sequence items)
  | .mapping mark _ tag entries =>
    match depth with
    | 0 => throw (.tooDeep mark)
    | depth + 1 =>
      let members ← members path mark (value document depth) entries []
      return withTag tag (.mapping members)
  | _ => throw (atCut document)

/-- Reads a text as a value. -/
def read (text : String) : Except Error Value :=
  let document := Document.ofText text.toList
  Reading.run document (value document Reading.depthLimit [])

end Value

end Yaml

end GatewayDesk
