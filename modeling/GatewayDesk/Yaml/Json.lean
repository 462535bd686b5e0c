import GatewayDesk.Yaml.Reading

/-!
# YAML as JSON

A YAML value reads as JSON: its scalars by `Atom.toJson`, its sequences as arrays, and its mappings
as objects, whose keys are the texts of scalars. A value with a tag of the text's own does not read,
and neither does an integer beyond 64 bits.
-/

namespace GatewayDesk

namespace Yaml

namespace Reading

/-- A mapping's members as they stand, with a reader for their values. The first key of an inner
mapping is asked for in other words than the others. -/
def members (document : Document) (path : Path) (firstWanted : String)
    (read : Path → Numbered → Reading Json) (entries : List (Numbered × Numbered)) :
    Reading Json.Members :=
  entries.zipIdx.mapM fun ((key, value), i) => do
    let name ← Reading.key document (if i == 0 then firstWanted else "a string") path key
    let value ← read (stepOf key :: path) value
    return (name, value)

/-- A value at a path, in which collections may be nested `depth` deep. -/
def json (document : Document) (depth : Nat) (path : Path) (node : Numbered) : Reading Json := do
  let tagged {α : Type} (mark : Mark) : Reading α :=
    refuse (.mismatch .enumeration "any valid JSON value") path mark
  match ← follow document node with
  | .scalar mark _ tag style text =>
    if (localTag? tag).isSome then tagged mark
    else
      let atom ← atom tag style text path mark
      match atom.toJson with
      | .ok value => return value
      | .error reason => refuse reason path mark
  | .sequence mark _ tag items =>
    if (localTag? tag).isSome then tagged mark
    else
      match depth with
      | 0 => throw (.tooDeep mark)
      | depth + 1 =>
        let items ← items.zipIdx.mapM fun (item, i) => json document depth (.item i :: path) item
        return .array items
  | .mapping mark _ tag entries =>
    if (localTag? tag).isSome then tagged mark
    else
      match depth with
      | 0 => throw (.tooDeep mark)
      | depth + 1 =>
        let members ← members document path "a string key" (json document depth) entries
        return .object members
  | _ => throw (atCut document)

/-- The members of an object at a path; an empty plain scalar is an object without members. -/
def object (document : Document) (depth : Nat) (path : Path) (node : Numbered) :
    Reading Json.Members := do
  match ← follow document node with
  | .mapping mark _ _ entries =>
    match depth with
    | 0 => throw (.tooDeep mark)
    | depth + 1 => members document path "a string" (json document depth) entries
  | .scalar mark anchor tag style text =>
    if text.isEmpty && style == .plain then return []
    else mismatch document "a map" path (.scalar mark anchor tag style text)
  | other => mismatch document "a map" path other

/-- The members of several objects; an empty plain scalar is no object. -/
def objects (document : Document) (depth : Nat) (node : Numbered) :
    Reading (List Json.Members) := do
  match ← follow document node with
  | .sequence mark _ _ items =>
    match depth with
    | 0 => throw (.tooDeep mark)
    | depth + 1 => items.zipIdx.mapM fun (item, i) => object document depth [.item i] item
  | .scalar mark anchor tag style text =>
    if text.isEmpty && style == .plain then return []
    else mismatch document "a sequence" [] (.scalar mark anchor tag style text)
  | other => mismatch document "a sequence" [] other

end Reading

/-- Reads a text as one object. -/
def readObject (text : String) : Except Error Json.Members :=
  let document := Document.ofText text.toList
  Reading.run document (Reading.object document Reading.depthLimit [])

/-- Reads a text as a list of objects. -/
def readObjects (text : String) : Except Error (List Json.Members) :=
  let document := Document.ofText text.toList
  Reading.run document (Reading.objects document Reading.depthLimit)

end Yaml

end GatewayDesk
