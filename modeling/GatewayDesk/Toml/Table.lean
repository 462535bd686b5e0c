import GatewayDesk.Toml.Basic

/-!
# Defining tables

Keys lead from a table to the tables inside it. `Table.define` puts a pair where its dotted key
leads, `Table.openTable` and `Table.openElement` start the table that a header names. Nothing is
defined twice: each fails where the key is taken, or where it leads through a value that may not
grow.
-/

namespace GatewayDesk

namespace Toml

namespace Table

/-- The table with another value of a key that is there. -/
def replace (key : String) (value : Value) : Members → Members
  | [] => []
  | (k, v) :: rest => if k == key then (k, value) :: rest else (k, v) :: replace key value rest

/-- The table without a key. -/
def erase (key : String) (members : Members) : Members := members.filter fun m => m.1 != key

/-! ## Pairs -/

/-- Whether a dotted key may lead into a table, and whether it may end there. -/
def admits (origin : Origin) (atEnd : Bool) : Bool :=
  match origin with
  | .dotted => true
  | .implied => !atEnd
  | .header => false
  | .braces => false

/-- The table with a pair added where the keys lead; the last key is that of the pair. -/
def define (members : Members) (keys : List String) (value : Value) : Option Members :=
  match keys with
  | [] => none
  | [key] =>
    match members.lookup key with
    | none => some (members ++ [(key, value)])
    | some _ => none
  | key :: next :: more =>
    match members.lookup key with
    | none => do
      let inner ← define [] (next :: more) value
      some (members ++ [(key, .table .dotted inner)])
    | some (.table origin inner) =>
      if admits origin more.isEmpty then do
        let inner ← define inner (next :: more) value
        some (replace key (.table origin inner) members)
      else none
    | some (.tables older newest) =>
      if more.isEmpty then none
      else do
        let newest ← define newest (next :: more) value
        some (replace key (.tables older newest) members)
    | some _ => none

/-! ## Headers -/

/-- The table with a change made in the table that keys lead to; tables on the way that are not
there yet are implied. -/
def within (change : Members → Option Members) (members : Members) : List String → Option Members
  | [] => change members
  | key :: keys =>
    match members.lookup key with
    | none => do
      let inner ← within change [] keys
      some (members ++ [(key, .table .implied inner)])
    | some (.table .braces _) => none
    | some (.table origin inner) => do
      let inner ← within change inner keys
      some (replace key (.table origin inner) members)
    | some (.tables older newest) => do
      let newest ← within change newest keys
      some (replace key (.tables older newest) members)
    | some _ => none

/-- Starts a table inside another; an implied one goes on, as the last. -/
def start (key : String) (members : Members) : Option Members :=
  match members.lookup key with
  | none => some (members ++ [(key, .table .header [])])
  | some (.table .implied inner) => some (erase key members ++ [(key, .table .header inner)])
  | some _ => none

/-- Starts one more table of an array of tables. -/
def startElement (key : String) (members : Members) : Option Members :=
  match members.lookup key with
  | none => some (members ++ [(key, .tables [] [])])
  | some (.tables older newest) => some (replace key (.tables (older ++ [newest]) []) members)
  | some _ => none

/-- The document after the header of a table. -/
def openTable (root : Members) (keys : List String) : Option Members :=
  match keys.getLast? with
  | none => none
  | some key => within (start key) root keys.dropLast

/-- The document after the header of an element of an array of tables. -/
def openElement (root : Members) (keys : List String) : Option Members :=
  match keys.getLast? with
  | none => none
  | some key => within (startElement key) root keys.dropLast

end Table

end Toml

end GatewayDesk
