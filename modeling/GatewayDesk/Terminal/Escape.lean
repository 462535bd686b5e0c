/-!
# Escape sequences

Terminals take an ESC and what follows it as an order. `Escape.strip` leaves the orders out of a
text: an automaton reads it character by character and says which ones are shown. Of the controls,
only the line break is shown.
-/

namespace GatewayDesk

namespace Escape

/-- Where in an order a terminal is. -/
inductive State where
  /-- In no order. -/
  | ground
  /-- After an ESC. -/
  | escape
  /-- In an order of several characters. -/
  | escapeMore
  /-- At the start of an order with parameters. -/
  | entry
  /-- In the parameters of an order. -/
  | parameters
  /-- After the parameters of an order. -/
  | afterParameters
  /-- In an order with parameters that is not understood. -/
  | ignored
  /-- At the start of an order that carries data. -/
  | dataEntry
  /-- In the parameters of an order that carries data. -/
  | dataParameters
  /-- After the parameters of an order that carries data. -/
  | afterDataParameters
  /-- In the data. -/
  | data
  /-- In an order of the operating system, such as a title. -/
  | system
  /-- In a string that says nothing, up to its end. -/
  | dull
  deriving DecidableEq, Repr

/-- The state after a character that every order gives way to, or the order goes on. -/
def anywhere (state : State) (n : Nat) : State :=
  if n == 0x18 || n == 0x1A then .ground else if n == 0x1B then .escape else state

/-- The state after a character that follows an ESC. -/
def afterEscape (n : Nat) : State :=
  if 0x20 ≤ n && n ≤ 0x2F then .escapeMore
  else if n == 0x50 then .dataEntry
  else if n == 0x58 || n == 0x5E || n == 0x5F then .dull
  else if n == 0x5B then .entry
  else if n == 0x5D then .system
  else if 0x30 ≤ n && n ≤ 0x7E then .ground
  else anywhere .escape n

/-- The state after a character that stands before the data of an order or in an order with
parameters; `more`, `after`, `refused` and `final` are the states that the four kinds of characters
lead to. -/
def afterParameter (state more after refused final : State) (n : Nat) : State :=
  if 0x20 ≤ n && n ≤ 0x2F then after
  else if 0x30 ≤ n && n ≤ 0x3B then more
  else if 0x3C ≤ n && n ≤ 0x3F then refused
  else if 0x40 ≤ n && n ≤ 0x7E then final
  else anywhere state n

/-- The state after a character. -/
def next (state : State) (n : Nat) : State :=
  match state with
  | .ground => if n == 0x1B then .escape else .ground
  | .escape => afterEscape n
  | .escapeMore => if 0x30 ≤ n && n ≤ 0x7E then .ground else anywhere .escapeMore n
  | .entry => afterParameter .entry .parameters .afterParameters .parameters .ground n
  | .parameters => afterParameter .parameters .parameters .afterParameters .ignored .ground n
  | .afterParameters => afterParameter .afterParameters .ignored .afterParameters .ignored .ground n
  | .ignored => afterParameter .ignored .ignored .ignored .ignored .ground n
  | .dataEntry =>
    afterParameter .dataEntry .dataParameters .afterDataParameters .dataParameters .data n
  | .dataParameters =>
    afterParameter .dataParameters .dataParameters .afterDataParameters .dull .data n
  | .afterDataParameters =>
    afterParameter .afterDataParameters .dull .afterDataParameters .dull .data n
  | .data => anywhere .data n
  | .system => if n == 7 then .ground else anywhere .system n
  | .dull => anywhere .dull n

/-- Whether a line break in a state is shown. -/
def showsBreaks : State → Bool
  | .ground => true
  | .escape => true
  | .escapeMore => true
  | .entry => true
  | .parameters => true
  | .afterParameters => true
  | .ignored => true
  | _ => false

/-- What is shown of a character in data, if one of its bytes is 9C, which ends the data: the bytes
after that are no text, and each of them is shown as U+FFFD unless it is a control by itself. -/
def shownAfterEnd? (c : Char) : Option (List Char) :=
  match (String.utf8EncodeChar c).dropWhile (· != 0x9C) with
  | [] => none
  | _ :: rest => some ((rest.filter (0xA0 ≤ ·)).map fun _ => '\uFFFD')

/-- The characters that are shown when one is read, and the state after it. -/
def step (state : State) (c : Char) : List Char × State :=
  let n := c.toNat
  if n == 10 then (if showsBreaks state then [c] else [], state)
  else if n < 0x80 then
    (if state == .ground && 0x20 ≤ n then [c] else [], next state n)
  else
    match state with
    | .ground => (if n ≤ 0x9F then [] else [c], .ground)
    | .data =>
      match shownAfterEnd? c with
      | some shown => (shown, .ground)
      | none => ([], .data)
    | other => ([], other)

/-- The characters that are shown, from a state on. -/
def stripFrom (state : State) : List Char → List Char
  | [] => []
  | c :: cs =>
    let (shown, state) := step state c
    shown ++ stripFrom state cs

/-- The characters that are shown. -/
def strip (cs : List Char) : List Char := stripFrom .ground cs

end Escape

end GatewayDesk
