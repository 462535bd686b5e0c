import GatewayDesk.Json.Numeral

/-!
# Reading JSON

The reader is an automaton that takes one character at a time. Its state is the stack of containers
that are open and the phase, that is, what may come next. `Json.read` runs it over a text; the shape
says which containers may stand outermost, and a value of another kind there is a mismatch. At most
127 containers may be open.

`run_append` says that a text may be read piece by piece.
-/

namespace GatewayDesk

namespace Json

namespace Reader

/-- A container that is still open, with what it holds so far, the last first. -/
inductive Frame where
  | array (items : List Json)
  /-- An object and the key read last. -/
  | object (members : Members) (key : String)

/-- Which text of a string is being read. -/
inductive Role where
  | key
  | value
  deriving DecidableEq

/-- What may come next. -/
inductive Phase where
  /-- A value. -/
  | value
  /-- A value or the end of an array that has no item yet. -/
  | firstItem
  /-- An item, after a comma. -/
  | nextItem
  /-- A key or the end of an object that has no member yet. -/
  | firstKey
  /-- A key, after a comma. -/
  | nextKey
  /-- The colon after a key. -/
  | colon
  /-- A comma or the end of the innermost container. -/
  | comma
  /-- Nothing but white space, after the outermost value. -/
  | done (value : Json)
  /-- The rest of a word that stands for a value. -/
  | word (rest : List Char) (value : Json)
  /-- More of a numeral. -/
  | numeral (negative : Bool) (numeral : Numeral)
  /-- More of a string, read so far in reverse. -/
  | text (role : Role) (done : List Char)
  /-- The character after a backslash. -/
  | escape (role : Role) (done : List Char)
  /-- More of the four digits of an escape, read so far in reverse; `lead` is the first half of a
  surrogate pair. -/
  | hex (role : Role) (done : List Char) (lead : Option Nat) (digits : List Char) (bytes : Nat)
  /-- The backslash of the second half of a surrogate pair. -/
  | secondSlash (role : Role) (done : List Char) (lead : Nat)
  /-- The letter of the second half of a surrogate pair. -/
  | secondLetter (role : Role) (done : List Char) (lead : Nat)

/-- What is open and what may come next. -/
structure State where
  stack : List Frame
  phase : Phase

/-- A fault at a character: the reason, and how many bytes after the character's start. -/
abbrev Stop := Reason × Nat

/-- How many containers may be open. -/
def depthLimit : Nat := 127

/-- The four characters that may stand between tokens. -/
def isSpace (c : Char) : Bool :=
  c == ' ' || c == '\n' || c == '\t' || c == '\r'

/-- The kind of container that must stand here, if the shape says so. -/
def wanted (shape : Shape) (stack : List Frame) : Option Shape :=
  match shape, stack with
  | .record, [] => some .record
  | .records, [] => some .records
  | .records, [.array _] => some .record
  | _, _ => none

/-! ## Values that end -/

/-- Puts a finished value into the innermost container. -/
def complete (stack : List Frame) (value : Json) : State :=
  match stack with
  | [] => ⟨[], .done value⟩
  | .array items :: rest => ⟨.array (value :: items) :: rest, .comma⟩
  | .object members key :: rest => ⟨.object ((key, value) :: members) key :: rest, .comma⟩

/-- Puts a finished value that is no container into the innermost container, unless a container must
stand here; `past` is where that would be noticed. -/
def completeScalar (shape : Shape) (stack : List Frame) (value : Json) (past : Nat) :
    Except Stop State :=
  match wanted shape stack with
  | some w => .error (.mismatch value.found w, past)
  | none => .ok (complete stack value)

/-- Ends a string. -/
def completeText (shape : Shape) (stack : List Frame) (role : Role) (done : List Char) :
    Except Stop State :=
  let text := String.ofList done.reverse
  match role, stack with
  | .key, .object members _ :: rest => .ok ⟨.object members text :: rest, .colon⟩
  | _, _ => completeScalar shape stack (.string text) 1

/-! ## Values that start -/

/-- Opens a container. -/
def openFrame (shape : Shape) (stack : List Frame) (frame : Frame) (phase : Phase)
    (refused : Shape) (found : Found) : Except Stop State :=
  if wanted shape stack = some refused then .error (.mismatch found refused, 0)
  else if stack.length < depthLimit then .ok ⟨frame :: stack, phase⟩
  else .error (.tooDeep, 1)

/-- The first character of a value. -/
def startValue (shape : Shape) (stack : List Frame) (c : Char) : Except Stop State :=
  if c == '\x7b' then openFrame shape stack (.object [] "") .firstKey .records .map
  else if c == '[' then openFrame shape stack (.array []) .firstItem .record .sequence
  else if c == '"' then .ok ⟨stack, .text .value []⟩
  else if c == '-' then .ok ⟨stack, .numeral true .sign⟩
  else if Digits.isDigit c then
    .ok ⟨stack, .numeral false (if c == '0' then .zero else .whole (Digits.value c))⟩
  else if c == 'n' then .ok ⟨stack, .word ['u', 'l', 'l'] .null⟩
  else if c == 't' then .ok ⟨stack, .word ['r', 'u', 'e'] (.boolean true)⟩
  else if c == 'f' then .ok ⟨stack, .word ['a', 'l', 's', 'e'] (.boolean false)⟩
  else .error (.noValue, 1)

/-- The first character of a key. -/
def startKey (stack : List Frame) (c : Char) : Except Stop State :=
  if c == '"' then .ok ⟨stack, .text .key []⟩ else .error (.badKey, 1)

/-! ## Between values -/

/-- The character after a value. -/
def afterValue (stack : List Frame) (c : Char) : Except Stop State :=
  match stack with
  | [] => .error (.trailingText, 1)
  | .array items :: rest =>
    if c == ']' then .ok (complete rest (.array items.reverse))
    else if c == ',' then .ok ⟨stack, .nextItem⟩
    else .error (.noCommaInList, 1)
  | .object members _ :: rest =>
    if c == '\x7d' then .ok (complete rest (.object members.reverse))
    else if c == ',' then .ok ⟨stack, .nextKey⟩
    else .error (.noCommaInObject, 1)

/-- The character after a value, white space included. -/
def between (state : State) (c : Char) : Except Stop State :=
  if isSpace c then .ok state else afterValue state.stack c

/-! ## Strings -/

/-- The character that a backslash and a letter stand for. -/
def unescape? (c : Char) : Option Char :=
  match c with
  | '"' => some '"'
  | '\\' => some '\\'
  | '/' => some '/'
  | 'b' => some '\x08'
  | 'f' => some '\x0c'
  | 'n' => some '\n'
  | 'r' => some '\r'
  | 't' => some '\t'
  | _ => none

/-- What follows four digits of value `n`. -/
def afterHex (role : Role) (done : List Char) (lead : Option Nat) (n : Nat) :
    Except Reason Phase :=
  match lead with
  | some high =>
    if 0xDC00 ≤ n && n ≤ 0xDFFF then
      .ok (.text role (Char.ofNat ((high - 0xD800) * 0x400 + (n - 0xDC00) + 0x10000) :: done))
    else .error .loneSurrogate
  | none =>
    if 0xDC00 ≤ n && n ≤ 0xDFFF then .error .loneSurrogate
    else if 0xD800 ≤ n && n ≤ 0xDBFF then .ok (.secondSlash role done n)
    else .ok (.text role (Char.ofNat n :: done))

/-- One more character of the four bytes that an escape takes. -/
def stepHex (role : Role) (done : List Char) (lead : Option Nat) (digits : List Char) (bytes : Nat)
    (c : Char) : Except Stop Phase :=
  if bytes + c.utf8Size < 4 then .ok (.hex role done lead (c :: digits) (bytes + c.utf8Size))
  else
    match Digits.ofDigits? 16 (c :: digits).reverse with
    | none => .error (.badEscape, 4 - bytes)
    | some n => (afterHex role done lead n).mapError fun r => (r, 4 - bytes)

/-! ## The automaton -/

/-- Reads one character. -/
def step (shape : Shape) (state : State) (c : Char) : Except Stop State :=
  let stack := state.stack
  match state.phase with
  | .value => if isSpace c then .ok state else startValue shape stack c
  | .firstItem =>
    if isSpace c then .ok state
    else
      match c, stack with
      | ']', .array items :: rest => .ok (complete rest (.array items.reverse))
      | _, _ => startValue shape stack c
  | .nextItem =>
    if isSpace c then .ok state
    else if c == ']' then .error (.trailingComma, 1)
    else startValue shape stack c
  | .firstKey =>
    if isSpace c then .ok state
    else
      match c, stack with
      | '\x7d', .object members _ :: rest => .ok (complete rest (.object members.reverse))
      | _, _ => startKey stack c
  | .nextKey =>
    if isSpace c then .ok state
    else if c == '\x7d' then .error (.trailingComma, 1)
    else startKey stack c
  | .colon =>
    if isSpace c then .ok state
    else if c == ':' then .ok ⟨stack, .value⟩
    else .error (.noColon, 1)
  | .comma => between state c
  | .done _ => between state c
  | .word rest value =>
    match rest with
    | [] => .error (.noWord, 1)
    | w :: ws =>
      if c == w then
        match ws with
        | [] => completeScalar shape stack value 1
        | _ => .ok ⟨stack, .word ws value⟩
      else .error (.noWord, 1)
  | .numeral negative n =>
    match n.step c with
    | .more n => .ok ⟨stack, .numeral negative n⟩
    | .fault reason past => .error (reason, past)
    | .over => do
      let value ← (n.finish negative).mapError fun r => (r, 0)
      let state ← completeScalar shape stack (.number value) 0
      between state c
  | .text role done =>
    if c == '"' then completeText shape stack role done
    else if c == '\\' then .ok ⟨stack, .escape role done⟩
    else if c.toNat < 0x20 then .error (.control, 1)
    else .ok ⟨stack, .text role (c :: done)⟩
  | .escape role done =>
    if c == 'u' then .ok ⟨stack, .hex role done none [] 0⟩
    else
      match unescape? c with
      | some e => .ok ⟨stack, .text role (e :: done)⟩
      | none => .error (.badEscape, 1)
  | .hex role done lead digits bytes => do
    let phase ← stepHex role done lead digits bytes c
    return ⟨stack, phase⟩
  | .secondSlash role done lead =>
    if c == '\\' then .ok ⟨stack, .secondLetter role done lead⟩ else .error (.shortSurrogate, 1)
  | .secondLetter role done lead =>
    if c == 'u' then .ok ⟨stack, .hex role done (some lead) [] 0⟩
    else .error (.shortSurrogate, 1)

/-- A value that has ended is followed by what may stand after a value. -/
theorem step_complete (shape : Shape) (stack : List Frame) (value : Json) (c : Char) :
    step shape (complete stack value) c = between (complete stack value) c := by
  cases stack with
  | nil => simp only [complete, step]
  | cons frame rest => cases frame <;> simp only [complete, step]

/-- A reason and the number of bytes before the place where it arose. -/
structure Fault where
  reason : Reason
  offset : Nat

/-- Reads a text that starts `offset` bytes into the whole. -/
def run (shape : Shape) (state : State) (text : List Char) (offset : Nat) : Except Fault State :=
  match text with
  | [] => .ok state
  | c :: cs =>
    match step shape state c with
    | .ok state => run shape state cs (offset + c.utf8Size)
    | .error (reason, past) => .error ⟨reason, offset + past⟩

/-- What the end of the text means. -/
def finish (shape : Shape) (state : State) : Except Reason Json :=
  match state.phase with
  | .value => .error .endInValue
  | .firstItem => .error .endInList
  | .nextItem => .error .endInValue
  | .firstKey => .error .endInObject
  | .nextKey => .error .endInValue
  | .colon => .error .endInObject
  | .comma =>
    match state.stack with
    | .object _ _ :: _ => .error .endInObject
    | _ => .error .endInList
  | .done value => .ok value
  | .word _ _ => .error .endInValue
  | .numeral negative n => do
    let value ← n.finish negative
    match completeScalar shape state.stack (.number value) 0 with
    | .error (reason, _) => .error reason
    | .ok ⟨.object _ _ :: _, _⟩ => .error .endInObject
    | .ok ⟨.array _ :: _, _⟩ => .error .endInList
    | .ok ⟨[], _⟩ => .ok (.number value)
  | _ => .error .endInString

/-- The state before the first character. -/
def start : State := ⟨[], .value⟩

/-- The number of bytes of a text. -/
def size : List Char → Nat
  | [] => 0
  | c :: cs => c.utf8Size + size cs

/-- A text may be read piece by piece. -/
theorem run_append (shape : Shape) (state : State) (a b : List Char) (offset : Nat) :
    run shape state (a ++ b) offset =
      (run shape state a offset).bind fun s => run shape s b (offset + size a) := by
  induction a generalizing state offset with
  | nil => rfl
  | cons c cs ih =>
    have e : offset + size (c :: cs) = offset + c.utf8Size + size cs := by
      rw [size, Nat.add_assoc]
    simp only [List.cons_append, run]
    cases step shape state c with
    | ok s => simp only [ih, e]
    | error stop => rfl

end Reader

/-- Reads a text as a value of a shape. Members stand as they were written. -/
def read (shape : Shape) (text : String) : Except Error Json :=
  let cs := text.toList
  let fail (reason : Reason) (offset : Nat) : Error :=
    ⟨reason, some (Position.ofOffset cs offset)⟩
  match Reader.run shape Reader.start cs 0 with
  | .error fault => .error (fail fault.reason fault.offset)
  | .ok state => (Reader.finish shape state).mapError fun r => fail r (Reader.size cs)

end Json

end GatewayDesk
