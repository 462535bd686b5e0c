import GatewayDesk.Toml.Text.Basic

/-!
# Writing texts

`Text.write` chooses the plainest form that shows a text as it is, and `Text.writeKey` does so for a
key. Where no form does, the text stands between double quotes with escapes.
-/

namespace GatewayDesk

namespace Toml

namespace Text

/-! ## Forms that suit a text -/

/-- Whether a character cannot be shown as it is, in any form. -/
def isHidden (c : Char) : Bool := c != '\n' && !isPlain c

/-- Whether all runs of a character in a text are shorter than three, after a run of `run`. -/
def shortRuns (q : Char) (run : Nat) : List Char → Bool
  | [] => true
  | c :: rest =>
    if c == q then run < 2 && shortRuns q (run + 1) rest else shortRuns q 0 rest

/-- Whether a form shows the characters of a text as they are. -/
def suits (form : Form) (cs : List Char) : Bool :=
  !cs.any isHidden &&
  (form.literal || !cs.contains '\\') &&
  (if form.lines then shortRuns form.quote 0 cs
   else !cs.contains form.quote && !cs.contains '\n')

/-- The form of a value. -/
def valueForm (cs : List Char) : Form :=
  if suits .basic cs then .basic
  else if suits .verbatim cs then .verbatim
  else if suits .basicLines cs then .basicLines
  else if suits .verbatimLines cs then .verbatimLines
  else if cs.contains '\n' then .basicLines
  else .basic

/-- The form of a key with quotes. -/
def keyForm (cs : List Char) : Form :=
  if !suits .basic cs && suits .verbatim cs then .verbatim else .basic

/-! ## Texts in a form -/

/-- A character between double quotes; quotes and line breaks are apart. -/
def escaped (c : Char) : List Char :=
  match c with
  | '\\' => ['\\', '\\']
  | '\x08' => ['\\', 'b']
  | '\x0c' => ['\\', 'f']
  | '\n' => ['\\', 'n']
  | '\r' => ['\\', 'r']
  | '\t' => ['\\', 't']
  | c => if isPlain c then [c] else '\\' :: 'u' :: Digits.upperHexPadded 4 c.toNat

/-- The characters of a text in a form, after a run of `run` quotes: a third quote in a row is
escaped, as is every quote on one line. -/
def inside (form : Form) (run : Nat) : List Char → List Char
  | [] => []
  | c :: rest =>
    if form.literal then c :: inside form 0 rest
    else if c == '"' then
      if form.lines && run < 2 then c :: inside form (run + 1) rest
      else '\\' :: c :: inside form 0 rest
    else if c == '\n' && form.lines then c :: inside form 0 rest
    else escaped c ++ inside form 0 rest

/-- A text in a form. A text that has line breaks starts on a line of its own. -/
def inForm (form : Form) (cs : List Char) : List Char :=
  let start := if form.lines && cs.contains '\n' then ['\n'] else []
  form.delimiter ++ start ++ inside form 0 cs ++ form.delimiter

/-- A text as a value. -/
def write (cs : List Char) : List Char := inForm (valueForm cs) cs

/-- A text as a key. -/
def writeKey (cs : List Char) : List Char :=
  if !cs.isEmpty && cs.all isBare then cs else inForm (keyForm cs) cs

end Text

end Toml

end GatewayDesk
