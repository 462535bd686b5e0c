import GatewayDesk.Url.Percent

/-!
# Paths of addresses

A path is a row of segments. A segment of one dot stays where it is and one of two dots goes up; a
dot may be percent-encoded. `Segments.resolve` carries the dots out.

* `resolve_plain`: segments without dots stay as they are.
-/

namespace GatewayDesk

namespace Segments

/-- The segments of a text: a slash parts them and, where `backslash` says so, a backslash does. -/
def split (backslash : Bool) : List Char → List (List Char)
  | [] => [[]]
  | c :: cs =>
    match split backslash cs with
    | [] => [[c]]
    | s :: ss => if c = '/' || (backslash && c = '\\') then [] :: s :: ss else (c :: s) :: ss

/-- The dots that a segment spells, if it spells nothing else. -/
def dots? : List Char → Option Nat
  | [] => some 0
  | '.' :: cs => (dots? cs).map (· + 1)
  | '%' :: '2' :: 'e' :: cs => (dots? cs).map (· + 1)
  | '%' :: '2' :: 'E' :: cs => (dots? cs).map (· + 1)
  | _ => none

/-- Whether a segment stays where it is. -/
def isSingleDot (segment : List Char) : Bool := dots? segment == some 1

/-- Whether a segment goes up. -/
def isDoubleDot (segment : List Char) : Bool := dots? segment == some 2

/-- Whether a segment names something. -/
def isPlain (segment : List Char) : Bool := !isSingleDot segment && !isDoubleDot segment

/-- The segments that remain, after `above`, the last of which comes first; `up` goes up. -/
def resolveFrom (up : List (List Char) → List (List Char)) (above : List (List Char)) :
    List (List Char) → List (List Char)
  | [] => above.reverse
  | [s] =>
    if isDoubleDot s then ([] :: up above).reverse
    else if isSingleDot s then ([] :: above).reverse
    else (s :: above).reverse
  | s :: ss =>
    if isDoubleDot s then resolveFrom up (up above) ss
    else if isSingleDot s then resolveFrom up above ss
    else resolveFrom up (s :: above) ss

/-- The segments that remain. -/
def resolve (segments : List (List Char)) : List (List Char) :=
  resolveFrom List.tail [] segments

private theorem resolveFrom_plain {up : List (List Char) → List (List Char)}
    {above ss : List (List Char)} (h : ∀ s ∈ ss, isPlain s = true) :
    resolveFrom up above ss = above.reverse ++ ss := by
  fun_induction resolveFrom up above ss with
  | case1 above => simp
  | case2 above s hs => simp [isPlain, hs] at h
  | case3 above s _ hs => simp [isPlain, hs] at h
  | case4 above s _ _ => simp
  | case5 above s ss _ hs => simp [isPlain, hs] at h
  | case6 above s ss _ _ hs => simp [isPlain, hs] at h
  | case7 above s ss _ _ _ ih =>
    rw [ih fun t ht => h t (List.mem_cons_of_mem _ ht)]
    simp

theorem resolve_plain {ss : List (List Char)} (h : ∀ s ∈ ss, isPlain s = true) :
    resolve ss = ss := by
  simp [resolve, resolveFrom_plain h]

/-- The text of segments, each after a slash. -/
def text (segments : List (List Char)) : List Char := segments.flatMap ('/' :: ·)

/-! ## Drives -/

/-- Whether a segment names a drive: a letter and a colon or a bar. -/
def isDrive (segment : List Char) : Bool :=
  match segment with
  | [c, d] => c.isAlpha && (d == ':' || d == '|')
  | _ => false

/-- Goes up from a directory of a file system, but not from a drive. -/
def upFile (above : List (List Char)) : List (List Char) :=
  match above with
  | [s] => if isDrive s then [s] else []
  | _ => above.tail

/-- The segments of the path of a file, where the first may name a drive. -/
def resolveFile (segments : List (List Char)) : List (List Char) :=
  match resolveFrom upFile [] (segments.dropWhile (·.isEmpty)) with
  | [] => [[]]
  | s :: ss => if isDrive s then [s.headD 'c', ':'] :: ss else s :: ss

end Segments

end GatewayDesk
