import GatewayDesk.Numeric.Digits

/-!
# Dates and times

A moment is a date, a time of day or both, and both may come with the distance from universal time.
`Moment.ofWord?` reads one and `Moment.text` writes it.
-/

namespace GatewayDesk

namespace Toml

/-- A day of the calendar. -/
structure Date where
  year : Nat
  month : Nat
  day : Nat
  deriving DecidableEq, Repr

/-- A time of day. -/
structure Time where
  hour : Nat
  minute : Nat
  second : Nat
  nanosecond : Nat
  deriving DecidableEq, Repr

/-- The distance from universal time. -/
inductive Offset where
  | universal
  | minutes (east : Int)
  deriving DecidableEq, Repr

/-- A date, a time of day or both. -/
inductive Moment where
  | day (date : Date)
  | ofDay (time : Time)
  | both (date : Date) (time : Time) (offset : Option Offset)
  deriving DecidableEq, Repr

/-- How many days a month has. -/
def Date.daysIn (year month : Nat) : Nat :=
  if month = 2 then
    if year % 4 = 0 ∧ (year % 100 ≠ 0 ∨ year % 400 = 0) then 29 else 28
  else if month = 4 ∨ month = 6 ∨ month = 9 ∨ month = 11 then 30
  else 31

namespace Moment

/-! ## Reading -/

/-- The natural that a row of decimal digits spells, if all are digits. -/
def natural? (cs : List Char) : Option Nat :=
  if cs.all Digits.isDigit then some (Digits.ofDigits cs) else none

/-- A date at the front of a text. -/
def date? : List Char → Option (Date × List Char)
  | a :: b :: c :: d :: '-' :: e :: f :: '-' :: g :: h :: rest => do
    let year ← natural? [a, b, c, d]
    let month ← natural? [e, f]
    let day ← natural? [g, h]
    if 1 ≤ month ∧ month ≤ 12 ∧ 1 ≤ day ∧ day ≤ Date.daysIn year month then
      some (⟨year, month, day⟩, rest)
    else none
  | _ => none

/-- The nanoseconds that the digits after a point spell; those beyond the ninth say nothing. -/
def nanoseconds (digits : List Char) : Nat :=
  Digits.ofDigits ((digits ++ List.replicate 9 '0').take 9)

/-- A time of day at the front of a text. -/
def time? : List Char → Option (Time × List Char)
  | a :: b :: ':' :: c :: d :: ':' :: e :: f :: rest => do
    let hour ← natural? [a, b]
    let minute ← natural? [c, d]
    let second ← natural? [e, f]
    if 23 < hour ∨ 59 < minute ∨ 60 < second then none
    else
      match rest with
      | '.' :: more =>
        let digits := more.takeWhile Digits.isDigit
        if digits.isEmpty then none
        else some (⟨hour, minute, second, nanoseconds digits⟩, more.dropWhile Digits.isDigit)
      | _ => some (⟨hour, minute, second, 0⟩, rest)
  | _ => none

/-- The distance from universal time that a whole text spells, if any. -/
def offset? : List Char → Option (Option Offset)
  | [] => some none
  | ['Z'] => some (some .universal)
  | ['z'] => some (some .universal)
  | [sign, a, b, ':', c, d] => do
    let hours ← natural? [a, b]
    let minutes ← natural? [c, d]
    let distance : Int := (hours * 60 + minutes : Nat)
    if 23 < hours ∨ 59 < minutes then none
    else if sign = '+' then some (some (.minutes distance))
    else if sign = '-' then some (some (.minutes (-distance)))
    else none
  | _ => none

/-- A time of day with its distance from universal time, as a whole text. -/
def timed? (date : Date) (cs : List Char) : Option Moment := do
  let (time, rest) ← time? cs
  let offset ← offset? rest
  some (.both date time offset)

/-- The moment that a word spells. -/
def ofWord? (cs : List Char) : Option Moment :=
  match date? cs with
  | some (date, []) => some (.day date)
  | some (date, c :: rest) => if c = 'T' ∨ c = 't' then timed? date rest else none
  | none =>
    match time? cs with
    | some (time, []) => some (.ofDay time)
    | _ => none

/-! ## Writing -/

/-- A natural with at least `width` digits. -/
def padded (width n : Nat) : List Char :=
  let ds := Digits.digits n
  List.replicate (width - ds.length) '0' ++ ds

/-- The text of a date. -/
def dateText (date : Date) : List Char :=
  padded 4 date.year ++ '-' :: padded 2 date.month ++ '-' :: padded 2 date.day

/-- The text of a time of day. -/
def timeText (time : Time) : List Char :=
  let fraction := ((padded 9 time.nanosecond).reverse.dropWhile (· == '0')).reverse
  padded 2 time.hour ++ ':' :: padded 2 time.minute ++ ':' :: padded 2 time.second ++
    if fraction.isEmpty then [] else '.' :: fraction

/-- The text of a distance from universal time. -/
def offsetText : Option Offset → List Char
  | none => []
  | some .universal => ['Z']
  | some (.minutes east) =>
    (if east < 0 then '-' else '+') ::
      (padded 2 (east.natAbs / 60) ++ ':' :: padded 2 (east.natAbs % 60))

/-- The text of a moment. -/
def text : Moment → String
  | .day date => String.ofList (dateText date)
  | .ofDay time => String.ofList (timeText time)
  | .both date time offset =>
    String.ofList (dateText date ++ 'T' :: timeText time ++ offsetText offset)

end Moment

end Toml

end GatewayDesk
