import Roster.Text.Blank
import Roster.Time.Timestamp

/-!
# Reading timestamps

* `Timestamp.parse?` — a date-time of RFC 3339, read with some freedom: numbers may be short, white
  space may stand before a number and before a mark, the date and the time are set apart by a `T`, a `t` or
  a blank, and the offset may miss its colon.  The result is in UTC.
* A second `:60` gives a timestamp in a leap second.  A date-time that the clock cannot show is refused.
-/

set_option autoImplicit false

namespace Roster.Timestamp

open Roster.Text (trimStart)

/-- A decimal digit. -/
def isDigit (c : Char) : Bool := '0' ≤ c && c ≤ '9'

/-- The number of decimal digits. -/
def digitsValue (ds : List Char) : Nat := ds.foldl (fun n d => n * 10 + (d.toNat - 48)) 0

/-- The digits in front, as many as there are. -/
def number (cs : List Char) : Option (Nat × List Char) :=
  let ds := cs.takeWhile isDigit
  if ds.isEmpty then none else some (digitsValue ds, cs.dropWhile isDigit)

/-- The digits in front, at most `width` of them. -/
def shortNumber (width : Nat) (cs : List Char) : Option (Nat × List Char) :=
  let ds := (cs.take width).takeWhile isDigit
  if ds.isEmpty then none else some (digitsValue ds, cs.drop ds.length)

/-- A year: four digits at most, or any number of them after a sign. -/
def yearPart (cs : List Char) : Option (Int × List Char) :=
  match trimStart cs with
  | '-' :: cs => (number cs).map fun (n, cs) => (-(n : Int), cs)
  | '+' :: cs => (number cs).map fun (n, cs) => ((n : Int), cs)
  | cs => (shortNumber 4 cs).map fun (n, cs) => ((n : Int), cs)

/-- A field of one or two digits. -/
def smallPart (cs : List Char) : Option (Nat × List Char) := shortNumber 2 (trimStart cs)

/-- A mark between two fields, white space in front of it skipped. -/
def mark (c : Char) (cs : List Char) : Option (List Char) :=
  match trimStart cs with
  | x :: rest => if x = c then some rest else none
  | [] => none

/-- The mark between the date and the time. -/
def dateTimeMark : List Char → Option (List Char)
  | c :: rest => if c = 'T' ∨ c = 't' ∨ c = ' ' then some rest else none
  | [] => none

/-- A fraction of a second in nanoseconds, further digits dropped; nothing without a point. -/
def fractionPart : List Char → Option (Nat × List Char)
  | '.' :: cs =>
    let ds := cs.takeWhile isDigit
    if ds.isEmpty then none
    else
      let kept := ds.take 9
      some (digitsValue kept * Nat.pow 10 (9 - kept.length), cs.dropWhile isDigit)
  | cs => some (0, cs)

/-- Two digits as a number. -/
def twoDigitPart : List Char → Option (Nat × List Char)
  | a :: b :: rest => if isDigit a ∧ isDigit b then some (digitsValue [a, b], rest) else none
  | _ => none

/-- Hours and minutes of an offset in seconds, the sign aside. -/
def offsetSize (cs : List Char) : Option (Nat × List Char) := do
  let (hours, cs) ← twoDigitPart cs
  let (minutes, cs) ← twoDigitPart (cs.dropWhile fun c => c = ':' || Text.isBlank c)
  if minutes < 60 then some (hours * 3600 + minutes * 60, cs) else none

/-- An offset from UTC in seconds: `Z`, `UTC`, or a sign with hours and minutes. -/
def offsetPart (cs : List Char) : Option (Int × List Char) :=
  match cs with
  | [] => none
  | c :: rest =>
    if cs.length ≥ 3 ∧ (cs.take 3).map Char.toUpper = ['U', 'T', 'C'] then some (0, cs.drop 3)
    else if c = 'Z' ∨ c = 'z' then some (0, rest)
    else if c = '+' then (offsetSize rest).map fun (n, cs) => ((n : Int), cs)
    else if c = '-' ∨ c = '−' then (offsetSize rest).map fun (n, cs) => (-(n : Int), cs)
    else none

/-- The fields of a date-time as they are written. -/
structure Fields where
  date : Date
  hour : Nat
  minute : Nat
  second : Nat
  nanos : Nat
  offset : Int
deriving DecidableEq, Repr

/-- The fields of a text, white space at its end skipped. -/
def fields? (cs : List Char) : Option Fields := do
  let (year, cs) ← yearPart cs
  let cs ← mark '-' cs
  let (month, cs) ← smallPart cs
  let cs ← mark '-' cs
  let (day, cs) ← smallPart cs
  let cs ← dateTimeMark cs
  let (hour, cs) ← smallPart cs
  let cs ← mark ':' cs
  let (minute, cs) ← smallPart cs
  let cs ← mark ':' cs
  let (second, cs) ← smallPart cs
  let (nanos, cs) ← fractionPart cs
  let (offset, cs) ← offsetPart (trimStart cs)
  if (trimStart cs).isEmpty then some ⟨⟨year, month, day⟩, hour, minute, second, nanos, offset⟩
  else none

/-- Whether the fields are in their ranges. -/
def Fields.inRange (f : Fields) : Bool :=
  -262143 ≤ f.date.year && f.date.year ≤ 262142 && f.date.isValid &&
    f.hour ≤ 23 && f.minute ≤ 59 && f.second ≤ 60 &&
    -86400 < f.offset && f.offset < 86400

/-- The second of the epoch that the fields name, `:60` taken as `:59`. -/
def Fields.epochSecond (f : Fields) : Int :=
  f.date.toDays * 86400 + f.hour * 3600 + f.minute * 60 + min f.second 59 - f.offset

/-- The timestamp that the fields name. -/
def ofFields? (f : Fields) : Option Timestamp :=
  if f.inRange then
    match Instant.ofNanos? (f.epochSecond * nanosPerSecond + f.nanos) with
    | none => none
    | some t =>
      if h : f.second = 60 → t.secondOfMinute = 59 then
        some ⟨t, f.second = 60, by simpa using h⟩
      else none
  else none

/-- The timestamp that a text names. -/
def parse? (s : String) : Option Timestamp := (fields? s.toList).bind ofFields?

end Roster.Timestamp
