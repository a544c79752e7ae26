import Roster.Time.Calendar
import Roster.Time.Instant

/-!
# Timestamps

* `Timestamp` — an instant as a record states it.  A leap second `:60` is told apart from the second
  before it by a mark, which only the last second of a minute can have.
* `Timestamp.text` — RFC 3339 in UTC: the fewest of 0, 3, 6 or 9 digits of a fraction that are exact,
  and a year outside 0 to 9999 with its sign.
-/

set_option autoImplicit false

namespace Roster

/-- The second of its minute. -/
def Instant.secondOfMinute (t : Instant) : Nat := (t.seconds % 60).toNat

/-- An instant, or the same place in the leap second that follows it. -/
structure Timestamp where
  instant : Instant
  leap : Bool
  leap_last : leap = true → instant.secondOfMinute = 59
deriving DecidableEq, Repr

namespace Timestamp

/-- An instant that is in no leap second. -/
def ofInstant (t : Instant) : Timestamp := ⟨t, false, by simp⟩

instance : Inhabited Timestamp := ⟨ofInstant default⟩

/-- Whole seconds since the epoch. -/
def seconds (t : Timestamp) : Int := t.instant.seconds

/-- Nanoseconds beyond the whole seconds, a thousand million and more in a leap second. -/
def subsecNanos (t : Timestamp) : Nat :=
  t.instant.subsecNanos + if t.leap then nanosPerSecond else 0

/-! ## Text -/

/-- The digits of `n`, at least two. -/
def twoDigits (n : Nat) : List Char := Duration.padded 2 n

/-- A year: four digits, or at least four after a sign when it is not in 0 to 9999. -/
def yearText (year : Int) : List Char :=
  if 0 ≤ year ∧ year ≤ 9999 then Duration.padded 4 year.toNat
  else (if year < 0 then '-' else '+') :: Duration.padded 4 year.natAbs

/-- A fraction of a second in as few groups of three digits as are exact. -/
def fractionText (nanos : Nat) : List Char :=
  if nanos = 0 then []
  else if nanos % 1000000 = 0 then '.' :: Duration.padded 3 (nanos / 1000000)
  else if nanos % 1000 = 0 then '.' :: Duration.padded 6 (nanos / 1000)
  else '.' :: Duration.padded 9 nanos

/-- The characters of a timestamp. -/
def chars (t : Timestamp) : List Char :=
  let date := Date.ofDays (t.seconds / 86400)
  let secondOfDay := (t.seconds % 86400).toNat
  let second := secondOfDay % 60 + if t.leap then 1 else 0
  yearText date.year ++ '-' :: twoDigits date.month ++ '-' :: twoDigits date.day ++
    'T' :: twoDigits (secondOfDay / 3600) ++ ':' :: twoDigits (secondOfDay / 60 % 60) ++
    ':' :: twoDigits second ++ fractionText t.instant.subsecNanos ++ ['Z']

/-- A timestamp in RFC 3339. -/
def text (t : Timestamp) : String := String.ofList t.chars

end Timestamp

end Roster
