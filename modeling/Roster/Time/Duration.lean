/-!
# Durations

* `Duration` — a length of time in whole nanoseconds.
* `Delta` — a length of time with a sign, of 64 bits of milliseconds at most.  The bounds are part of the type.
* `Duration.toDelta?` — a duration as one with a sign; `none` when it is too long for that.
* `Duration.text` — its text: the largest of the units `s`, `ms`, `µs`, `ns` that goes into it, then
  the exact fraction without trailing zeros.
-/

set_option autoImplicit false

namespace Roster

/-- Nanoseconds in a second. -/
abbrev nanosPerSecond : Nat := 1000000000

/-- Nanoseconds in a millisecond. -/
abbrev nanosPerMilli : Nat := 1000000

/-- A length of time, never negative. -/
structure Duration where
  nanos : Nat
deriving DecidableEq, Repr, Inhabited

namespace Duration

def zero : Duration := ⟨0⟩

def ofSeconds (s : Nat) : Duration := ⟨s * nanosPerSecond⟩

def ofMillis (ms : Nat) : Duration := ⟨ms * nanosPerMilli⟩

/-- Whole seconds. -/
def seconds (d : Duration) : Nat := d.nanos / nanosPerSecond

/-- Nanoseconds beyond the whole seconds. -/
def subsecNanos (d : Duration) : Nat := d.nanos % nanosPerSecond

/-- Whole milliseconds, rounded down. -/
def millis (d : Duration) : Nat := d.nanos / nanosPerMilli

end Duration

/-! ## Lengths with a sign -/

/-- Nanoseconds in `2 ^ 63 - 1` milliseconds. -/
abbrev Delta.maxNanos : Int := 9223372036854775807000000

/-- A length of time, backwards when it is negative. -/
structure Delta where
  nanos : Int
  neg_max_le : -Delta.maxNanos ≤ nanos
  le_max : nanos ≤ Delta.maxNanos
deriving DecidableEq, Repr

theorem Delta.ext {a b : Delta} (h : a.nanos = b.nanos) : a = b := by
  cases a; cases b; cases h; rfl

namespace Duration

/-- A duration as a length with a sign, unless it is longer than such lengths are. -/
def toDelta? (d : Duration) : Option Delta :=
  if h : (d.nanos : Int) ≤ Delta.maxNanos then
    some ⟨d.nanos, Int.le_trans (by decide) (Int.natCast_nonneg d.nanos), h⟩
  else none

theorem toDelta?_eq_some {d : Duration} {delta : Delta} : d.toDelta? = some delta ↔ delta.nanos = d.nanos := by
  unfold toDelta?
  split
  · constructor
    · intro h; cases h; rfl
    · intro h; exact congrArg some (Delta.ext h.symm)
  · rename_i hd
    constructor
    · intro h; cases h
    · intro h; exact absurd (h ▸ delta.le_max) hd

theorem toDelta?_eq_none {d : Duration} : d.toDelta? = none ↔ Delta.maxNanos < d.nanos := by
  unfold toDelta?
  split
  · rename_i h
    exact iff_of_false nofun (Int.not_lt.2 h)
  · rename_i h
    exact iff_of_true rfl (Int.not_le.1 h)

/-- The longest duration that has room, and one that is a nanosecond longer. -/
example : (ofMillis 9223372036854775807).toDelta?.isSome = true ∧
    (⟨9223372036854775807000001⟩ : Duration).toDelta? = none := by decide

/-! ## Text -/

/-- The decimal digits of `n`, padded with zeros on the left to `width`. -/
def padded (width n : Nat) : List Char :=
  let digits := Nat.toDigits 10 n
  List.replicate (width - digits.length) '0' ++ digits

/-- Digits without the zeros at their end. -/
def trimZeros (digits : List Char) : List Char :=
  (digits.reverse.dropWhile (· = '0')).reverse

/-- `n` units of which `places` decimal places are the fraction: `1500` with three places is `1.5`. -/
def decimal (n places : Nat) : String :=
  let scale := Nat.pow 10 places
  let fraction := trimZeros (padded places (n % scale))
  let whole := Nat.toDigits 10 (n / scale)
  String.ofList (if fraction.isEmpty then whole else whole ++ '.' :: fraction)

/-- The text of a duration, exact to the nanosecond. -/
def text (d : Duration) : String :=
  if d.nanos ≥ nanosPerSecond then decimal d.nanos 9 ++ "s"
  else if d.nanos ≥ nanosPerMilli then decimal d.nanos 6 ++ "ms"
  else if d.nanos ≥ 1000 then decimal d.nanos 3 ++ "µs"
  else decimal d.nanos 0 ++ "ns"

end Duration

end Roster
