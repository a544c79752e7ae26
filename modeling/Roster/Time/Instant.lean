import Roster.Time.Duration

/-!
# Instants

* `Instant` — a point of the clock: nanoseconds since 1970-01-01T00:00:00Z, from the first instant of
  the year -262143 to the last of the year 262142.  The bounds are part of the type.
* `Instant.addDelta?`, `Instant.subDelta?` — moving an instant by a length of time with a sign; `none` when that
  leaves the range.
* `Instant.add?`, `Instant.sub?` — moving it by a duration, which is given a sign first; `none` also
  when it is too long for that.
* `Instant.ofNanos?_eq_some`, `Instant.ofNanos?_eq_none` — the exact conditions.
* `Instant.add?_eq`, `Instant.sub?_eq` — a duration that is too long for a sign leads out of the range from
  everywhere in it, so that only the whole nanoseconds count.
-/

set_option autoImplicit false

namespace Roster

namespace Instant

/-- Nanoseconds of -262143-01-01T00:00:00Z. -/
abbrev firstNanos : Int := -8334601228800000000000

/-- Nanoseconds of 262142-12-31T23:59:59.999999999Z. -/
abbrev lastNanos : Int := 8210266876799999999999

end Instant

/-- A point of the clock. -/
structure Instant where
  nanos : Int
  first_le : Instant.firstNanos ≤ nanos
  le_last : nanos ≤ Instant.lastNanos
deriving DecidableEq, Repr

namespace Instant

/-- 1970-01-01T00:00:00Z. -/
def epoch : Instant := ⟨0, by decide, by decide⟩

/-- The first instant of all. -/
def first : Instant := ⟨firstNanos, by decide, by decide⟩

instance : Inhabited Instant := ⟨epoch⟩

instance : LE Instant := ⟨fun a b => a.nanos ≤ b.nanos⟩

instance : LT Instant := ⟨fun a b => a.nanos < b.nanos⟩

instance (a b : Instant) : Decidable (a ≤ b) := inferInstanceAs (Decidable (a.nanos ≤ b.nanos))

instance (a b : Instant) : Decidable (a < b) := inferInstanceAs (Decidable (a.nanos < b.nanos))

theorem le_def {a b : Instant} : a ≤ b ↔ a.nanos ≤ b.nanos := Iff.rfl

theorem lt_def {a b : Instant} : a < b ↔ a.nanos < b.nanos := Iff.rfl

theorem le_refl (a : Instant) : a ≤ a := Int.le_refl a.nanos

theorem le_trans {a b c : Instant} (h : a ≤ b) (h' : b ≤ c) : a ≤ c := Int.le_trans h h'

theorem ext {a b : Instant} (h : a.nanos = b.nanos) : a = b := by
  cases a; cases b; cases h; rfl

/-- The instant so many nanoseconds after the epoch, if the clock can show it. -/
def ofNanos? (n : Int) : Option Instant :=
  if h : firstNanos ≤ n ∧ n ≤ lastNanos then some ⟨n, h.1, h.2⟩ else none

/-- The instant so many milliseconds after the epoch, if the clock can show it. -/
def ofMillis? (ms : Int) : Option Instant := ofNanos? (ms * nanosPerMilli)

theorem ofNanos?_eq_some {n : Int} {t : Instant} : ofNanos? n = some t ↔ t.nanos = n := by
  unfold ofNanos?
  split
  · constructor
    · intro h; cases h; rfl
    · intro h; exact congrArg some (ext h.symm)
  · rename_i hn
    constructor
    · intro h; cases h
    · intro h; subst h; exact absurd ⟨t.first_le, t.le_last⟩ hn

theorem ofNanos?_eq_none {n : Int} : ofNanos? n = none ↔ n < firstNanos ∨ lastNanos < n := by
  unfold ofNanos?
  split
  · rename_i h; constructor
    · intro h'; cases h'
    · intro h'; omega
  · rename_i h; constructor
    · intro _; omega
    · intro _; rfl

@[simp] theorem ofNanos?_nanos (t : Instant) : ofNanos? t.nanos = some t := ofNanos?_eq_some.2 rfl

/-- The instant `delta` later. -/
def addDelta? (t : Instant) (delta : Delta) : Option Instant := ofNanos? (t.nanos + delta.nanos)

/-- The instant `delta` earlier. -/
def subDelta? (t : Instant) (delta : Delta) : Option Instant := ofNanos? (t.nanos - delta.nanos)

/-- The instant `d` later, where `d` has room in a length of time with a sign. -/
def add? (t : Instant) (d : Duration) : Option Instant := d.toDelta?.bind t.addDelta?

/-- The instant `d` earlier, where `d` has room in a length of time with a sign. -/
def sub? (t : Instant) (d : Duration) : Option Instant := d.toDelta?.bind t.subDelta?

/-- A length of time that is too long for a sign is longer than all of the clock's time. -/
theorem clock_lt_of_toDelta?_eq_none {d : Duration} (h : d.toDelta? = none) :
    lastNanos - firstNanos < d.nanos := by
  have hlong := Duration.toDelta?_eq_none.1 h
  simp only [firstNanos, lastNanos, Delta.maxNanos] at *
  omega

/-- **A later instant is there exactly when the clock can show it.** -/
theorem add?_eq (t : Instant) (d : Duration) : t.add? d = ofNanos? (t.nanos + d.nanos) := by
  unfold add?
  cases hdelta : d.toDelta? with
  | some delta =>
    rw [← Duration.toDelta?_eq_some.1 hdelta]
    rfl
  | none =>
    have hlong := clock_lt_of_toDelta?_eq_none hdelta
    have hfirst := t.first_le
    exact (ofNanos?_eq_none.2 (.inr (by omega))).symm

theorem add?_eq_some {t t' : Instant} {d : Duration} : t.add? d = some t' ↔ t'.nanos = t.nanos + d.nanos := by
  rw [add?_eq, ofNanos?_eq_some]

/-- **So is an earlier one.** -/
theorem sub?_eq (t : Instant) (d : Duration) : t.sub? d = ofNanos? (t.nanos - d.nanos) := by
  unfold sub?
  cases hdelta : d.toDelta? with
  | some delta =>
    rw [← Duration.toDelta?_eq_some.1 hdelta]
    rfl
  | none =>
    have hlong := clock_lt_of_toDelta?_eq_none hdelta
    have hlast := t.le_last
    exact (ofNanos?_eq_none.2 (.inl (by omega))).symm

/-- The time from `a` to `b`, nothing when `b` is not later. -/
def since (b a : Instant) : Duration := ⟨(b.nanos - a.nanos).toNat⟩

/-- Whole seconds since the epoch, rounded down. -/
def seconds (t : Instant) : Int := t.nanos / nanosPerSecond

/-- Nanoseconds beyond the whole seconds. -/
def subsecNanos (t : Instant) : Nat := (t.nanos % nanosPerSecond).toNat

end Instant

end Roster
