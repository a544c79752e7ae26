import Roster.Time.Instant
import Roster.Word

/-!
# Settings of a segment

* `SegmentSettings` — how many entries a segment holds and how long an entry lives.
* `SegmentSettings.members`, `.groups`, `.roles`, `.channels` — one preset per kind of record.
* `ttlMillis` — a time to live as a segment keeps it: whole milliseconds, 64 bits, zero for none.
-/

set_option autoImplicit false

namespace Roster

/-- Capacity (zero is unbounded) and time to live of a segment. -/
structure SegmentSettings where
  capacity : Nat
  ttl : Option Duration
deriving DecidableEq, Repr

namespace SegmentSettings

/-- Ten thousand entries for five minutes. -/
def standard : SegmentSettings := ⟨10000, some (.ofSeconds 300)⟩

/-- The standard time to live with another capacity. -/
def ofCapacity (capacity : Nat) : SegmentSettings := { standard with capacity }

/-- Memberships: many, and they change often. -/
def members : SegmentSettings := ⟨50000, some (.ofSeconds 1800)⟩

/-- Groups: few, and they rarely change. -/
def groups : SegmentSettings := ⟨1000, some (.ofSeconds 3600)⟩

/-- Role lists: one per group, dropped by events. -/
def roles : SegmentSettings := ⟨1000, some (.ofSeconds 3600)⟩

/-- Channels: tens per group. -/
def channels : SegmentSettings := ⟨10000, some (.ofSeconds 3600)⟩

end SegmentSettings

/-- A time to live in whole milliseconds, rounded down and cut off at 64 bits; zero is none. -/
def ttlMillis : Option Duration → Nat
  | none => 0
  | some d => min d.millis maxWord

theorem ttlMillis_le (ttl : Option Duration) : ttlMillis ttl ≤ maxWord := by
  cases ttl with
  | none => exact Nat.zero_le _
  | some d => exact Nat.min_le_right _ _

end Roster
