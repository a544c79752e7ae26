import Roster.Segment.Settings

/-!
# Settings of the cache

* `CacheSettings` — one segment per kind of record, how often expired entries are swept, and whether the
  cache is saved.
-/

set_option autoImplicit false

namespace Roster

/-- Settings of the cache. -/
structure CacheSettings where
  members : SegmentSettings
  groups : SegmentSettings
  roles : SegmentSettings
  channels : SegmentSettings
  sweepInterval : Duration
  persistence : Bool
deriving DecidableEq, Repr

namespace CacheSettings

/-- Five minutes. -/
def standardSweepInterval : Duration := .ofSeconds 300

/-- A preset per kind, swept every five minutes and not saved. -/
def standard : CacheSettings :=
  ⟨.members, .groups, .roles, .channels, standardSweepInterval, false⟩

/-- The interval that is used: an interval of zero gives way to the default. -/
def sweepPeriod (s : CacheSettings) : Duration :=
  if s.sweepInterval = .zero then standardSweepInterval else s.sweepInterval

end CacheSettings

end Roster
