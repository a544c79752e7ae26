import Roster.Cache.Settings
import Roster.Cache.Sweeper
import Roster.Record.Kind
import Roster.Segment.Report

/-!
# The cache

* `Cache` — one segment per kind of record, with a sweeper and the settings for saving.
* `Cache.segment`, `Cache.withSegment` — the segment of a kind, and another one in its place.
* `Cache.get`, `insert`, `erase` — one record, by the entity it is about.
* `Cache.sweep`, `clear`, `poll` — all segments at once.
* `segment_withSegment`, `segment_withSegment_ne` — a segment is changed alone.
-/

set_option autoImplicit false

namespace Roster

/-- The records of the four kinds. -/
structure Cache where
  members : Segment Member
  groups : Segment Group
  roles : Segment RoleList
  channels : Segment Channel
  persistence : Bool
  hasStore : Bool
  sweeper : Sweeper
deriving Repr

namespace Cache

/-- An empty cache.  It is swept when there is a timer. -/
def new (settings : CacheSettings) (hasStore hasTimer : Bool) (timer : Duration) : Cache :=
  { members := .new "members" settings.members
    groups := .new "groups" settings.groups
    roles := .new "roles" settings.roles
    channels := .new "channels" settings.channels
    persistence := settings.persistence
    hasStore := hasStore
    sweeper := .start hasTimer settings.sweepPeriod timer }

/-! ## Segments -/

/-- The segment of a kind. -/
def segment (c : Cache) : (k : Kind) → Segment k.Record
  | .member => c.members
  | .group => c.groups
  | .roles => c.roles
  | .channel => c.channels

/-- Another segment in the place of the one of a kind. -/
def withSegment (c : Cache) : (k : Kind) → Segment k.Record → Cache
  | .member, s => { c with members := s }
  | .group, s => { c with groups := s }
  | .roles, s => { c with roles := s }
  | .channel, s => { c with channels := s }

@[simp] theorem segment_withSegment (c : Cache) (k : Kind) (s : Segment k.Record) :
    (c.withSegment k s).segment k = s := by cases k <;> rfl

theorem segment_withSegment_ne (c : Cache) {j k : Kind} (s : Segment k.Record) (h : j ≠ k) :
    (c.withSegment k s).segment j = c.segment j := by
  cases j <;> cases k <;> first | rfl | exact absurd rfl h

/-! ## One record -/

/-- Read the record of an entity. -/
def get (c : Cache) (e : Entity) (now : Instant) : Option e.Record × Cache :=
  let (found, s) := (c.segment e.kind).get e.key now
  (found, c.withSegment e.kind s)

/-- Write the record of an entity. -/
def insert (c : Cache) (e : Entity) (r : e.Record) (now : Instant) : Cache :=
  c.withSegment e.kind ((c.segment e.kind).insert e.key r now)

/-- Remove the record of an entity. -/
def erase (c : Cache) (e : Entity) : Cache :=
  c.withSegment e.kind ((c.segment e.kind).erase e.key).2

/-- Write the record of a kind under a key unless a live one is there; tells whether it was written. -/
def insertUnlessLive (c : Cache) (k : Kind) (key : String) (r : k.Record) (now : Instant) :
    Bool × Cache :=
  let (written, s) := (c.segment k).insertUnlessLive key r now
  (written, c.withSegment k s)

/-! ## Settings -/

def withTtl (c : Cache) (k : Kind) (ttl : Option Duration) : Cache :=
  c.withSegment k ((c.segment k).withTtl ttl)

def withLimit (c : Cache) (k : Kind) (limit : Nat) : Cache :=
  c.withSegment k ((c.segment k).withLimit limit)

/-- Whether the cache is saved and reloaded. -/
def isPersistent (c : Cache) : Bool := c.persistence && c.hasStore

/-! ## All segments -/

/-- Remove every entry of every segment. -/
def clear (c : Cache) : Cache :=
  { c with
    members := c.members.clear
    groups := c.groups.clear
    roles := c.roles.clear
    channels := c.channels.clear }

/-- Remove the expired entries of one segment; tells how many. -/
def sweepKind (c : Cache) (now : Instant) (k : Kind) : Nat × Cache :=
  let (n, s) := (c.segment k).sweep now
  (n, c.withSegment k s)

/-- Remove the expired entries of every segment; tells how many. -/
def sweep (c : Cache) (now : Instant) : Nat × Cache :=
  Kind.all.foldl
    (fun (n, c) k =>
      let (m, c) := sweepKind c now k
      (n + m, c))
    (0, c)

/-- Stop the sweeper. -/
def stop (c : Cache) : Cache := { c with sweeper := c.sweeper.stop }

def isSweeping (c : Cache) : Bool := c.sweeper.isRunning

/-- Let the sweeper act: sweep if that is due on the timer. -/
def poll (c : Cache) (timer : Duration) (now : Instant) : Cache :=
  let (due, sweeper) := c.sweeper.poll timer
  let c := { c with sweeper }
  if due then (c.sweep now).2 else c

/-! ## Reports -/

/-- Reports on the four segments, in the order of the kinds. -/
def reports (c : Cache) : List SegmentReport := Kind.all.map fun k => (c.segment k).report

/-- A count added up over the four segments. -/
def total (c : Cache) (count : SegmentReport → Nat) : Nat :=
  c.reports.foldl (fun n s => n + count s) 0

/-- Number of entries. -/
def size (c : Cache) : Nat := c.total SegmentReport.size

def hits (c : Cache) : Nat := c.total SegmentReport.hits

def misses (c : Cache) : Nat := c.total SegmentReport.misses

def evictions (c : Cache) : Nat := c.total SegmentReport.evictions

/-- The share of hits among all reads. -/
def hitRate (c : Cache) : Float := rate c.hits (c.hits + c.misses)

/-- The sizes on one line. -/
def describe (c : Cache) : String :=
  Text.braced "UnifiedCache"
    [("members", toString c.members.size), ("groups", toString c.groups.size),
     ("roles", toString c.roles.size), ("channels", toString c.channels.size),
     ("persistence", toString c.isPersistent)]

end Cache

end Roster
