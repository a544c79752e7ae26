import Roster.Segment.Entries
import Roster.Segment.Settings

/-!
# Segments

A segment holds the records of one kind under text keys, in order of use: an entry that is read or
written moves to the front, and what has to make room leaves from the back.

* `Segment` — the entries, most recently used first, with their number, time to live, limit and counters.
* `Segment.get` — a read: counts a hit or a miss, drops the entry when it has expired, moves it to the
  front when it is live.  `Segment.peek` and `Segment.contains` look without a trace.
* `Segment.insert`, `insertUntil`, `insertUnlessLive` — writes; a new key makes room first.
* `Segment.restore` — a write that never makes room and never replaces, for reloading saved entries.
* `Segment.erase`, `clear`, `sweep`, `sweepWith`, `withLimit` — removals.

The empty key is never stored: a read of it is a miss, a write of it does nothing.  The number of entries is
kept beside them, to be told without a look at them: `Segment.recount` brings it up to date.
-/

set_option autoImplicit false

namespace Roster

/-- The records of one kind. -/
structure Segment (α : Type) where
  name : String
  entries : Entries α
  /-- The number of entries, expired ones included, as it was last counted. -/
  size : Nat
  ttlMillis : Nat
  limit : Nat
  hits : Nat
  misses : Nat
  evictions : Nat
deriving Repr

namespace Segment

variable {α : Type}

/-- An empty segment. -/
def new (name : String) (settings : SegmentSettings) : Segment α :=
  ⟨name, .empty, 0, Roster.ttlMillis settings.ttl, settings.capacity, 0, 0, 0⟩

/-! ## Looking -/

/-- The entry under a key, expired or not. -/
def find? (s : Segment α) (key : String) : Option (Entry α) := s.entries.find? key

/-- The entry under a key, if it is live. -/
def live? (s : Segment α) (key : String) (now : Instant) : Option (Entry α) :=
  (s.find? key).filter fun e => !e.hasExpired now

/-- Whether there is no entry. -/
def isEmpty (s : Segment α) : Bool := s.size == 0

/-- The keys, most recently used first. -/
def keys (s : Segment α) : List String := s.entries.keys

/-- Whether a key has a live entry. -/
def contains (s : Segment α) (key : String) (now : Instant) : Bool := (s.live? key now).isSome

/-- The live record under a key. -/
def peek (s : Segment α) (key : String) (now : Instant) : Option α :=
  (s.live? key now).map Entry.value

/-- When the entry under a key expires; `none` also when there is no entry. -/
def expiration? (s : Segment α) (key : String) : Option Instant :=
  (s.find? key).bind Entry.expiresAt

/-- The time to live, `none` when switched off. -/
def ttl (s : Segment α) : Option Duration :=
  if s.ttlMillis = 0 then none else some (.ofMillis s.ttlMillis)

/-- The expiry of an entry written now: none without a time to live, none when that is too long for a sign, and
none when it lies beyond the last instant. -/
def expiryFrom (s : Segment α) (now : Instant) : Option Instant :=
  s.ttl.bind now.add?

/-! ## Moving and dropping entries -/

/-- Count the entries anew. -/
def recount (s : Segment α) : Segment α := { s with size := s.entries.size }

/-- Without the entry under a key. -/
def without (s : Segment α) (key : String) : Segment α :=
  { s with entries := s.entries.without key }

/-- With an entry in front, in place of any other under its key. -/
def toFront (s : Segment α) (e : Entry α) (h : e.key ≠ "") : Segment α :=
  { s with entries := s.entries.toFront e h }

/-- The `n` most recently used entries; the others count as evicted. -/
def keepRecent (s : Segment α) (n : Nat) : Segment α :=
  { s with entries := s.entries.take n, evictions := s.evictions + (s.entries.size - n) }

/-- Evict until one more entry fits. -/
def withRoom (s : Segment α) : Segment α :=
  if s.limit = 0 ∨ s.entries.size < s.limit then s else s.keepRecent (s.limit - 1)

/-! ## Reading -/

/-- Count a miss. -/
def miss (s : Segment α) : Segment α := { s with misses := s.misses + 1 }

/-- Read a record. -/
def get (s : Segment α) (key : String) (now : Instant) : Option α × Segment α :=
  match h : s.find? key with
  | none => (none, s.miss)
  | some e =>
    if e.hasExpired now then (none, (s.without key).recount.miss)
    else (some e.value, { s.toFront e (Entries.named_of_find? h) with hits := s.hits + 1 })

/-! ## Writing -/

/-- Write a record with an expiry of its own.  A key that is present keeps its place in the count, a
new one makes room first. -/
def insertUntil (s : Segment α) (key : String) (value : α) (expiresAt : Option Instant) :
    Segment α :=
  if h : key = "" then s
  else if (s.find? key).isSome then s.toFront ⟨key, value, expiresAt⟩ h
  else (s.withRoom.toFront ⟨key, value, expiresAt⟩ h).recount

/-- Write a record with the segment's time to live. -/
def insert (s : Segment α) (key : String) (value : α) (now : Instant) : Segment α :=
  s.insertUntil key value (s.expiryFrom now)

/-- Write a record unless its key has a live entry; tells whether it was written. -/
def insertUnlessLive (s : Segment α) (key : String) (value : α) (now : Instant) : Bool × Segment α :=
  if h : key = "" then (false, s)
  else
    let put (s : Segment α) := (true, (s.withRoom.toFront ⟨key, value, s.expiryFrom now⟩ h).recount)
    match s.find? key with
    | none => put s
    | some e => if e.hasExpired now then put (s.without key) else (false, s)

/-- Put back a saved entry with its own expiry unless its key is present, expired or not.  Nothing
makes room, so the segment may end up above its limit. -/
def restore (s : Segment α) (key : String) (value : α) (expiresAt : Option Instant) :
    Bool × Segment α :=
  if h : key = "" then (false, s)
  else if (s.find? key).isSome then (false, s)
  else (true, (s.toFront ⟨key, value, expiresAt⟩ h).recount)

/-! ## Removing -/

/-- Remove the entry under a key; tells whether there was one. -/
def erase (s : Segment α) (key : String) : Bool × Segment α :=
  ((s.find? key).isSome, (s.without key).recount)

/-- Remove every entry; the counters stay. -/
def clear (s : Segment α) : Segment α := { s with entries := .empty, size := 0 }

/-- The entries expired at a time, and the segment without them. -/
def splitExpired (s : Segment α) (time : Instant) : List (Entry α) × Segment α :=
  ((s.entries.keep fun e => e.hasExpired time).list,
   { s with entries := s.entries.keep fun e => !e.hasExpired time }.recount)

/-- Remove the entries expired at a time; tells how many. -/
def sweep (s : Segment α) (time : Instant) : Nat × Segment α :=
  let (expired, rest) := s.splitExpired time
  (expired.length, rest)

/-- Remove the entries expired at a time, then visit each of them, most recently used first.  A visit
may use the segment, and carries a value of its own along. -/
def sweepWith {σ : Type} (s : Segment α) (time : Instant)
    (visit : Entry α → Segment α × σ → Segment α × σ) (init : σ) : Nat × Segment α × σ :=
  let (expired, rest) := s.splitExpired time
  (expired.length, expired.foldl (fun acc e => visit e acc) (rest, init))

/-! ## Settings -/

/-- Change the time to live of entries written from now on. -/
def withTtl (s : Segment α) (ttl : Option Duration) : Segment α :=
  { s with ttlMillis := Roster.ttlMillis ttl }

/-- Change the limit; what is above it leaves at once. -/
def withLimit (s : Segment α) (limit : Nat) : Segment α :=
  let s := { s with limit }
  if limit = 0 then s else (s.keepRecent limit).recount

end Segment

end Roster
