import Roster.Error
import Roster.Record.Document
import Roster.Record.Member

/-!
# Durable stores

A store keeps saved cache entries, and two facts about each member: when the member joined and which
roles the member had.  Each fact carries the time it was last touched, which decides when it is dropped.

* `Store` — what the cache and the backfill ask of a store.  Every operation gives an answer or an
  error, and the store after it.
* `PruneCount` — what a pruning removed.
* `oldestKept` — the oldest touch that survives a pruning.
-/

set_option autoImplicit false

namespace Roster

/-- Rows removed by a pruning. -/
structure PruneCount where
  entries : Nat
  joins : Nat
  roles : Nat
deriving DecidableEq, Repr

def PruneCount.total (c : PruneCount) : Nat := c.entries + c.joins + c.roles

/-- The oldest touch that survives a pruning; the first instant when the retention is too long for a
sign or reaches beyond that. -/
def oldestKept (now : Instant) (retention : Duration) : Instant :=
  (now.sub? retention).getD .first

/-- An answer or an error, and the state after it. -/
abbrev Outcome (τ α : Type) : Type := Except Error α × τ

/-- A store with a state of its own. -/
class Store (τ : Type) where
  /-- Save an entry under a tag and a key, in place of any other. -/
  saveEntry : (tag key payload : String) → (expiresAt : Option Instant) → τ → Outcome τ Unit
  /-- The saved entries with a tag. -/
  savedEntries : (tag : String) → τ → Outcome τ (List SavedEntry)
  /-- Record when a member joined, in place of what is recorded. -/
  recordJoin : (now : Instant) → MemberId → (joinedAt : Timestamp) → τ → Outcome τ Unit
  /-- Record when a member joined unless that is recorded, else touch it; tells whether it was new. -/
  recordFirstJoin : (now : Instant) → MemberId → (joinedAt : Timestamp) → τ → Outcome τ Bool
  /-- The recorded join times of a group by user id. -/
  joinsOf : (groupId : String) → τ → Outcome τ (List (String × Timestamp))
  /-- Touch a join time, if there is one. -/
  touchJoin : (now : Instant) → MemberId → τ → Outcome τ Unit
  /-- Record the roles of a member, in place of what is recorded. -/
  recordRoles :
    (now : Instant) → MemberId → (roleIds : List String) → (observedAt : Instant) → τ → Outcome τ Unit
  /-- The recorded roles of a member, none when nothing is recorded. -/
  rolesOf : MemberId → τ → Outcome τ (List String)
  /-- Touch the roles of a member, if they are recorded. -/
  touchRoles : (now : Instant) → MemberId → τ → Outcome τ Unit
  /-- Drop expired entries and facts that were not touched for too long. -/
  prune : (now : Instant) → τ → Outcome τ PruneCount

end Roster
