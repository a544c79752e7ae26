import Roster.Backfill.Members

/-!
# Running a backfill

* `Backfill.fillGroup` — fill in what is missing of one group: its record, its role list, its channels, its
  members.  A step that fails is counted and the next one goes on.
* `Backfill.run` — reload the cache, then fill in the groups one after the other.
-/

set_option autoImplicit false

namespace Roster.Backfill

variable {ρ τ : Type} [Store τ] [Platform ρ]

/-- Cache a record unless a live one is there; tells how many were written. -/
def cacheIfAbsent (k : Kind) (key : String) (r : k.Record) (w : World ρ τ) :
    Nat × World ρ τ :=
  match w.cache.insertUnlessLive k key r w.now with
  | (true, cache) => (1, { w with cache })
  | (false, cache) => (0, { w with cache })

/-- The record of a group, unless a live one is cached. -/
def fillRecord (groupId : String) (acc : BackfillReport × World ρ τ) :
    BackfillReport × World ρ τ :=
  let (r, w) := acc
  if w.cache.groups.contains groupId w.now then (r, w)
  else
    match w.ask (.group groupId) with
    | (.error _, w) => (r.fail, w)
    | (.ok group, w) =>
      let (n, w) := cacheIfAbsent .group groupId group w
      ({ r with groupsCached := r.groupsCached + n }, w)

/-- Whether a live role list with roles is cached. -/
def hasRoles (w : World ρ τ) (groupId : String) : Bool :=
  (w.cache.roles.peek groupId w.now).any fun l => !l.isEmpty

/-- The role list of a group, unless a live one with roles is cached. -/
def fillRoles (groupId : String) (acc : BackfillReport × World ρ τ) :
    BackfillReport × World ρ τ :=
  let (r, w) := acc
  if hasRoles w groupId then (r, w)
  else
    match w.ask (.roles groupId) with
    | (.error _, w) => (r.fail, w)
    | (.ok roles, w) =>
      ({ r with roleListsCached := r.roleListsCached + 1 },
        w.remember (.roles groupId) (RoleList.fetched groupId roles w.now))

/-- Cache one channel unless a live one is there. -/
def takeChannel (acc : Nat × World ρ τ) (c : Channel) : Nat × World ρ τ :=
  let (n, w) := acc
  let (m, w) := cacheIfAbsent .channel c.id c w
  (n + m, w)

/-- The channels of a group. -/
def fillChannels (groupId : String) (acc : BackfillReport × World ρ τ) :
    BackfillReport × World ρ τ :=
  let (r, w) := acc
  match w.ask (.channels groupId) with
  | (.error _, w) => (r.fail, w)
  | (.ok channels, w) =>
    let (n, w) := channels.foldl takeChannel (0, w)
    ({ r with channelsCached := r.channelsCached + n }, w)

/-- One step, if it is switched on. -/
def step (on : Bool) (f : BackfillReport × World ρ τ → BackfillReport × World ρ τ)
    (acc : BackfillReport × World ρ τ) : BackfillReport × World ρ τ :=
  if on then f acc else acc

/-- Fill in one group. -/
def fillGroup (b : Backfill) (groupId : String) (acc : BackfillReport × World ρ τ) :
    BackfillReport × World ρ τ :=
  let acc := step b.settings.groups (fillRecord groupId) acc
  let acc := step b.settings.roles (fillRoles groupId) acc
  let acc := step b.settings.channels (fillChannels groupId) acc
  step b.settings.members
    (fun (r, w) =>
      let (p, w) := b.fillMembers groupId w
      (r.addTally p, w))
    acc

/-- Fill in one group and count it. -/
def runGroup (b : Backfill) (acc : BackfillReport × World ρ τ) (groupId : String) :
    BackfillReport × World ρ τ :=
  let before := acc.1.errors
  let (r, w) := b.fillGroup groupId acc
  ({ r with
      groupsProcessed := r.groupsProcessed + 1
      groupsFailed := r.groupsFailed + if r.errors > before then 1 else 0 }, w)

/-- The groups to walk. -/
def groupIds (b : Backfill) (w : World ρ τ) : List String :=
  b.settings.groupIds.getD w.observed.groupIds

/-- Reload the cache and fill in the groups. -/
def run (b : Backfill) (w : World ρ τ) : BackfillReport × World ρ τ :=
  let start := w.now
  let (reload, w) := w.reload
  let report := match reload.result with
    | .ok restored => { BackfillReport.zero with restored }
    | .error _ => BackfillReport.zero.fail
  let (r, w) := (b.groupIds w).foldl b.runGroup (report, w)
  ({ r with elapsed := w.now.since start }, w)

end Roster.Backfill
