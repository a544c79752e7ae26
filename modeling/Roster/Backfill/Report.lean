import Roster.Time.Duration

/-!
# Reports of a backfill

* `MemberTally` — what paging through the members of one group did.
* `BackfillReport` — what a whole run did; `BackfillReport.text` is its summary.
-/

set_option autoImplicit false

namespace Roster

/-- Counts of one pass over the members of a group. -/
structure MemberTally where
  pages : Nat
  fetched : Nat
  cached : Nat
  factsCreated : Nat
  factsTouched : Nat
  errors : Nat
deriving DecidableEq, Repr

/-- Nothing done yet. -/
def MemberTally.zero : MemberTally := ⟨0, 0, 0, 0, 0, 0⟩

/-- Counts of a run. -/
structure BackfillReport where
  restored : Nat
  groupsProcessed : Nat
  groupsFailed : Nat
  groupsCached : Nat
  roleListsCached : Nat
  channelsCached : Nat
  membersCached : Nat
  factsCreated : Nat
  factsTouched : Nat
  errors : Nat
  elapsed : Duration
deriving DecidableEq, Repr

namespace BackfillReport

/-- Nothing done yet. -/
def zero : BackfillReport := ⟨0, 0, 0, 0, 0, 0, 0, 0, 0, 0, .zero⟩

/-- Whether no step failed. -/
def succeeded (r : BackfillReport) : Bool := r.errors == 0

/-- Count one more error. -/
def fail (r : BackfillReport) : BackfillReport := { r with errors := r.errors + 1 }

/-- Add the counts of a pass over members. -/
def addTally (r : BackfillReport) (p : MemberTally) : BackfillReport :=
  { r with
    membersCached := r.membersCached + p.cached
    factsCreated := r.factsCreated + p.factsCreated
    factsTouched := r.factsTouched + p.factsTouched
    errors := r.errors + p.errors }

/-- The summary of a run. -/
def text (r : BackfillReport) : String :=
  s!"{r.groupsProcessed} groups ({r.groupsFailed} failed) in {r.elapsed.text}: " ++
  s!"restored {r.restored}, cached {r.groupsCached} groups / {r.roleListsCached} role lists / " ++
  s!"{r.channelsCached} channels / {r.membersCached} members, " ++
  s!"facts {r.factsCreated} new / {r.factsTouched} touched, {r.errors} errors"

end BackfillReport

end Roster
