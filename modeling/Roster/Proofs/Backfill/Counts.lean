import Mathlib.Algebra.Group.Defs
import Roster.Backfill.Run

/-!
# Counts of a backfill add up

Every step of a backfill only adds to the counts that it is handed, and what it adds depends on the world alone.

* The instance of `AddCommMonoid` — reports are added count by count, so the order of the steps does not matter.
* `MemberTally.report`, `Reload.report` — the counts of a pass over members, and of a reload, as a report.
* `Backfill.fillRecord_add`, `fillRoles_add`, `fillChannels_add` — a step adds what it would report on its own.
-/

set_option autoImplicit false

namespace Roster

namespace BackfillReport

instance : Zero BackfillReport := ⟨zero⟩

instance : Add BackfillReport where
  add r r' :=
    { restored := r.restored + r'.restored
      groupsProcessed := r.groupsProcessed + r'.groupsProcessed
      groupsFailed := r.groupsFailed + r'.groupsFailed
      groupsCached := r.groupsCached + r'.groupsCached
      roleListsCached := r.roleListsCached + r'.roleListsCached
      channelsCached := r.channelsCached + r'.channelsCached
      membersCached := r.membersCached + r'.membersCached
      factsCreated := r.factsCreated + r'.factsCreated
      factsTouched := r.factsTouched + r'.factsTouched
      errors := r.errors + r'.errors
      elapsed := ⟨r.elapsed.nanos + r'.elapsed.nanos⟩ }

theorem zero_def : (0 : BackfillReport) = zero := rfl

theorem add_def (r r' : BackfillReport) : r + r' =
    ⟨r.restored + r'.restored, r.groupsProcessed + r'.groupsProcessed, r.groupsFailed + r'.groupsFailed,
      r.groupsCached + r'.groupsCached, r.roleListsCached + r'.roleListsCached,
      r.channelsCached + r'.channelsCached, r.membersCached + r'.membersCached,
      r.factsCreated + r'.factsCreated, r.factsTouched + r'.factsTouched, r.errors + r'.errors,
      ⟨r.elapsed.nanos + r'.elapsed.nanos⟩⟩ := rfl

/-- Reports are added count by count. -/
instance : AddCommMonoid BackfillReport where
  add_assoc r r' r'' := by simp only [add_def, Nat.add_assoc]
  zero_add r := by simp only [add_def, zero_def, zero, Duration.zero, Nat.zero_add]
  add_zero r := by simp only [add_def, zero_def, zero, Duration.zero, Nat.add_zero]
  add_comm r r' := by simp only [add_def, Nat.add_comm]
  nsmul := nsmulRec

section Add

variable (r r' : BackfillReport)

@[simp] theorem restored_add : (r + r').restored = r.restored + r'.restored := rfl

@[simp] theorem groupsProcessed_add : (r + r').groupsProcessed = r.groupsProcessed + r'.groupsProcessed := rfl

@[simp] theorem groupsFailed_add : (r + r').groupsFailed = r.groupsFailed + r'.groupsFailed := rfl

@[simp] theorem errors_add : (r + r').errors = r.errors + r'.errors := rfl

end Add

/-- One error. -/
def failure : BackfillReport := zero.fail

/-- Records of a kind that were cached. -/
def ofCached : Kind → Nat → BackfillReport
  | .member, n => { zero with membersCached := n }
  | .group, n => { zero with groupsCached := n }
  | .roles, n => { zero with roleListsCached := n }
  | .channel, n => { zero with channelsCached := n }

/-- Facts of one member that were created or touched. -/
def ofFacts (created : Bool) : BackfillReport :=
  if created then { zero with factsCreated := 1 } else { zero with factsTouched := 1 }

/-- A group that was walked, and whether it failed. -/
def ofGroup (errors : Nat) : BackfillReport :=
  { zero with groupsProcessed := 1, groupsFailed := if 0 < errors then 1 else 0 }

/-- Counts of a part of a run: what is counted once for a run or a group is left out. -/
structure OfPart (r : BackfillReport) : Prop where
  restored : r.restored = 0
  processed : r.groupsProcessed = 0
  failed : r.groupsFailed = 0

theorem OfPart.add {r r' : BackfillReport} (h : OfPart r) (h' : OfPart r') : OfPart (r + r') where
  restored := by rw [restored_add, h.restored, h'.restored]
  processed := by rw [groupsProcessed_add, h.processed, h'.processed]
  failed := by rw [groupsFailed_add, h.failed, h'.failed]

theorem ofPart_ofCached (k : Kind) (n : Nat) : OfPart (ofCached k n) := by
  cases k <;> exact ⟨rfl, rfl, rfl⟩

theorem ofPart_ofFacts (created : Bool) : OfPart (ofFacts created) := by
  cases created <;> exact ⟨rfl, rfl, rfl⟩

theorem ofCached_add (k : Kind) (m n : Nat) : ofCached k (m + n) = ofCached k m + ofCached k n := by
  cases k <;> rfl

theorem ofCached_zero (k : Kind) : ofCached k 0 = 0 := by
  cases k <;> rfl

end BackfillReport

/-- The counts of a pass over members as a report. -/
def MemberTally.report (p : MemberTally) : BackfillReport := BackfillReport.zero.addTally p

theorem MemberTally.report_zero : MemberTally.zero.report = 0 := rfl

theorem BackfillReport.addTally_eq (r : BackfillReport) (p : MemberTally) : r.addTally p = r + p.report := by
  simp only [addTally, add_def, MemberTally.report, zero, Duration.zero, Nat.add_zero, Nat.zero_add]

/-- What a run reports once it has reloaded the cache. -/
def Reload.report (reload : Reload) : BackfillReport :=
  match reload.result with
  | .ok restored => { BackfillReport.zero with restored }
  | .error _ => BackfillReport.zero.fail

namespace Backfill

open BackfillReport

variable {ρ τ : Type} [Platform ρ] (groupId : String) (r : BackfillReport) (w : World ρ τ)

theorem report_addPage (p : MemberTally) (page : List Member) (tally : MemberTally) :
    (addPage p page tally).report = p.report + tally.report := by
  simp only [MemberTally.report, addTally, addPage, add_def, zero, Duration.zero, Nat.add_zero, Nat.zero_add]

theorem fillRecord_add :
    fillRecord groupId (r, w) = (r + (fillRecord groupId (0, w)).1, (fillRecord groupId (0, w)).2) := by
  unfold fillRecord
  dsimp only
  split
  · rw [add_zero]
  · split
    · rfl
    · simp only [add_def, zero_def, zero, Duration.zero, Nat.add_zero, Nat.zero_add]

theorem fillRoles_add :
    fillRoles groupId (r, w) = (r + (fillRoles groupId (0, w)).1, (fillRoles groupId (0, w)).2) := by
  unfold fillRoles
  dsimp only
  split
  · rw [add_zero]
  · split
    · rfl
    · rfl

theorem fillChannels_add :
    fillChannels groupId (r, w) = (r + (fillChannels groupId (0, w)).1, (fillChannels groupId (0, w)).2) := by
  unfold fillChannels
  dsimp only
  split
  · rfl
  · simp only [add_def, zero_def, zero, Duration.zero, Nat.add_zero, Nat.zero_add]

end Backfill

end Roster
