import Roster.Proofs.Backfill.Counts
import Roster.Store.Tables

/-!
# Steps of a backfill as equations

* `Backfill.cacheIfAbsent_eq`, `cacheMember_eq` — caching a record counts one when it was written.
* `Backfill.readJoins_eq` — what a pass over members knows of the facts that were there before it.
* `Backfill.pages_capped`, `pages_error`, `pages_empty`, `pages_page` — the four ways on from a page.
* `Backfill.runAll`, `run_eq` — a run is a reload and then one group after the other.
-/

set_option autoImplicit false

namespace Roster.Backfill

variable {ρ τ : Type}

/-- A record that was written counts as one. -/
theorem cacheIfAbsent_eq (k : Kind) (key : String) (r : k.Record) (w : World ρ τ) :
    cacheIfAbsent k key r w = ((w.cache.insertUnlessLive k key r w.now).1.toNat,
      { w with cache := (w.cache.insertUnlessLive k key r w.now).2 }) := by
  unfold cacheIfAbsent
  split <;> rename_i hins <;> rw [hins] <;> rfl

/-- A member is cached as any record is. -/
theorem cacheMember_eq (m : Member) (p : MemberTally) (w : World ρ τ) :
    cacheMember m p w = ({ p with cached := p.cached + (cacheIfAbsent .member m.id.text m w).1 },
      (cacheIfAbsent .member m.id.text m w).2) := by
  rw [cacheIfAbsent_eq]
  unfold cacheMember
  split <;> rename_i hins <;> rw [hins] <;> rfl

/-- A pass starts with the join times that the store has. -/
theorem readJoins_eq (b : Backfill) (groupId : String) (w : World ρ TableStore) : b.readJoins groupId w =
    (if b.recordsFacts then some (.ofList (w.store.groupJoins groupId)) else none, .zero, w) := by
  unfold readJoins
  cases b.recordsFacts <;> rfl

/-! ## Paging -/

variable [Store τ] [Platform ρ] (b : Backfill) {groupId : String} {known : JoinsRead} {after : Option String}
  {p : MemberTally} {w w' : World ρ τ}

omit [Store τ] [Platform ρ] in
/-- How many members the next page may have. -/
def pageLimit (p : MemberTally) : Nat := min (b.settings.cap - p.fetched) maxPageSize

theorem pages_capped (h : ¬p.fetched < b.settings.cap) : b.pages groupId known after p w = (p, w) := by
  rw [pages, dif_neg h]

theorem pages_error (h : p.fetched < b.settings.cap) {err : PlatformError}
    (hask : w.ask (.members groupId after (b.pageLimit p)) = (.error err, w')) :
    b.pages groupId known after p w = ({ p with errors := p.errors + 1 }, w') := by
  rw [pages, dif_pos h]
  unfold pageLimit at hask
  simp only [hask]

theorem pages_empty (h : p.fetched < b.settings.cap)
    (hask : w.ask (.members groupId after (b.pageLimit p)) = (.ok [], w')) :
    b.pages groupId known after p w = ({ p with pages := p.pages + 1 }, w') := by
  rw [pages, dif_pos h]
  unfold pageLimit at hask
  simp only [hask]

theorem pages_page (h : p.fetched < b.settings.cap) {page : List Member} (hpage : page ≠ [])
    (hask : w.ask (.members groupId after (b.pageLimit p)) = (.ok page, w')) :
    b.pages groupId known after p w =
      if page.length < b.pageLimit p then
        (addPage p page (b.takePage known page w').1, (b.takePage known page w').2)
      else b.pages groupId known (some (page.getLast hpage).userId)
        (addPage p page (b.takePage known page w').1) (b.takePage known page w').2 := by
  rw [pages, dif_pos h]
  unfold pageLimit at hask ⊢
  cases page with
  | nil => exact absurd rfl hpage
  | cons m rest => simp only [hask]

/-! ## Runs -/

/-- Fill in groups one after the other. -/
def runAll (groupIds : List String) (acc : BackfillReport × World ρ τ) : BackfillReport × World ρ τ :=
  groupIds.foldl b.runGroup acc

/-- A run up to its last group. -/
def upToLast (w : World ρ τ) : BackfillReport × World ρ τ :=
  b.runAll (b.groupIds w.reload.2) (w.reload.1.report, w.reload.2)

theorem run_eq (w : World ρ τ) :
    b.run w = ({ (b.upToLast w).1 with elapsed := (b.upToLast w).2.now.since w.now }, (b.upToLast w).2) := rfl

end Roster.Backfill
