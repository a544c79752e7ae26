import Roster.Proofs.Backfill.Contents

/-!
# Runs

* `Action`, `World.act` — what sessions, backfills, changes, saving, the store and the clock can do to a world.
* `World.run` — actions one after the other.
* `World.holds_act`, `World.holds_run` — **a property that the platform delivers holds along every run** when it
  holds at the start.
-/

set_option autoImplicit false

namespace Roster

/-- One action on a world. -/
inductive Action where
  | get (e : Entity)
  | backfill (b : Backfill)
  | fillMembers (b : Backfill) (groupId : String)
  | refresh (b : Backfill) (groupId : String) (users : List String)
  /-- A session learns of a change. -/
  | change (event : Change)
  | save
  | reload
  | prune
  | upkeep (u : Upkeep)

namespace World

variable {ρ : Type} [Platform ρ]

/-- The world after an action. -/
def act (w : World ρ TableStore) : Action → World ρ TableStore
  | .get e => (Session.get w e).2
  | .backfill b => (b.run w).2
  | .fillMembers b groupId => (b.fillMembers groupId w).2
  | .refresh b groupId users => (b.refresh groupId users w).2
  | .change event => w.forget event
  | .save => w.save.2
  | .reload => w.reload.2
  | .prune => (w.useStore (Store.prune w.now)).2
  | .upkeep u => w.upkeep u

/-- The world after a run. -/
def run (w : World ρ TableStore) (actions : List Action) : World ρ TableStore := actions.foldl act w

variable {P : (k : Kind) → Entry k.Record → Prop} {serving : ρ → Prop} {w : World ρ TableStore}

/-- One action keeps a property that the platform delivers. -/
theorem holds_act (hd : Delivers P serving) (h : w.Holds P serving) (action : Action) :
    (w.act action).Holds P serving := by
  cases action with
  | get e => exact holds_get hd h e
  | backfill b => exact b.holds_run hd h
  | fillMembers b groupId => exact b.holds_fillMembers hd h groupId
  | refresh b groupId users => exact b.holds_refresh hd h groupId users
  | change event => exact h.withCache (holds_forget h.cache event)
  | save => exact holds_save h
  | reload => exact holds_reload h
  | prune => exact h.withStore (TableStore.holds_pruned h.store w.now)
  | upkeep u =>
    have hc := holds_upkeep h.cache u
    cases u <;> exact ⟨hc, h.store, h.observed, h.platform⟩

/-- **A property that the platform delivers holds along every run.** -/
theorem holds_run (hd : Delivers P serving) (h : w.Holds P serving) (actions : List Action) :
    (w.run actions).Holds P serving :=
  List.foldlRecOn actions act h fun _ hw action _ => holds_act hd hw action

end World

end Roster
