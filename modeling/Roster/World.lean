import Roster.Cache.Saving
import Roster.Change.Hub
import Roster.Observed
import Roster.Platform

/-!
# The world

* `World` — the clock, the platform, the store, the cache and the observed records, and which session is open.
* `World.ask` — a request to the platform, which may take time.
* `World.useStore` — an operation of the store.
* `World.remember` — write a record to the cache.
* `Subscriber`, `World.notify` — who waits for changes, and what each does: the observed records take the
  change in, an open session drops the record that the change makes stale.
-/

set_option autoImplicit false

namespace Roster

/-- All that a session and a backfill work on. -/
structure World (ρ τ : Type) where
  now : Instant
  platform : ρ
  store : τ
  cache : Cache
  observed : Observed
  /-- The number of the open session. -/
  session : Option Nat

/-- Who waits for changes. -/
inductive Subscriber where
  | observed
  | session (number : Nat)
deriving DecidableEq, Repr

namespace World

variable {ρ τ : Type}

/-- Ask the platform. -/
def ask [Platform ρ] (w : World ρ τ) (q : Request) : Except PlatformError q.Answer × World ρ τ :=
  let (answer, now, platform) := Platform.ask q w.now w.platform
  (answer, { w with now, platform })

/-- Use the store. -/
def useStore {α : Type} (w : World ρ τ) (f : τ → Outcome τ α) : Except Error α × World ρ τ :=
  let (answer, store) := f w.store
  (answer, { w with store })

/-- Write the record of an entity to the cache. -/
def remember (w : World ρ τ) (e : Entity) (r : e.Record) : World ρ τ :=
  { w with cache := w.cache.insert e r w.now }

/-- Drop the record that a change makes stale. -/
def forget (w : World ρ τ) (event : Change) : World ρ τ :=
  { w with cache := w.cache.erase event.subject }

/-- Let a subscriber know of a change.  A session that is not open any more does nothing. -/
def notify (s : Subscriber) (event : Change) (w : World ρ τ) : World ρ τ :=
  match s with
  | .observed => { w with observed := w.observed.update event }
  | .session number => if w.session = some number then w.forget event else w

/-- Save the cache. -/
def save [Store τ] (w : World ρ τ) : SaveCount × World ρ τ :=
  let (n, store) := w.cache.save w.store
  (n, { w with store })

/-- Reload the cache. -/
def reload [Store τ] (w : World ρ τ) : Reload × World ρ τ :=
  let (r, cache, store) := w.cache.reload w.store
  (r, { w with cache, store })

end World

end Roster
