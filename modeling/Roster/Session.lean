import Roster.World

/-!
# Sessions

A session answers a lookup from the cache, else from the observed records, else from the platform, and
writes what it found below the cache back to it.  An error of the platform is handed on as it is.

* `Session.fetch` — the record of an entity from the platform, a role list dated when it arrives.
* `Session.get` — the lookup.
-/

set_option autoImplicit false

namespace Roster.Session

variable {ρ τ : Type} [Platform ρ]

/-- The record of an entity from the platform. -/
def fetch (w : World ρ τ) : (e : Entity) → Except PlatformError e.Record × World ρ τ
  | .member id => w.ask (.member id)
  | .group id => w.ask (.group id)
  | .channel id => w.ask (.channel id)
  | .roles g =>
    let (answer, w) := w.ask (.roles g)
    (answer.map fun roles => RoleList.fetched g roles w.now, w)

/-- What the cache does not have: from the observed records or the platform. -/
def getBelow (w : World ρ τ) (e : Entity) : Except PlatformError e.Record × World ρ τ :=
  match w.observed.lookup? w.now e with
  | some r => (.ok r, w.remember e r)
  | none =>
    match fetch w e with
    | (.ok r, w) => (.ok r, w.remember e r)
    | (.error err, w) => (.error err, w)

/-- Look an entity up. -/
def get (w : World ρ τ) (e : Entity) : Except PlatformError e.Record × World ρ τ :=
  match w.cache.get e w.now with
  | (some r, cache) => (.ok r, { w with cache })
  | (none, cache) => getBelow { w with cache } e

/-- A session on one line. -/
def describe (w : World ρ τ) : String :=
  Text.braced "CachedSession" [("cache", w.cache.describe)]

end Roster.Session
