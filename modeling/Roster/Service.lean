import Roster.Cache.Saving
import Roster.Config.Basic
import Roster.Log.Filter
import Roster.Store.Uri
import Roster.Text.Fixed

/-!
# The service

The service keeps a cache on a store: it reloads the cache when it starts, prunes the store, and saves the
cache when it stops.

* `Service.start` — from the environment and the settings file to a running service, or to what ends it, with
  the lines told on the way.
* `Service.stop` — the lines of an orderly end.
* `Failure` — what ends the service before it runs, with what is reported and the exit code.
* What is told goes through the filter that the environment names.
-/

set_option autoImplicit false

namespace Roster

/-- What ends the service before it runs. -/
inductive Failure where
  /-- An error, which is reported. -/
  | error (cause : Error)
  /-- A collapse: the settings file or the filter of the log cannot be taken at all. -/
  | collapse
deriving DecidableEq, Repr

namespace Failure

/-- What is reported. -/
def report : Failure → String
  | error cause => s!"Error: {cause.message}"
  | collapse => ""

def exitCode : Failure → UInt32
  | error _ => 1
  | collapse => 101

end Failure

/-- A running service. -/
structure Service where
  config : Config
  cache : Cache
  store : TableStore
  filter : LogFilter

namespace Service

/-- Lines told, and a value or what ends the service. -/
abbrev Step (α : Type) : Type := List LogLine × Except Failure α

/-- Continue after a step unless it ended the service. -/
def Step.andThen {α β : Type} (s : Step α) (f : α → Step β) : Step β :=
  match s with
  | (lines, .error e) => (lines, .error e)
  | (lines, .ok a) =>
    let (more, r) := f a
    (lines ++ more, r)

/-- Read the configuration. -/
def configure (vars : Variables) : Step Config :=
  match Config.load vars with
  | .error fault => ([.info .service "Starting Elysium mirror..."], .error (.error fault.toError))
  | .ok config =>
    ([.info .service "Starting Elysium mirror...", .info .service "Configuration loaded successfully"],
      .ok config)

/-- Open the store. -/
def openStep (config : Config) : Step TableStore :=
  let line := match config.databaseUri with
    | none => .warn .store "MONGODB_URI not set, using the in-memory store (nothing survives a restart)"
    | some _ => .info .store "Connecting to MongoDB..."
  ([line], (TableStore.ofUri config.databaseUri config.retention).mapError .error)

/-- The line that tells of a new cache. -/
def cacheLine (c : Cache) : LogLine :=
  .info .cache s!"Unified cache initialized (persistence: {c.persistence}, store attached: {c.hasStore})"

/-- The lines of a reload. -/
def reloadLines (c : Cache) (r : Reload) : List LogLine :=
  (if c.isPersistent then
    [.info .saving s!"Cache warmup loaded {r.loaded} entries from durable store"] else []) ++
  [match r.result with
    | .ok n => .info .service s!"Restored {n} cache entries"
    | .error e => .warn .service s!"Cache reload incomplete: {e.message}"]

/-- Prune the store. -/
def prune (s : Service) (now : Instant) : List LogLine × Service :=
  match Store.prune now s.store with
  | (.ok n, store) =>
    ([.info .service (s!"Cleanup removed {n.total} rows ({n.entries} cache, " ++
      s!"{n.joins} joins, {n.roles} roles)")], { s with store })
  | (.error e, store) => ([.warn .service s!"Cleanup failed: {e.message}"], { s with store })

/-- Set up the cache on an open store, reload it when asked to, and prune the store. -/
def setUp (filter : LogFilter) (config : Config) (store : TableStore) (now : Instant) : Step Service :=
  let cache := Cache.new config.cache true true .zero
  let (lines, cache, store) :=
    if config.reloadOnStart then
      let (r, reloaded, store) := cache.reload store
      (reloadLines cache r, reloaded, store)
    else ([], cache, store)
  let (pruned, service) := prune ⟨config, cache, store, filter⟩ now
  (cacheLine cache :: lines ++ .info .service "Mirror running, press Ctrl-C to stop" :: pruned,
    .ok service)

/-- Start the service on variables and with a filter of the log. -/
def run (filter : LogFilter) (vars : Variables) (now : Instant) : Step Service :=
  let (lines, result) :=
    (configure vars).andThen fun config =>
      (openStep config).andThen fun store => setUp filter config store now
  (filter.keep lines, result)

/-- Start the service in an environment and with the text of a settings file. -/
def start (environment : Variables) (file : String) (now : Instant) : Step Service :=
  match envFile? environment file with
  | none => ([], .error .collapse)
  | some vars =>
    match LogFilter.ofVariable? (vars LogFilter.variableName) with
    | none => ([], .error .collapse)
    | some filter => run filter vars now

/-- The lines of a save. -/
def saveLines (c : Cache) (n : SaveCount) : List LogLine :=
  if !c.isPersistent then []
  else
    match n.result with
    | .ok () => [.info .saving s!"Cache persisted ({n.total} entries)"]
    | .error e =>
      [.error .saving s!"Cache persist: {n.failed} of {n.total} entries failed",
       .error .service s!"Final persist failed: {e.message}"]

/-- The line that tells of the end. -/
def lastLine (c : Cache) : LogLine :=
  .info .service s!"Stopped ({c.size} entries, hit rate {Text.fixed 1 (c.hitRate * 100)}%)"

/-- Stop the service: stop sweeping and save the cache. -/
def stop (s : Service) : List LogLine × Service :=
  let cache := s.cache.stop
  let (n, store) := cache.save s.store
  let lines := [.info .service "Shutting down...", .info .sweeping "Cache sweeper stop requested"] ++
    saveLines cache n ++ [lastLine cache]
  (s.filter.keep lines, { s with cache, store })

end Service

end Roster
