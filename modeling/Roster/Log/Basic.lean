/-!
# Lines of the log

* `LogLine` — a line: its level, its text, and the part of the service that it is from.
* `LogSource.path` — the name by which a filter knows a part.
-/

set_option autoImplicit false

namespace Roster

inductive LogLevel where
  | info
  | warn
  | error
deriving DecidableEq, Repr

def LogLevel.name : LogLevel → String
  | .info => "INFO"
  | .warn => "WARN"
  | .error => "ERROR"

/-- The parts of the service that tell something. -/
inductive LogSource where
  | service
  | store
  | cache
  | saving
  | sweeping
deriving DecidableEq, Repr

def LogSource.path : LogSource → String
  | .service => "elysium_mirror"
  | .store => "elysium_mirror::database"
  | .cache => "elysium_mirror::cache::unified"
  | .saving => "elysium_mirror::cache::persist"
  | .sweeping => "elysium_mirror::cache::sweeper"

/-- A line of the log. -/
structure LogLine where
  level : LogLevel
  source : LogSource
  text : String
deriving DecidableEq, Repr

namespace LogLine

def info (source : LogSource) (text : String) : LogLine := ⟨.info, source, text⟩

def warn (source : LogSource) (text : String) : LogLine := ⟨.warn, source, text⟩

def error (source : LogSource) (text : String) : LogLine := ⟨.error, source, text⟩

end LogLine

end Roster
