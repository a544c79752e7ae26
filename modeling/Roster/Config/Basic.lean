import Roster.Cache.Settings
import Roster.Config.EnvFile
import Roster.Error
import Roster.Text.LowerCase
import Roster.Text.Quoted
import Roster.Word

/-!
# The configuration

* `Config` — what the service is told by its environment.
* `Config.load` — the configuration of a source of variables, or the first setting that is malformed, in this
  order: for members, groups, roles and channels the time to live and then the capacity; the sweep interval;
  persistence; the interval of saving; the retention of facts; the reload at the start.
* A variable that is missing or blank leaves its default.
-/

set_option autoImplicit false

namespace Roster

/-- A malformed setting. -/
inductive SettingFault where
  | number (name text : String) (cause : NumberFault)
  | boolean (name text : String)
deriving DecidableEq, Repr

namespace SettingFault

/-- The variable at fault. -/
def variableName : SettingFault → String
  | .number name _ _ => name
  | .boolean name _ => name

def message : SettingFault → String
  | .number name text cause => s!"{name}={Text.quoted text}: {cause.message}"
  | .boolean name text => s!"{name}={Text.quoted text} is not a boolean"

def toError (f : SettingFault) : Error := .config f.message

end SettingFault

/-- The number in a variable. -/
def Variables.number? (vars : Variables) (name : String) : Except SettingFault (Option Nat) :=
  match vars name with
  | none => .ok none
  | some raw =>
    let text := Text.trim raw
    if text = "" then .ok none
    else
      match readWord text.toList with
      | .ok n => .ok (some n)
      | .error cause => .error (.number name text cause)

/-- The words for yes and no. -/
def booleanWord? (word : String) : Option Bool :=
  if ["1", "true", "yes", "on"].contains word then some true
  else if ["0", "false", "no", "off"].contains word then some false
  else none

/-- The truth value in a variable. -/
def Variables.boolean? (vars : Variables) (name : String) : Except SettingFault (Option Bool) :=
  match vars name with
  | none => .ok none
  | some raw =>
    let word := Text.lowerCase (Text.trim raw)
    if word = "" then .ok none
    else
      match booleanWord? word with
      | some b => .ok (some b)
      | none => .error (.boolean name word)

/-- The text in a variable, as it is, unless it is blank. -/
def Variables.text? (vars : Variables) (name : String) : Option String :=
  (vars name).filter fun s => Text.trim s ≠ ""

/-- What the service is told by its environment. -/
structure Config where
  databaseUri : Option String
  databaseName : String
  cache : CacheSettings
  reloadOnStart : Bool
  saveInterval : Duration
  retention : Duration
deriving DecidableEq, Repr

namespace Config

/-- The time to live after a number of seconds was given: zero switches it off. -/
def ttlOf (preset : Option Duration) : Option Nat → Option Duration
  | none => preset
  | some 0 => none
  | some secs => some (.ofSeconds secs)

/-- The settings of a segment on top of a preset. -/
def segment (vars : Variables) (name : String) (preset : SegmentSettings) :
    Except SettingFault SegmentSettings := do
  let secs ← vars.number? ("CACHE_" ++ name ++ "_TTL_SECS")
  let capacity ← vars.number? ("CACHE_" ++ name ++ "_MAX")
  return ⟨capacity.getD preset.capacity, ttlOf preset.ttl secs⟩

/-- The variables that a configuration is read from. -/
def variableNames : List String :=
  ["MONGODB_URI", "MONGODB_DATABASE", "CACHE_SWEEP_SECS", "CACHE_PERSISTENCE",
    "PERSIST_INTERVAL_SECS", "FACT_RETENTION_DAYS", "WARMUP_ON_START"] ++
  ["MEMBER", "GROUP", "ROLE", "CHANNEL"].flatMap fun name =>
    ["CACHE_" ++ name ++ "_TTL_SECS", "CACHE_" ++ name ++ "_MAX"]

/-- Ten minutes unless a number of seconds above zero is given. -/
def saveIntervalOf : Option Nat → Duration
  | none => .ofSeconds 600
  | some 0 => .ofSeconds 600
  | some secs => .ofSeconds secs

/-- Days as a duration, cut off at the largest number of seconds of 64 bits. -/
def retentionOf (days : Option Nat) : Duration :=
  .ofSeconds (min (days.getD 30 * 86400) maxWord)

/-- The configuration of a source of variables. -/
def load (vars : Variables) : Except SettingFault Config := do
  let members ← segment vars "MEMBER" .members
  let groups ← segment vars "GROUP" .groups
  let roles ← segment vars "ROLE" .roles
  let channels ← segment vars "CHANNEL" .channels
  let sweep ← vars.number? "CACHE_SWEEP_SECS"
  let persistence ← vars.boolean? "CACHE_PERSISTENCE"
  let saveSecs ← vars.number? "PERSIST_INTERVAL_SECS"
  let days ← vars.number? "FACT_RETENTION_DAYS"
  let reloadOnStart ← vars.boolean? "WARMUP_ON_START"
  return {
    databaseUri := vars.text? "MONGODB_URI"
    databaseName := (vars.text? "MONGODB_DATABASE").getD "elysium"
    cache := {
      members, groups, roles, channels
      sweepInterval := (sweep.map Duration.ofSeconds).getD CacheSettings.standardSweepInterval
      persistence := persistence.getD false }
    reloadOnStart := reloadOnStart.getD true
    saveInterval := saveIntervalOf saveSecs
    retention := retentionOf days }

end Config

end Roster
