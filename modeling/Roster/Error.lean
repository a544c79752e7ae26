import Roster.Json.Fault
import Roster.Time.Duration

/-!
# Errors

* `PlatformError` — why the platform did not answer a request.
* `Error` — why an operation that touches the store, the platform or the settings failed.
* `PlatformError.message`, `Error.message` — the wording of each.
-/

set_option autoImplicit false

namespace Roster

/-- Why the platform did not answer. -/
inductive PlatformError where
  | notFound (kind id : String)
  | rateLimited (retryAfter : Duration)
  | http (text : String)
  | other (text : String)
deriving DecidableEq, Repr

def PlatformError.message : PlatformError → String
  | .notFound kind id => s!"{kind} {id} not found"
  | .rateLimited retryAfter => s!"rate limited, retry after {retryAfter.text}"
  | .http text => s!"http error: {text}"
  | .other text => text

/-- Why an operation failed. -/
inductive Error where
  /-- The store refused or failed. -/
  | store (text : String)
  /-- The platform did not answer. -/
  | platform (cause : PlatformError)
  /-- A record could not be written as JSON. -/
  | encode (key : String) (cause : JsonFault)
  /-- Some entries could not be saved. -/
  | unsaved (failed total : Nat)
  /-- A setting is malformed. -/
  | config (text : String)
deriving DecidableEq, Repr

def Error.message : Error → String
  | .store text => s!"durable store error: {text}"
  | .platform cause => cause.message
  | .encode key cause => s!"failed to encode cache entry '{key}': {cause.message}"
  | .unsaved failed total => s!"persist finished with {failed} of {total} entries failing"
  | .config text => s!"configuration error: {text}"

end Roster
