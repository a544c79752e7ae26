import Roster.Error
import Roster.Record.Kind

/-!
# The remote platform

* `Request` — what can be asked of the platform; `Request.Answer` is the type of each answer.
* `Platform` — a platform: it answers a request at an instant, and tells what the clock shows afterwards.
  Rate limits and repeated attempts are its own affair; an error is final.
-/

set_option autoImplicit false

namespace Roster

/-- Most members that the platform returns on a page. -/
abbrev maxPageSize : Nat := 1000

/-- A request to the platform. -/
inductive Request where
  | group (id : String)
  /-- All roles of a group. -/
  | roles (groupId : String)
  | channel (id : String)
  /-- All channels of a group. -/
  | channels (groupId : String)
  | member (id : MemberId)
  /-- A page of members in the order of their user ids, from behind `after` on. -/
  | members (groupId : String) (after : Option String) (limit : Nat)
deriving DecidableEq, Repr

/-- What a request is answered with. -/
abbrev Request.Answer : Request → Type
  | .group _ => Group
  | .roles _ => List Role
  | .channel _ => Channel
  | .channels _ => List Channel
  | .member _ => Member
  | .members _ _ _ => List Member

/-- A platform with a state of its own. -/
class Platform (ρ : Type) where
  /-- The answer to a request at an instant, the instant after it, and the platform after it. -/
  ask : (q : Request) → Instant → ρ → Except PlatformError q.Answer × Instant × ρ

end Roster
