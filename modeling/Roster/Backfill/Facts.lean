import Roster.Record.Member
import Roster.Store.Basic

/-!
# Facts about members

* `noteFacts` — note down the facts of a member seen while paging: create what is missing, touch what is
  there.  A recorded join time is never replaced.  Tells whether anything was created.  As with `replaceFacts`,
  `seen` is when the member was seen and `now` the time of writing.
* `replaceFacts` — replace the facts of a member that was fetched on its own.  A recorded join time stays when
  the platform reports none.
* `touchFacts` — touch both facts of a member.
-/

set_option autoImplicit false

namespace Roster

variable {τ : Type} [Store τ]

/-- Continue with the answer of a step, or stop at its error. -/
def Outcome.andThen {α β : Type} (o : Outcome τ α) (f : α → τ → Outcome τ β) : Outcome τ β :=
  match o with
  | (.ok a, st) => f a st
  | (.error e, st) => (.error e, st)

/-- The join fact: touched when it is known to be there, else recorded unless it turns out to be there. -/
def noteJoin (m : Member) (known : Option Bool) (seen now : Instant) (st : τ) : Outcome τ Bool :=
  if known = some true then
    Outcome.andThen (Store.touchJoin now m.id st) fun _ st => (.ok false, st)
  else
    Store.recordFirstJoin now m.id (m.joinedAt.getD (.ofInstant seen)) st

/-- The roles fact: recorded when the member has roles and none are recorded, else touched. -/
def noteRoles (m : Member) (seen now : Instant) (st : τ) : Outcome τ Bool :=
  if m.roleIds.isEmpty then
    Outcome.andThen (Store.touchRoles now m.id st) fun _ st => (.ok false, st)
  else
    Outcome.andThen (Store.rolesOf m.id st) fun recorded st =>
      if recorded.isEmpty then
        Outcome.andThen (Store.recordRoles now m.id m.roleIds seen st) fun _ st =>
          (.ok true, st)
      else
        Outcome.andThen (Store.touchRoles now m.id st) fun _ st => (.ok false, st)

/-- Both facts of a member.  `known` is what an earlier reading of the join facts says, if there was one. -/
def noteFacts (m : Member) (known : Option Bool) (seen now : Instant) (st : τ) : Outcome τ Bool :=
  Outcome.andThen (noteJoin m known seen now st) fun joinCreated st =>
    Outcome.andThen (noteRoles m seen now st) fun rolesCreated st =>
      (.ok (joinCreated || rolesCreated), st)

/-- Replace both facts of a member.  `seen` is when the member was asked for, `now` the time of writing. -/
def replaceFacts (m : Member) (seen now : Instant) (st : τ) : Outcome τ Unit :=
  let joined := match m.joinedAt with
    | some joinedAt => Store.recordJoin now m.id joinedAt st
    | none =>
      Outcome.andThen (Store.recordFirstJoin now m.id (.ofInstant seen) st) fun _ st =>
        (.ok (), st)
  Outcome.andThen joined fun _ st => Store.recordRoles now m.id m.roleIds seen st

/-- Touch both facts of a member, the second one also when the first fails. -/
def touchFacts (id : MemberId) (now : Instant) (st : τ) : Outcome τ Unit :=
  let (joined, st) := Store.touchJoin now id st
  let (roles, st) := Store.touchRoles now id st
  match joined with
  | .error e => (.error e, st)
  | .ok () => (roles, st)

end Roster
