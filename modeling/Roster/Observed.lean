import Roster.Change.Basic
import Roster.Text.Braced

/-!
# Observed records

What is known from changes alone, without a request.

* `Observed` — members, groups, role lists and channels by their ids.
* `Observed.update` — fold one change into it.  A role list is changed only if it is known in full.
* `Observed.lookup?` — the record of an entity, a role list dated with the time of the lookup.
-/

set_option autoImplicit false

namespace Roster

/-- Records known from changes. -/
structure Observed where
  members : Std.TreeMap MemberId Member
  groups : Std.TreeMap String Group
  roles : Std.TreeMap String (List Role)
  channels : Std.TreeMap String Channel
deriving Repr

namespace Observed

/-- Nothing known. -/
def empty : Observed := ⟨∅, ∅, ∅, ∅⟩

def putMember (s : Observed) (m : Member) : Observed :=
  { s with members := s.members.insert m.id m }

def putGroup (s : Observed) (g : Group) : Observed :=
  { s with groups := s.groups.insert g.id g }

/-- Set the full role list of a group. -/
def putRoles (s : Observed) (groupId : String) (roles : List Role) : Observed :=
  { s with roles := s.roles.insert groupId roles }

def putChannel (s : Observed) (c : Channel) : Observed :=
  { s with channels := s.channels.insert c.id c }

/-- Put a role in the place of the first one with its id, or at the end. -/
def patchRole (role : Role) : List Role → List Role
  | [] => [role]
  | r :: rest => if r.id = role.id then role :: rest else r :: patchRole role rest

/-- Without the roles of an id. -/
def dropRole (roleId : String) (roles : List Role) : List Role :=
  roles.filter fun r => r.id ≠ roleId

/-- Fold a change in. -/
def update (s : Observed) : Change → Observed
  | .memberUpdated m => s.putMember m
  | .memberRemoved id => { s with members := s.members.erase id }
  | .groupUpdated g => s.putGroup g
  | .roleCreated g role => { s with roles := s.roles.modify g (patchRole role) }
  | .roleUpdated g role => { s with roles := s.roles.modify g (patchRole role) }
  | .roleDeleted g roleId => { s with roles := s.roles.modify g (dropRole roleId) }
  | .channelUpdated c => s.putChannel c
  | .channelDeleted _ channelId => { s with channels := s.channels.erase channelId }

/-- The record of an entity. -/
def lookup? (s : Observed) (now : Instant) : (e : Entity) → Option e.Record
  | .member id => s.members[id]?
  | .group id => s.groups[id]?
  | .roles g => s.roles[g]?.map fun roles => RoleList.fetched g roles now
  | .channel id => s.channels[id]?

/-- The ids of the known groups in their order. -/
def groupIds (s : Observed) : List String := s.groups.keys

/-- The sizes on one line. -/
def describe (s : Observed) : String :=
  Text.braced "StateSnapshot"
    [("members", toString s.members.size), ("groups", toString s.groups.size),
     ("channels", toString s.channels.size)]

end Observed

end Roster
