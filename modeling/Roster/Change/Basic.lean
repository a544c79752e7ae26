import Roster.Record.Kind

/-!
# Changes on the platform

* `Change` — something that changed; `Change.kind` is what handlers subscribe to.
* `Change.groupId` — the group it happened in.
* `Change.subject` — the entity whose cached record it makes stale.  Any change of a role is about
  the whole list of its group.
-/

set_option autoImplicit false

namespace Roster

/-- The kind of a change. -/
inductive ChangeKind where
  | memberUpdated
  | memberRemoved
  | groupUpdated
  | roleCreated
  | roleUpdated
  | roleDeleted
  | channelUpdated
  | channelDeleted
deriving DecidableEq, Repr

namespace ChangeKind

def all : List ChangeKind :=
  [.memberUpdated, .memberRemoved, .groupUpdated, .roleCreated, .roleUpdated, .roleDeleted,
   .channelUpdated, .channelDeleted]

theorem mem_all (k : ChangeKind) : k ∈ all := by cases k <;> decide

theorem nodup_all : all.Nodup := by decide

def name : ChangeKind → String
  | .memberUpdated => "MemberUpdated"
  | .memberRemoved => "MemberRemoved"
  | .groupUpdated => "GroupUpdated"
  | .roleCreated => "RoleCreated"
  | .roleUpdated => "RoleUpdated"
  | .roleDeleted => "RoleDeleted"
  | .channelUpdated => "ChannelUpdated"
  | .channelDeleted => "ChannelDeleted"

def ofName? (s : String) : Option ChangeKind := all.find? fun k => k.name = s

end ChangeKind

/-- A change on the platform. -/
inductive Change where
  | memberUpdated (member : Member)
  | memberRemoved (id : MemberId)
  | groupUpdated (group : Group)
  | roleCreated (groupId : String) (role : Role)
  | roleUpdated (groupId : String) (role : Role)
  | roleDeleted (groupId roleId : String)
  | channelUpdated (channel : Channel)
  | channelDeleted (groupId channelId : String)
deriving DecidableEq, Repr

namespace Change

def kind : Change → ChangeKind
  | .memberUpdated _ => .memberUpdated
  | .memberRemoved _ => .memberRemoved
  | .groupUpdated _ => .groupUpdated
  | .roleCreated _ _ => .roleCreated
  | .roleUpdated _ _ => .roleUpdated
  | .roleDeleted _ _ => .roleDeleted
  | .channelUpdated _ => .channelUpdated
  | .channelDeleted _ _ => .channelDeleted

/-- The group a change belongs to. -/
def groupId : Change → String
  | .memberUpdated m => m.groupId
  | .memberRemoved id => id.group
  | .groupUpdated g => g.id
  | .roleCreated g _ => g
  | .roleUpdated g _ => g
  | .roleDeleted g _ => g
  | .channelUpdated c => c.groupId
  | .channelDeleted g _ => g

/-- The entity a change is about. -/
def subject : Change → Entity
  | .memberUpdated m => .member m.id
  | .memberRemoved id => .member id
  | .groupUpdated g => .group g.id
  | .roleCreated g _ => .roles g
  | .roleUpdated g _ => .roles g
  | .roleDeleted g _ => .roles g
  | .channelUpdated c => .channel c.id
  | .channelDeleted _ c => .channel c

end Change

end Roster
