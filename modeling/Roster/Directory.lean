import Roster.Platform

/-!
# A platform in memory

* `Directory` — the records of a platform that never change, and which requests it refuses.
* `Directory.answer` — the answer to a request.  A page of members follows the order of the user ids.
* `DirectoryServer` — a directory that notes down what it was asked.  It answers at once.
-/

set_option autoImplicit false

namespace Roster

/-- The records of a platform. -/
structure Directory where
  groups : List Group
  roles : String → List Role
  channels : List Channel
  members : List Member
  /-- Groups whose requests all fail. -/
  failingGroups : List String
  /-- Users whose memberships cannot be asked for one by one. -/
  failingUsers : List String

namespace Directory

/-- No records and no failures. -/
def empty : Directory := ⟨[], fun _ => [], [], [], [], []⟩

/-- What was looked up, or that there is none. -/
def found {α : Type} (kind id : String) : Option α → Except PlatformError α
  | some a => .ok a
  | none => .error (.notFound kind id)

/-- The answer of a group, unless the group fails. -/
def ofGroup {α : Type} (d : Directory) (groupId : String) (answer : Except PlatformError α) :
    Except PlatformError α :=
  if groupId ∈ d.failingGroups then .error (.http s!"500 for group {groupId}") else answer

/-- The members of a group in the order of their user ids. -/
def membersOf (d : Directory) (groupId : String) : List Member :=
  (d.members.filter fun m => m.groupId = groupId).mergeSort fun a b => decide (a.userId ≤ b.userId)

/-- A page of members from behind a user id on. -/
def page (d : Directory) (groupId : String) (after : Option String) (limit : Nat) : List Member :=
  ((d.membersOf groupId).filter fun m => after.all fun cursor => decide (cursor < m.userId)).take
    (min limit maxPageSize)

/-- One member, unless the user fails. -/
def member (d : Directory) (id : MemberId) : Except PlatformError Member :=
  if id.user ∈ d.failingUsers then .error (.http s!"500 for member {id.user}")
  else found "member" id.user ((d.membersOf id.group).find? fun m => m.userId = id.user)

/-- The answer to a request. -/
def answer (d : Directory) : (q : Request) → Except PlatformError q.Answer
  | .group id => d.ofGroup id (found "group" id (d.groups.find? fun g => g.id = id))
  | .roles g => d.ofGroup g (.ok (d.roles g))
  | .channel id => found "channel" id (d.channels.find? fun c => c.id = id)
  | .channels g => d.ofGroup g (.ok (d.channels.filter fun c => c.groupId = g))
  | .member id => d.ofGroup id.group (d.member id)
  | .members g after limit => d.ofGroup g (.ok (d.page g after limit))

end Directory

/-- A directory and the requests it was asked, the last one at the end. -/
structure DirectoryServer where
  directory : Directory
  requests : List Request

instance : Platform DirectoryServer where
  ask q now p := (p.directory.answer q, now, { p with requests := p.requests ++ [q] })

end Roster
