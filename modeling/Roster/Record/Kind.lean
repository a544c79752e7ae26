import Roster.Record.Channel
import Roster.Record.Group
import Roster.Record.Role

/-!
# Kinds of records

* `Kind` — the four kinds of records the cache holds; `Kind.Record` is the type of each.
* `Kind.tag` — the name of a kind in the store; different kinds have different tags.
* `Entity` — one thing that can be looked up, with its kind and its key in the cache.
* `JsonRecord.encode`, `JsonRecord.decode?` — a record as JSON text and back.
-/

set_option autoImplicit false

namespace Roster

/-- A record as JSON text. -/
def JsonRecord.encode {α : Type} [JsonRecord α] (a : α) : String := (JsonRecord.toJson a).print

/-- The record that a JSON text spells. -/
def JsonRecord.decode? {α : Type} [JsonRecord α] (s : String) : Option α :=
  (Json.parse? s).bind JsonRecord.ofJson?

/-- A kind of records. -/
inductive Kind where
  | member
  | group
  | roles
  | channel
deriving DecidableEq, Repr

namespace Kind

/-- Every kind, in the order in which the cache goes through them. -/
def all : List Kind := [.member, .group, .roles, .channel]

theorem mem_all (k : Kind) : k ∈ all := by cases k <;> decide

/-- The name of a kind in the store. -/
def tag : Kind → String
  | .member => "member"
  | .group => "group"
  | .roles => "roles"
  | .channel => "channel"

theorem tag_injective {j k : Kind} (h : j.tag = k.tag) : j = k := by
  cases j <;> cases k <;> first | rfl | exact absurd h (by decide)

/-- The records of a kind. -/
abbrev Record : Kind → Type
  | .member => Member
  | .group => Group
  | .roles => RoleList
  | .channel => Channel

instance (k : Kind) : JsonRecord k.Record :=
  match k with
  | .member => inferInstanceAs (JsonRecord Member)
  | .group => inferInstanceAs (JsonRecord Group)
  | .roles => inferInstanceAs (JsonRecord RoleList)
  | .channel => inferInstanceAs (JsonRecord Channel)

end Kind

/-- One thing that can be looked up. -/
inductive Entity where
  | member (id : MemberId)
  | group (id : String)
  | roles (groupId : String)
  | channel (id : String)
deriving DecidableEq, Repr

namespace Entity

abbrev kind : Entity → Kind
  | .member _ => .member
  | .group _ => .group
  | .roles _ => .roles
  | .channel _ => .channel

/-- The key of an entity in the segment of its kind. -/
def key : Entity → String
  | .member id => id.key
  | .group id => id
  | .roles groupId => groupId
  | .channel id => id

/-- The record of an entity. -/
abbrev Record (e : Entity) : Type := e.kind.Record

end Entity

end Roster
