import Roster.Record.Member

/-!
# Roles

The platform hands out the roles of a group all at once, so they are kept as one list per group.

* `Role` — one role, with its JSON form.
* `RoleList` — the roles of a group and when they were fetched, with its JSON form.
-/

set_option autoImplicit false

namespace Roster

/-- A role. -/
structure Role where
  id : String
  name : String
  position : Int64
  permissions : UInt64
  color : UInt32
  managed : Bool
deriving DecidableEq, Repr

namespace Role

/-- A role with nothing but a name. -/
def new (id name : String) : Role := ⟨id, name, 0, 0, 0, false⟩

def fieldNames : List String := ["id", "name", "position", "permissions", "color", "managed"]

def toJson (r : Role) : Json :=
  .obj [("id", .str r.id), ("name", .str r.name), ("position", .integer r.position.toInt),
    ("permissions", .nat r.permissions.toNat), ("color", .nat r.color.toNat),
    ("managed", .bool r.managed)]

def ofJson? (v : Json) : Option Role := do
  match ← v.slots fieldNames with
  | [id, name, position, permissions, color, managed] =>
    some {
      id := ← Json.required Json.asString? id
      name := ← Json.required Json.asString? name
      position := ← Json.defaulted 0 Json.asInt64? position
      permissions := ← Json.defaulted 0 Json.asUInt64? permissions
      color := ← Json.defaulted 0 Json.asUInt32? color
      managed := ← Json.defaulted false Json.asBool? managed }
  | _ => none

instance : JsonRecord Role := ⟨toJson, ofJson?⟩

end Role

/-- The roles of a group. -/
structure RoleList where
  groupId : String
  roles : List Role
  fetchedAt : Timestamp
deriving DecidableEq, Repr

namespace RoleList

/-- Roles fetched at an instant. -/
def fetched (groupId : String) (roles : List Role) (now : Instant) : RoleList :=
  ⟨groupId, roles, .ofInstant now⟩

def size (l : RoleList) : Nat := l.roles.length

def isEmpty (l : RoleList) : Bool := l.roles.isEmpty

def fieldNames : List String := ["group_id", "roles", "fetched_at"]

def toJson (l : RoleList) : Json :=
  .obj [("group_id", .str l.groupId), ("roles", .array (l.roles.map Role.toJson)),
    ("fetched_at", l.fetchedAt.toJson)]

def ofJson? (v : Json) : Option RoleList := do
  match ← v.slots fieldNames with
  | [groupId, roles, fetchedAt] =>
    some {
      groupId := ← Json.required Json.asString? groupId
      roles := ← Json.required (Json.asList? Role.ofJson?) roles
      fetchedAt := ← Json.required Timestamp.ofJson? fetchedAt }
  | _ => none

instance : JsonRecord RoleList := ⟨toJson, ofJson?⟩

end RoleList

end Roster
