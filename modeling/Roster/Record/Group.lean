import Roster.Json.Parser
import Roster.Json.Printer

/-!
# Groups

* `Group` — what the platform tells about a group, with its JSON form.
-/

set_option autoImplicit false

namespace Roster

/-- A group. -/
structure Group where
  id : String
  name : String
  ownerId : String
  memberCount : Option UInt64
  icon : Option String
deriving DecidableEq, Repr

namespace Group

/-- A group with nothing but a name and an owner. -/
def new (id name ownerId : String) : Group := ⟨id, name, ownerId, none, none⟩

def fieldNames : List String := ["id", "name", "owner_id", "member_count", "icon"]

def toJson (g : Group) : Json :=
  .obj ([("id", .str g.id), ("name", .str g.name), ("owner_id", .str g.ownerId)]
    ++ Json.field? "member_count" (fun n => .nat n.toNat) g.memberCount
    ++ Json.field? "icon" .str g.icon)

def ofJson? (v : Json) : Option Group := do
  match ← v.slots fieldNames with
  | [id, name, ownerId, memberCount, icon] =>
    some {
      id := ← Json.required Json.asString? id
      name := ← Json.required Json.asString? name
      ownerId := ← Json.required Json.asString? ownerId
      memberCount := ← Json.optional Json.asUInt64? memberCount
      icon := ← Json.optional Json.asString? icon }
  | _ => none

instance : JsonRecord Group := ⟨toJson, ofJson?⟩

end Group

end Roster
