import Roster.Json.Parser
import Roster.Json.Printer
import Roster.Time.Rfc3339
import Std.Data.TreeMap

/-!
# Members

* `MemberId` — a membership: a group and a user in it.
* `MemberId.text` — both ids with a colon between; `MemberId.key` — the same as a key of a segment, empty
  when either id is empty.  Memberships are ordered by group, then by user.
* `Member` — what the platform tells about a membership, with its JSON form.
-/

set_option autoImplicit false

namespace Roster

/-- JSON of a timestamp: its text. -/
def Timestamp.toJson (t : Timestamp) : Json := .str t.text

/-- The timestamp that a JSON text names. -/
def Timestamp.ofJson? (v : Json) : Option Timestamp := v.asString?.bind Timestamp.parse?

/-- A user in a group. -/
structure MemberId where
  group : String
  user : String
deriving DecidableEq, Repr

namespace MemberId

/-- Both ids with a colon between. -/
def text (id : MemberId) : String := id.group ++ ":" ++ id.user

instance : Ord MemberId := ⟨compareLex (compareOn group) (compareOn user)⟩

instance : Std.TransOrd MemberId :=
  inferInstanceAs (Std.TransCmp (compareLex (compareOn group) (compareOn user)))

instance : Std.LawfulEqOrd MemberId where
  eq_of_compare {a b} h := by
    have h : compareLex (compareOn group) (compareOn user) a b = .eq := h
    have h' : a.group = b.group ∧ a.user = b.user := by
      simpa only [compareLex, compareOn, Ordering.then_eq_eq, Std.LawfulEqOrd.compare_eq_iff_eq]
        using h
    cases a
    cases b
    simp_all

/-- The key of a membership; there is none (the empty key) when an id is missing. -/
def key (id : MemberId) : String := if id.group = "" ∨ id.user = "" then "" else id.text

end MemberId

/-- A membership. -/
structure Member where
  groupId : String
  userId : String
  username : String
  displayName : Option String
  roleIds : List String
  joinedAt : Option Timestamp
  isBot : Bool
deriving DecidableEq, Repr

namespace Member

/-- A member with nothing but a name. -/
def new (groupId userId username : String) : Member :=
  ⟨groupId, userId, username, none, [], none, false⟩

/-- The membership a record is about. -/
def id (m : Member) : MemberId := ⟨m.groupId, m.userId⟩

def fieldNames : List String :=
  ["group_id", "user_id", "username", "display_name", "role_ids", "joined_at", "is_bot"]

def toJson (m : Member) : Json :=
  .obj ([("group_id", .str m.groupId), ("user_id", .str m.userId), ("username", .str m.username)]
    ++ Json.field? "display_name" .str m.displayName
    ++ [("role_ids", .strs m.roleIds)]
    ++ Json.field? "joined_at" Timestamp.toJson m.joinedAt
    ++ [("is_bot", .bool m.isBot)])

def ofJson? (v : Json) : Option Member := do
  match ← v.slots fieldNames with
  | [groupId, userId, username, displayName, roleIds, joinedAt, isBot] =>
    some {
      groupId := ← Json.required Json.asString? groupId
      userId := ← Json.required Json.asString? userId
      username := ← Json.required Json.asString? username
      displayName := ← Json.optional Json.asString? displayName
      roleIds := ← Json.defaulted [] (Json.asList? Json.asString?) roleIds
      joinedAt := ← Json.optional Timestamp.ofJson? joinedAt
      isBot := ← Json.defaulted false Json.asBool? isBot }
  | _ => none

instance : JsonRecord Member := ⟨toJson, ofJson?⟩

end Member

end Roster
