import Roster.Json.Parser
import Roster.Json.Printer
import Roster.Time.Instant

/-!
# Documents

The rows of the store as a document database keeps them: times are milliseconds since the epoch.

* `CacheDocument` — a saved cache entry; `CacheDocument.row` is the row it stands for.
* `JoinDocument`, `RolesDocument` — when a member joined, and the roles a member had.
* A document that was read from the database has an `_id` in front.  It is left out when there is none, and
  no other is accepted here.
-/

set_option autoImplicit false

namespace Roster

/-- A saved cache entry as it is read back. -/
structure SavedEntry where
  key : String
  payload : String
  expiresAt : Option Instant
deriving DecidableEq, Repr

/-- An absent `_id`. -/
def noId? (slot : Option Json) : Option Unit :=
  match slot with
  | none => some ()
  | some .null => some ()
  | some _ => none

/-- A saved cache entry. -/
structure CacheDocument where
  key : String
  typeTag : String
  payload : String
  expiresAt : Option Int64
  updatedAt : Int64
deriving DecidableEq, Repr

namespace CacheDocument

def fieldNames : List String := ["_id", "key", "type_tag", "payload", "expires_at", "updated_at"]

def toJson (d : CacheDocument) : Json :=
  .obj [("key", .str d.key), ("type_tag", .str d.typeTag), ("payload", .str d.payload),
    ("expires_at", Json.orNull (fun n => .integer n.toInt) d.expiresAt),
    ("updated_at", .integer d.updatedAt.toInt)]

def ofJson? (v : Json) : Option CacheDocument := do
  match ← v.slots fieldNames with
  | [id, key, typeTag, payload, expiresAt, updatedAt] =>
    noId? id
    some {
      key := ← Json.required Json.asString? key
      typeTag := ← Json.required Json.asString? typeTag
      payload := ← Json.required Json.asString? payload
      expiresAt := ← Json.optional Json.asInt64? expiresAt
      updatedAt := ← Json.required Json.asInt64? updatedAt }
  | _ => none

instance : JsonRecord CacheDocument := ⟨toJson, ofJson?⟩

/-- The row of a document.  An expiry that the clock cannot show is none. -/
def row (d : CacheDocument) : SavedEntry :=
  ⟨d.key, d.payload, d.expiresAt.bind fun ms => Instant.ofMillis? ms.toInt⟩

end CacheDocument

/-- When a member joined. -/
structure JoinDocument where
  groupId : String
  memberId : String
  joinedAt : Int64
  lastTouched : Int64
deriving DecidableEq, Repr

namespace JoinDocument

def fieldNames : List String := ["_id", "group_id", "member_id", "joined_at", "last_touched"]

def toJson (d : JoinDocument) : Json :=
  .obj [("group_id", .str d.groupId), ("member_id", .str d.memberId),
    ("joined_at", .integer d.joinedAt.toInt), ("last_touched", .integer d.lastTouched.toInt)]

def ofJson? (v : Json) : Option JoinDocument := do
  match ← v.slots fieldNames with
  | [id, groupId, memberId, joinedAt, lastTouched] =>
    noId? id
    some {
      groupId := ← Json.required Json.asString? groupId
      memberId := ← Json.required Json.asString? memberId
      joinedAt := ← Json.required Json.asInt64? joinedAt
      lastTouched := ← Json.required Json.asInt64? lastTouched }
  | _ => none

instance : JsonRecord JoinDocument := ⟨toJson, ofJson?⟩

/-- The join time; the epoch when the clock cannot show it. -/
def joinTime (d : JoinDocument) : Instant := (Instant.ofMillis? d.joinedAt.toInt).getD .epoch

end JoinDocument

/-- The roles a member had. -/
structure RolesDocument where
  groupId : String
  memberId : String
  roleIds : List String
  observedAt : Int64
  lastTouched : Int64
deriving DecidableEq, Repr

namespace RolesDocument

def fieldNames : List String :=
  ["_id", "group_id", "member_id", "role_ids", "observed_at", "last_touched"]

def toJson (d : RolesDocument) : Json :=
  .obj [("group_id", .str d.groupId), ("member_id", .str d.memberId), ("role_ids", .strs d.roleIds),
    ("observed_at", .integer d.observedAt.toInt), ("last_touched", .integer d.lastTouched.toInt)]

def ofJson? (v : Json) : Option RolesDocument := do
  match ← v.slots fieldNames with
  | [id, groupId, memberId, roleIds, observedAt, lastTouched] =>
    noId? id
    some {
      groupId := ← Json.required Json.asString? groupId
      memberId := ← Json.required Json.asString? memberId
      roleIds := ← Json.defaulted [] (Json.asList? Json.asString?) roleIds
      observedAt := ← Json.required Json.asInt64? observedAt
      lastTouched := ← Json.required Json.asInt64? lastTouched }
  | _ => none

instance : JsonRecord RolesDocument := ⟨toJson, ofJson?⟩

end RolesDocument

end Roster
