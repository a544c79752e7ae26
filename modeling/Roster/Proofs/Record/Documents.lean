import Roster.Proofs.Record.RoundTrip
import Roster.Record.Document

/-!
# Documents written and read

* `CacheDocument.lawful`, `JoinDocument.lawful`, `RolesDocument.lawful` — a document without an `_id` is read
  back as it was written; a field that may be `null` is always written.
* `JsonRecord.RoundTrips` — the text of a record spells its JSON form, and is decoded as the record.
* `JsonRecord.roundTrips_all` — **every record and every document round-trips**, whatever its texts,
  numbers, times and missing fields.
-/

set_option autoImplicit false

namespace Roster

/-- A part that is written as `null` when there is none. -/
theorem Json.optional_orNull {α : Type} {f : Json → Option α} {g : α → Json} (h : ∀ a, f (g a) = some a)
    (hnull : ∀ a, g a ≠ .null) (o : Option α) : optional f (some (orNull g o)) = some o := by
  cases o with
  | none => rfl
  | some a =>
    have hsome : optional f ((some a).map g) = some (some a) := optional_map h hnull (some a)
    exact hsome

theorem Json.plain_orNull {α : Type} {g : α → Json} (h : ∀ a, (g a).Plain) (o : Option α) :
    (orNull g o).Plain := by
  cases o with
  | none => trivial
  | some a => exact h a

namespace CacheDocument

/-- The fields of a saved entry, the missing `_id` included. -/
def slots (d : CacheDocument) : List (String × Option Json) :=
  [("_id", none), ("key", some (.str d.key)), ("type_tag", some (.str d.typeTag)),
    ("payload", some (.str d.payload)),
    ("expires_at", some (Json.orNull (fun n => .integer n.toInt) d.expiresAt)),
    ("updated_at", some (.integer d.updatedAt.toInt))]

theorem toJson_eq (d : CacheDocument) : d.toJson = .obj (Json.given d.slots) := rfl

theorem lawful : JsonRecord.Lawful CacheDocument where
  plain d := by
    show d.toJson.Plain
    rw [toJson_eq]
    apply Json.plain_obj_given
    simp [slots, Json.plain_orNull]
  readBack d := by
    show ofJson? d.toJson = some d
    have hslots := Json.slots_given d.slots (show fieldNames.Nodup by decide)
    have hexpires := Json.optional_orNull Json.asInt64?_integer (fun _ => by simp) d.expiresAt
    rw [toJson_eq, ofJson?, show fieldNames = d.slots.map Prod.fst from rfl, hslots]
    simp only [slots, List.map_cons, List.map_nil, Option.bind_eq_bind, Option.bind_some, noId?,
      Json.required, Json.asString?_str, Json.asInt64?_integer, hexpires]

end CacheDocument

namespace JoinDocument

/-- The fields of a join time, the missing `_id` included. -/
def slots (d : JoinDocument) : List (String × Option Json) :=
  [("_id", none), ("group_id", some (.str d.groupId)), ("member_id", some (.str d.memberId)),
    ("joined_at", some (.integer d.joinedAt.toInt)), ("last_touched", some (.integer d.lastTouched.toInt))]

theorem toJson_eq (d : JoinDocument) : d.toJson = .obj (Json.given d.slots) := rfl

theorem lawful : JsonRecord.Lawful JoinDocument where
  plain d := by
    show d.toJson.Plain
    rw [toJson_eq]
    apply Json.plain_obj_given
    simp [slots]
  readBack d := by
    show ofJson? d.toJson = some d
    have hslots := Json.slots_given d.slots (show fieldNames.Nodup by decide)
    rw [toJson_eq, ofJson?, show fieldNames = d.slots.map Prod.fst from rfl, hslots]
    simp only [slots, List.map_cons, List.map_nil, Option.bind_eq_bind, Option.bind_some, noId?,
      Json.required, Json.asString?_str, Json.asInt64?_integer]

end JoinDocument

namespace RolesDocument

/-- The fields of the roles of a member, the missing `_id` included. -/
def slots (d : RolesDocument) : List (String × Option Json) :=
  [("_id", none), ("group_id", some (.str d.groupId)), ("member_id", some (.str d.memberId)),
    ("role_ids", some (.strs d.roleIds)), ("observed_at", some (.integer d.observedAt.toInt)),
    ("last_touched", some (.integer d.lastTouched.toInt))]

theorem toJson_eq (d : RolesDocument) : d.toJson = .obj (Json.given d.slots) := rfl

theorem lawful : JsonRecord.Lawful RolesDocument where
  plain d := by
    show d.toJson.Plain
    rw [toJson_eq]
    apply Json.plain_obj_given
    simp [slots]
  readBack d := by
    show ofJson? d.toJson = some d
    have hslots := Json.slots_given d.slots (show fieldNames.Nodup by decide)
    rw [toJson_eq, ofJson?, show fieldNames = d.slots.map Prod.fst from rfl, hslots]
    simp only [slots, List.map_cons, List.map_nil, Option.bind_eq_bind, Option.bind_some, noId?,
      Json.required, Json.defaulted, Json.asString?_str, Json.asInt64?_integer, Json.asList?_strs]

end RolesDocument

/-! ## All of them -/

/-- The text of a record spells its JSON form, and is decoded as the record. -/
def JsonRecord.RoundTrips (α : Type) [JsonRecord α] : Prop :=
  ∀ a : α, Json.parse? (encode a) = some (toJson a) ∧ decode? (encode a) = some a

theorem JsonRecord.Lawful.roundTrips {α : Type} [JsonRecord α] (h : Lawful α) : RoundTrips α :=
  fun a => ⟨Json.parse?_print (h.plain a), decode?_encode h a⟩

/-- **Every record and every document round-trips.** -/
theorem JsonRecord.roundTrips_all :
    RoundTrips Member ∧ RoundTrips Group ∧ RoundTrips RoleList ∧ RoundTrips Channel ∧
      RoundTrips CacheDocument ∧ RoundTrips JoinDocument ∧ RoundTrips RolesDocument :=
  ⟨Member.lawful.roundTrips, Group.lawful.roundTrips, RoleList.lawful.roundTrips,
    Channel.lawful.roundTrips, CacheDocument.lawful.roundTrips, JoinDocument.lawful.roundTrips,
    RolesDocument.lawful.roundTrips⟩

end Roster
