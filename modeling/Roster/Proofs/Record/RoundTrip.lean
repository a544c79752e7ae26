import Roster.Proofs.Json.RoundTrip
import Roster.Proofs.Time.RoundTrip
import Roster.Record.Kind

/-!
# Records written and read

* `Json.slots_given` — the fields of an object are found again under their names, the missing ones as missing.
* `JsonRecord.Lawful` — records whose JSON form is plain and is read back as the record.
* `JsonRecord.decode?_encode` — **reading undoes writing** for such records.
* `Kind.lawful` — members, groups, role lists and channels are such records.
-/

set_option autoImplicit false

namespace Roster

namespace Json

/-- A list read item by item. -/
theorem mapM_map_eq {α β γ : Type} {f : β → Option γ} {g : α → β} {k : α → γ} {as : List α}
    (h : ∀ a ∈ as, f (g a) = some (k a)) : (as.map g).mapM f = some (as.map k) := by
  induction as with
  | nil => rfl
  | cons a as ih =>
    have ha := h a List.mem_cons_self
    have has := ih fun b hb => h b (List.mem_cons_of_mem _ hb)
    simp only [List.map_cons, List.mapM_cons, ha, has, Option.bind_eq_bind, Option.bind_some,
      Option.pure_def]

/-! ## Fields -/

/-- The fields that have a value. -/
def given (fs : List (String × Option Json)) : List (String × Json) :=
  fs.filterMap fun f => f.2.map fun v => (f.1, v)

theorem given_cons_some (name : String) (v : Json) (fs : List (String × Option Json)) :
    given ((name, some v) :: fs) = (name, v) :: given fs := rfl

theorem given_cons_map {α : Type} (name : String) (f : α → Json) (o : Option α)
    (fs : List (String × Option Json)) :
    given ((name, o.map f) :: fs) = field? name f o ++ given fs := by
  cases o <;> rfl

theorem filter_given {name : String} {fs : List (String × Option Json)}
    (h : name ∉ fs.map Prod.fst) : (given fs).filter (fun f => f.1 = name) = [] := by
  refine List.filter_eq_nil_iff.2 ?_
  intro f hf
  obtain ⟨f', hf', hv⟩ := List.mem_filterMap.1 hf
  obtain ⟨v, -, rfl⟩ := Option.map_eq_some_iff.1 hv
  simp only [decide_eq_true_eq]
  rintro rfl
  exact h (List.mem_map_of_mem hf')

/-- What is found under a name among fields with different names. -/
theorem filter_given_of_mem {name : String} {slot : Option Json} :
    ∀ {fs : List (String × Option Json)}, (fs.map Prod.fst).Nodup → (name, slot) ∈ fs →
      (given fs).filter (fun f => f.1 = name) = (slot.map fun v => (name, v)).toList
  | [], _, h => absurd h List.not_mem_nil
  | (name', slot') :: fs, hn, h => by
    obtain ⟨hnot, hn⟩ := List.nodup_cons.1 hn
    rcases List.mem_cons.1 h with h | h
    · cases h
      cases slot with
      | none => exact @filter_given name fs hnot
      | some v =>
        rw [given_cons_some, List.filter_cons_of_pos (by simp), filter_given hnot]
        rfl
    · have hne : name' ≠ name := by
        rintro rfl
        exact hnot (List.mem_map.2 ⟨_, h, rfl⟩)
      have ih := filter_given_of_mem hn h
      cases slot' with
      | none => exact ih
      | some v => rw [given_cons_some, List.filter_cons_of_neg (by simpa using hne), ih]

/-- An object is taken apart into the values of its fields. -/
theorem slots_given (fs : List (String × Option Json)) (hn : (fs.map Prod.fst).Nodup) :
    slots (fs.map Prod.fst) (obj (given fs)) = some (fs.map Prod.snd) := by
  show namedSlots (fs.map Prod.fst) ((given fs).map fun f => (some f.1, f.2)) = _
  have hnamed : (((given fs).map fun f => (some f.1, f.2)).any fun f => f.1.isNone) = false := by
    simp
  unfold namedSlots
  rw [if_neg (by rw [hnamed]; exact Bool.false_ne_true)]
  refine mapM_map_eq ?_
  intro f hf
  have hfind := filter_given_of_mem hn hf
  rw [List.filter_map]
  have hcomp : ((fun g : Option String × Json => decide (g.1 = some f.1)) ∘
      fun g : String × Json => (some g.1, g.2)) = fun g => decide (g.1 = f.1) := by
    funext g
    simp
  rw [hcomp, hfind]
  cases f.2 <;> rfl

/-! ## Parts -/

theorem asString?_str (s : String) : asString? (.str s) = some s := rfl

theorem asBool?_bool (b : Bool) : asBool? (.bool b) = some b := rfl

theorem optional_map {α : Type} {f : Json → Option α} {g : α → Json} (h : ∀ a, f (g a) = some a)
    (hnull : ∀ a, g a ≠ .null) (o : Option α) : optional f (o.map g) = some o := by
  cases o with
  | none => rfl
  | some a =>
    have ha := h a
    have hn := hnull a
    simp only [Option.map_some]
    unfold optional
    split
    · rename_i he
      cases he
    · rename_i he
      exact absurd (Option.some.inj he) hn
    · rename_i he
      rw [← Option.some.inj he, ha, Option.map_some]

theorem optional_str (o : Option String) : optional asString? (o.map .str) = some o :=
  optional_map asString?_str (fun _ => by simp [str]) o

theorem asList?_map {α : Type} {f : Json → Option α} {g : α → Json} (h : ∀ a, f (g a) = some a)
    (as : List α) : asList? f (.array (as.map g)) = some as := by
  have hid : (as.map g).mapM f = some (as.map id) := mapM_map_eq fun a _ => h a
  rwa [List.map_id] at hid

theorem asList?_strs (ss : List String) : asList? asString? (.strs ss) = some ss :=
  asList?_map asString?_str ss

theorem asUInt64?_nat (n : UInt64) : asUInt64? (.nat n.toNat) = some n := by
  have hn : (n.toNat : Int).toNat < UInt64.size := by
    rw [Int.toNat_natCast]
    exact n.toNat_lt_size
  show (if (0 : Int) ≤ n.toNat ∧ (n.toNat : Int).toNat < UInt64.size then _ else none) = some n
  rw [if_pos ⟨Int.natCast_nonneg _, hn⟩, Int.toNat_natCast, UInt64.ofNat_toNat]

theorem asUInt32?_nat (n : UInt32) : asUInt32? (.nat n.toNat) = some n := by
  have hn : (n.toNat : Int).toNat < UInt32.size := by
    rw [Int.toNat_natCast]
    exact n.toNat_lt_size
  show (if (0 : Int) ≤ n.toNat ∧ (n.toNat : Int).toNat < UInt32.size then _ else none) = some n
  rw [if_pos ⟨Int.natCast_nonneg _, hn⟩, Int.toNat_natCast, UInt32.ofNat_toNat]

theorem asInt64?_integer (n : Int64) : asInt64? (.integer n.toInt) = some n := by
  show (if Int64.minValue.toInt ≤ n.toInt ∧ n.toInt ≤ Int64.maxValue.toInt then _ else none) = some n
  rw [if_pos ⟨Int64.minValue_le_toInt n, Int64.toInt_le n⟩, Int64.ofInt_toInt]

/-! ## Plain values -/

theorem plainItems_map {α : Type} {g : α → Json} (h : ∀ a, (g a).Plain) (as : List α) :
    PlainItems (as.map g) := by
  induction as with
  | nil => trivial
  | cons a as ih => exact ⟨h a, ih⟩

theorem plain_obj_given {fs : List (String × Option Json)} (h : ∀ f ∈ fs, ∀ v ∈ f.2, v.Plain) :
    (obj (given fs)).Plain := by
  show PlainFields ((given fs).map fun f => (some f.1, f.2))
  induction fs with
  | nil => trivial
  | cons f fs ih =>
    have hfs := ih fun g hg => h g (List.mem_cons_of_mem _ hg)
    obtain ⟨name, slot⟩ := f
    cases slot with
    | none => exact hfs
    | some v => exact ⟨rfl, h _ List.mem_cons_self v rfl, hfs⟩

@[simp] theorem plain_str (s : String) : (str s).Plain := rfl

@[simp] theorem plain_bool (b : Bool) : (bool b).Plain := trivial

@[simp] theorem plain_integer (n : Int) : (integer n).Plain := trivial

@[simp] theorem plain_nat (n : Nat) : (nat n).Plain := trivial

@[simp] theorem plain_strs (ss : List String) : (strs ss).Plain := plainItems_map plain_str ss

end Json

/-! ## Records -/

/-- A record's JSON form is plain and is read back as the record. -/
structure JsonRecord.Lawful (α : Type) [JsonRecord α] : Prop where
  plain : ∀ a : α, (JsonRecord.toJson a).Plain
  readBack : ∀ a : α, JsonRecord.ofJson? (JsonRecord.toJson a) = some a

/-- **Reading undoes writing.** -/
theorem JsonRecord.decode?_encode {α : Type} [JsonRecord α] (h : Lawful α) (a : α) :
    decode? (encode a) = some a := by
  unfold decode? encode
  rw [Json.parse?_print (h.plain a), Option.bind_some, h.readBack a]

theorem Timestamp.ofJson?_toJson (t : Timestamp) : ofJson? t.toJson = some t := by
  show (some t.text).bind parse? = some t
  rw [Option.bind_some, parse?_text]

theorem ChannelKind.ofJson?_toJson (k : ChannelKind) : ofJson? k.toJson = some k := by
  cases k <;> decide

namespace Member

/-- The fields of a member, the missing ones included. -/
def slots (m : Member) : List (String × Option Json) :=
  [("group_id", some (.str m.groupId)), ("user_id", some (.str m.userId)),
    ("username", some (.str m.username)), ("display_name", m.displayName.map .str),
    ("role_ids", some (.strs m.roleIds)), ("joined_at", m.joinedAt.map Timestamp.toJson),
    ("is_bot", some (.bool m.isBot))]

theorem toJson_eq (m : Member) : m.toJson = .obj (Json.given m.slots) := by
  simp only [slots, Json.given_cons_some, Json.given_cons_map, toJson, List.cons_append,
    List.nil_append, List.append_assoc]
  rfl

theorem lawful : JsonRecord.Lawful Member where
  plain m := by
    show m.toJson.Plain
    rw [toJson_eq]
    apply Json.plain_obj_given
    simp [slots, Timestamp.toJson]
  readBack m := by
    show ofJson? m.toJson = some m
    have hslots := Json.slots_given m.slots (show fieldNames.Nodup by decide)
    have hjoined := Json.optional_map Timestamp.ofJson?_toJson
      (fun _ => by simp [Timestamp.toJson, Json.str]) m.joinedAt
    rw [toJson_eq, ofJson?, show fieldNames = m.slots.map Prod.fst from rfl, hslots]
    simp only [slots, List.map_cons, List.map_nil, Option.bind_eq_bind, Option.bind_some,
      Json.required, Json.defaulted, Json.asString?_str, Json.asBool?_bool, Json.optional_str,
      Json.asList?_strs, hjoined]

end Member

namespace Group

/-- The fields of a group, the missing ones included. -/
def slots (g : Group) : List (String × Option Json) :=
  [("id", some (.str g.id)), ("name", some (.str g.name)), ("owner_id", some (.str g.ownerId)),
    ("member_count", g.memberCount.map fun n => .nat n.toNat), ("icon", g.icon.map .str)]

theorem toJson_eq (g : Group) : g.toJson = .obj (Json.given g.slots) := by
  simp only [slots, Json.given_cons_some, Json.given_cons_map, toJson, List.cons_append,
    List.nil_append]
  rw [show Json.given [] = [] from rfl, List.append_nil]

theorem lawful : JsonRecord.Lawful Group where
  plain g := by
    show g.toJson.Plain
    rw [toJson_eq]
    apply Json.plain_obj_given
    simp [slots]
  readBack g := by
    show ofJson? g.toJson = some g
    have hslots := Json.slots_given g.slots (show fieldNames.Nodup by decide)
    have hcount := Json.optional_map Json.asUInt64?_nat (fun _ => by simp [Json.nat]) g.memberCount
    rw [toJson_eq, ofJson?, show fieldNames = g.slots.map Prod.fst from rfl, hslots]
    simp only [slots, List.map_cons, List.map_nil, Option.bind_eq_bind, Option.bind_some,
      Json.required, Json.asString?_str, Json.optional_str, hcount]

end Group

namespace Role

/-- The fields of a role. -/
def slots (r : Role) : List (String × Option Json) :=
  [("id", some (.str r.id)), ("name", some (.str r.name)),
    ("position", some (.integer r.position.toInt)), ("permissions", some (.nat r.permissions.toNat)),
    ("color", some (.nat r.color.toNat)), ("managed", some (.bool r.managed))]

theorem toJson_eq (r : Role) : r.toJson = .obj (Json.given r.slots) := rfl

theorem lawful : JsonRecord.Lawful Role where
  plain r := by
    show r.toJson.Plain
    rw [toJson_eq]
    apply Json.plain_obj_given
    simp [slots]
  readBack r := by
    show ofJson? r.toJson = some r
    have hslots := Json.slots_given r.slots (show fieldNames.Nodup by decide)
    rw [toJson_eq, ofJson?, show fieldNames = r.slots.map Prod.fst from rfl, hslots]
    simp only [slots, List.map_cons, List.map_nil, Option.bind_eq_bind, Option.bind_some,
      Json.required, Json.defaulted, Json.asString?_str, Json.asBool?_bool, Json.asInt64?_integer,
      Json.asUInt64?_nat, Json.asUInt32?_nat]

end Role

namespace RoleList

/-- The fields of a role list. -/
def slots (l : RoleList) : List (String × Option Json) :=
  [("group_id", some (.str l.groupId)), ("roles", some (.array (l.roles.map Role.toJson))),
    ("fetched_at", some l.fetchedAt.toJson)]

theorem toJson_eq (l : RoleList) : l.toJson = .obj (Json.given l.slots) := rfl

theorem lawful : JsonRecord.Lawful RoleList where
  plain l := by
    show l.toJson.Plain
    rw [toJson_eq]
    apply Json.plain_obj_given
    simp only [slots, List.forall_mem_cons, Option.mem_some_iff, forall_eq']
    have hroles : (Json.array (l.roles.map Role.toJson)).Plain := Json.plainItems_map Role.lawful.plain _
    exact ⟨Json.plain_str _, hroles, Json.plain_str _, fun _ h => nomatch h⟩
  readBack l := by
    show ofJson? l.toJson = some l
    have hslots := Json.slots_given l.slots (show fieldNames.Nodup by decide)
    have hroles : Json.asList? Role.ofJson? (.array (l.roles.map Role.toJson)) = some l.roles :=
      Json.asList?_map Role.lawful.readBack l.roles
    have hfetched := Timestamp.ofJson?_toJson l.fetchedAt
    rw [toJson_eq, ofJson?, show fieldNames = l.slots.map Prod.fst from rfl, hslots]
    simp only [slots, List.map_cons, List.map_nil, Option.bind_eq_bind, Option.bind_some,
      Json.required, Json.asString?_str, hroles, hfetched]

end RoleList

namespace Channel

/-- The fields of a channel, the missing ones included. -/
def slots (c : Channel) : List (String × Option Json) :=
  [("id", some (.str c.id)), ("group_id", some (.str c.groupId)), ("name", some (.str c.name)),
    ("kind", some c.kind.toJson), ("position", some (.integer c.position.toInt)),
    ("parent_id", c.parentId.map .str)]

theorem toJson_eq (c : Channel) : c.toJson = .obj (Json.given c.slots) := by
  simp only [slots, Json.given_cons_some, Json.given_cons_map, toJson, List.cons_append,
    List.nil_append]
  rw [show Json.given [] = [] from rfl, List.append_nil]

theorem lawful : JsonRecord.Lawful Channel where
  plain c := by
    show c.toJson.Plain
    rw [toJson_eq]
    apply Json.plain_obj_given
    simp [slots, ChannelKind.toJson]
  readBack c := by
    show ofJson? c.toJson = some c
    have hslots := Json.slots_given c.slots (show fieldNames.Nodup by decide)
    rw [toJson_eq, ofJson?, show fieldNames = c.slots.map Prod.fst from rfl, hslots]
    simp only [slots, List.map_cons, List.map_nil, Option.bind_eq_bind, Option.bind_some,
      Json.required, Json.defaulted, Json.asString?_str, ChannelKind.ofJson?_toJson,
      Json.asInt64?_integer, Json.optional_str]

end Channel

/-- The records of every kind are read back. -/
theorem Kind.lawful (k : Kind) : JsonRecord.Lawful k.Record :=
  match k with
  | .member => Member.lawful
  | .group => Group.lawful
  | .roles => RoleList.lawful
  | .channel => Channel.lawful

end Roster
