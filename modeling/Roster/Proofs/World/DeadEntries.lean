import Roster.Proofs.Cache.Memberships
import Roster.Proofs.World.Restored

/-!
# Dead entries and reloads

An entry that has expired stays where it is until a read of its key or a sweep drops it.  For a look, a read and
a write unless live it is as good as absent.  A reload takes it for present, and leaves the row of its key out.

* `Segment.peek_insertUnlessLive` — a dead entry is no obstacle to a write unless live.
* `Cache.find?_reload` — after a reload a row is found under its key exactly when no entry was there.
* `Cache.DeadKey`, `Cache.deadKey_of_row` — what becomes of a live row whose key has no live entry: **it can be
  read after a reload exactly when the key has no entry at all**, so always after a sweep or a read of the key.
* `Cache.dead_entry_hides_row` — a dead entry keeps a row out.
-/

set_option autoImplicit false

namespace Roster

/-! ## Looking for a key without a live entry -/

namespace Segment

variable {α : Type} {s : Segment α} {key : String} {now : Instant}

/-- A look finds nothing, and a read drops what is left of the key. -/
theorem absent_of_live?_none (h : s.live? key now = none) :
    s.contains key now = false ∧ s.peek key now = none ∧ (s.get key now).1 = none ∧
      (s.get key now).2.find? key = none := by
  have hpeek : s.peek key now = none := by
    unfold peek
    rw [h]
    rfl
  refine ⟨?_, hpeek, ?_, ?_⟩
  · unfold contains
    rw [h]
    rfl
  · rw [fst_get, hpeek]
  · rcases s.get_cases key now with ⟨hnone, hg⟩ | ⟨e, hfind, -, hg⟩ | ⟨e, hfind, hlive, -⟩
    · rw [hg]
      exact hnone
    · rw [hg]
      exact (s.find?_without key key).trans (if_pos rfl)
    · rw [live?_of_find? hfind, hlive] at h
      cases h

/-- A write unless live goes ahead, whether or not a dead entry is there. -/
theorem peek_insertUnlessLive (h : s.live? key now = none) (hkey : key ≠ "") (value : α) :
    (s.insertUnlessLive key value now).1 = true ∧
      (s.insertUnlessLive key value now).2.peek key now = some value := by
  rcases s.insertUnlessLive_cases key value now with ⟨hempty, -⟩ | ⟨e, hfind, hlive, -⟩ | ⟨hne, -, hi⟩
  · exact absurd hempty hkey
  · rw [live?_of_find? hfind, hlive] at h
    cases h
  · rw [hi]
    refine ⟨rfl, ?_⟩
    have hfind : (((s.without key).withRoom.toFront ⟨key, value, s.expiryFrom now⟩ hne).recount).find? key =
        some ⟨key, value, s.expiryFrom now⟩ := (find?_toFront _ _ hne key).trans (if_pos rfl)
    unfold peek
    rw [live?_of_find? hfind, s.hasExpired_new]
    rfl

end Segment

namespace Cache

variable {c : Cache} {s : TableStore} {k : Kind} {a : Entry k.Record} {now : Instant}

/-! ## A row after a reload -/

/-- **What a reload makes of a row**: the entry that is there stays, and the row comes in when there is none. -/
theorem find?_reload (hp : c.isPersistent = true) (hrow : s.Spells k a) (hname : a.key ≠ "") :
    ((c.reload s).2.1.segment k).find? a.key = some ((c.slot? k a.key).getD a) := by
  apply Entries.find?_eq_some_iff.2
  cases hslot : c.slot? k a.key with
  | none =>
    refine ⟨(mem_reload_iff hp).2 (.inr ⟨hname, ?_, TableStore.spells_iff.1 hrow⟩), rfl⟩
    intro hmem
    have hpresent : (c.slot? k a.key).isSome = true := Segment.isSome_find?_iff.2 hmem
    rw [hslot] at hpresent
    cases hpresent
  | some e =>
    obtain ⟨hmem, hkey⟩ := Entries.find?_eq_some_iff.1 hslot
    exact ⟨(mem_reload_iff hp).2 (.inl hmem), hkey⟩

/-- A live row is read after a reload exactly when no entry was under its key, dead or alive. -/
theorem fst_get_reload (hp : c.isPersistent = true) (hrow : s.Spells k a) (hname : a.key ≠ "")
    (hlive : a.hasExpired now = false) (hdead : (c.segment k).live? a.key now = none) :
    (((c.reload s).2.1.segment k).get a.key now).1 =
      if (c.slot? k a.key).isSome then none else some a.value := by
  rw [Segment.fst_get]
  unfold Segment.peek
  rw [Segment.live?_of_find? (find?_reload hp hrow hname)]
  cases hslot : c.slot? k a.key with
  | none => simp [hlive]
  | some e =>
    have hexpired : (c.segment k).live? a.key now = if e.hasExpired now then none else some e :=
      Segment.live?_of_find? hslot
    rw [hdead] at hexpired
    cases he : e.hasExpired now with
    | true => simp [he]
    | false => simp [he] at hexpired

/-! ## Keys without a live entry -/

/-- What the operations make of a key without a live entry, for which a store has a live row. -/
structure DeadKey (c : Cache) (s : TableStore) (k : Kind) (a : Entry k.Record) (now : Instant) : Prop where
  /-- A look finds nothing. -/
  look : (c.segment k).contains a.key now = false ∧ (c.segment k).peek a.key now = none
  read : ((c.segment k).get a.key now).1 = none
  /-- A write unless live goes ahead. -/
  write : (c.insertUnlessLive k a.key a.value now).1 = true ∧
    ((c.insertUnlessLive k a.key a.value now).2.segment k).peek a.key now = some a.value
  /-- A reload brings the row in unless an entry is there, though it be dead. -/
  reloaded : (((c.reload s).2.1.segment k).get a.key now).1 =
    if (c.slot? k a.key).isSome then none else some a.value
  /-- After a sweep it does in any case. -/
  swept : ((((c.sweep now).2.reload s).2.1.segment k).get a.key now).1 = some a.value
  /-- After a read of the key too. -/
  readBefore : ((((c.withSegment k ((c.segment k).get a.key now).2).reload s).2.1.segment k).get a.key now).1 =
    some a.value

/-- A reload of a cache without an entry under a key brings in a live row for it. -/
theorem get_reload_of_absent (hp : c.isPersistent = true) (hrow : s.Spells k a) (hname : a.key ≠ "")
    (hlive : a.hasExpired now = false) (habsent : (c.segment k).find? a.key = none) :
    (((c.reload s).2.1.segment k).get a.key now).1 = some a.value := by
  have hdead : (c.segment k).live? a.key now = none := by
    unfold Segment.live?
    rw [habsent]
    rfl
  have hslot : (c.slot? k a.key).isSome = false :=
    Option.isSome_eq_false_iff.2 (Option.isNone_iff_eq_none.2 habsent)
  rw [fst_get_reload hp hrow hname hlive hdead, hslot]
  rfl

/-- **A live row under a key without a live entry** is read after a reload exactly when the key has no entry at
all, while every other operation takes a dead entry for absent. -/
theorem deadKey_of_row (hp : c.isPersistent = true) (hrow : s.Spells k a) (hname : a.key ≠ "")
    (hlive : a.hasExpired now = false) (hdead : (c.segment k).live? a.key now = none) :
      c.DeadKey s k a now := by
  obtain ⟨hcontains, hpeek, hread, hdropped⟩ := Segment.absent_of_live?_none hdead
  refine ⟨⟨hcontains, hpeek⟩, hread, ?_, fst_get_reload hp hrow hname hlive hdead, ?_, ?_⟩
  · obtain ⟨hwritten, hfound⟩ := Segment.peek_insertUnlessLive hdead hname a.value
    refine ⟨hwritten, ?_⟩
    show ((c.withSegment k _).segment k).peek a.key now = some a.value
    rw [segment_withSegment]
    exact hfound
  · have hp' : (c.sweep now).2.isPersistent = true := hp
    apply get_reload_of_absent hp' hrow hname hlive
    rw [segment_sweep, Segment.find?_sweep]
    exact hdead
  · have hp' : (c.withSegment k ((c.segment k).get a.key now).2).isPersistent = true := by
      cases k <;> exact hp
    apply get_reload_of_absent hp' hrow hname hlive
    rw [segment_withSegment]
    exact hdropped

/-- A cache whose only group has expired a second after the epoch. -/
def sampleDead : Cache :=
  (new { CacheSettings.standard with groups := ⟨0, some (.ofSeconds 1)⟩, persistence := true }
    true false .zero).insert
    (.group "g") (.new "g" "Old" "u") .epoch

/-- A row of that group that does not expire. -/
def sampleFreshRow : TableStore :=
  (TableStore.new TableStore.defaultRetention).withRows
    ((∅ : SavedRows).insert ⟨"group", "g"⟩ ⟨JsonRecord.encode (Group.new "g" "Saved" "u"), none⟩)

/-- A second after the epoch. -/
def sampleSecond : Instant := ⟨1000000000, by decide, by decide⟩

theorem sampleFreshRow_spells : sampleFreshRow.Spells .group ⟨"g", .new "g" "Saved" "u", none⟩ :=
  ⟨_, Std.TreeMap.getElem?_insert_self, JsonRecord.decode?_encode Group.lawful _, rfl⟩

theorem deadKey_sample :
    sampleDead.isPersistent = true ∧ sampleFreshRow.Spells .group ⟨"g", .new "g" "Saved" "u", none⟩ ∧ "g" ≠ "" ∧
      (⟨"g", .new "g" "Saved" "u", none⟩ : Entry Group).hasExpired sampleSecond = false ∧
      (sampleDead.segment .group).live? "g" sampleSecond = none ∧
      sampleDead.DeadKey sampleFreshRow .group ⟨"g", .new "g" "Saved" "u", none⟩ sampleSecond :=
  ⟨rfl, sampleFreshRow_spells, by decide, rfl, rfl,
    deadKey_of_row rfl sampleFreshRow_spells (by decide) rfl rfl⟩

/-- An entry that has expired and was not swept keeps a live row out. -/
theorem dead_entry_hides_row :
    ¬∀ (c : Cache) (s : TableStore) (now : Instant) (k : Kind) (a : Entry k.Record), c.isPersistent = true →
      s.Spells k a → a.key ≠ "" → a.hasExpired now = false → (c.segment k).live? a.key now = none →
      (((c.reload s).2.1.segment k).get a.key now).1 = some a.value := by
  intro hall
  have hread := hall sampleDead sampleFreshRow sampleSecond .group ⟨"g", .new "g" "Saved" "u", none⟩ rfl
    sampleFreshRow_spells (by decide) rfl rfl
  rw [fst_get_reload rfl sampleFreshRow_spells (by decide) rfl rfl] at hread
  cases hread

end Cache

end Roster
