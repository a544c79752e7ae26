import Mathlib.Data.List.Basic
import Roster.Proofs.Store.Saving
import Roster.World

/-!
# What a reload brings back

* `Segment.added`, `list_restoreRows` — **rows of different keys come in over the entries that are
  there**, an entry for every row that decodes and whose key is named and absent;
  `mem_restoreRows_iff`: they push nothing out.
* `Cache.reload_eq`, `mem_reload_iff`, `loaded_reload` — a reload from a store in memory restores each kind from
  the rows under its tag, and answers with the number of entries that came in.
* `TableStore.SavedOver` — a store in which the entries of a cache override the rows of another.
* `World.mem_reload_of_saved` — what was dropped since a save comes back with the next reload.
* `World.reload_save` — **a save and a reload of an empty cache bring every entry back**, with its record and
  its expiry, and besides them only what older rows hold.
-/

set_option autoImplicit false

namespace Roster

/-! ## Restoring rows -/

namespace Segment

variable {k : Kind}

/-- The entry that a row brings into a segment, if any. -/
def added? (s : Segment k.Record) (row : SavedEntry) : Option (Entry k.Record) :=
  if row.key = "" ∨ row.key ∈ s.keys then none
  else (JsonRecord.decode? row.payload).map fun value => ⟨row.key, value, row.expiresAt⟩

theorem added?_eq_some_iff {s : Segment k.Record} {row : SavedEntry} {a : Entry k.Record} :
    s.added? row = some a ↔ a.key ≠ "" ∧ a.key ∉ s.keys ∧ Cache.Restores k row a := by
  unfold added?
  split
  · rename_i h
    constructor
    · intro hnone
      cases hnone
    · rintro ⟨hne, habsent, hra⟩
      rw [hra.key_eq] at hne habsent
      exact (h.elim hne habsent).elim
  · rename_i h
    obtain ⟨hne, habsent⟩ := not_or.1 h
    rw [Option.map_eq_some_iff]
    constructor
    · rintro ⟨value, hv, rfl⟩
      exact ⟨hne, habsent, value, hv, rfl⟩
    · rintro ⟨-, -, value, hv, rfl⟩
      exact ⟨value, hv, rfl⟩

/-- What a row brings in comes in front. -/
theorem list_restoreRow (acc : Nat × Segment k.Record) (row : SavedEntry) :
    (restoreRow acc row).2.entries.list = (acc.2.added? row).toList ++ acc.2.entries.list := by
  unfold restoreRow added?
  cases JsonRecord.decode? (α := k.Record) row.payload with
  | none => simp
  | some value =>
    rcases acc.2.restore_cases row.key value row.expiresAt with ⟨hstays, hi⟩ | ⟨hk, hfind, hi⟩
    · rw [isSome_find?_iff] at hstays
      simp [hi, hstays]
    · have habsent : row.key ∉ acc.2.keys := by
        rw [← isSome_find?_iff, hfind]
        simp
      simp only [hi, hk, habsent, or_self, if_false, Option.map_some, Option.toList_some, List.singleton_append]
      show ⟨row.key, value, row.expiresAt⟩ :: (acc.2.entries.without row.key).list = _
      rw [Entries.without_of_find?_none hfind]

/-- A row is no obstacle to the rows of other keys. -/
theorem added?_restoreRow {acc : Nat × Segment k.Record} {row row' : SavedEntry} (hne : row'.key ≠ row.key) :
    (restoreRow acc row).2.added? row' = acc.2.added? row' := by
  have hkeys : row'.key ∈ (restoreRow acc row).2.keys ↔ row'.key ∈ acc.2.keys := by
    show row'.key ∈ (restoreRow acc row).2.entries.list.map Entry.key ↔ _
    rw [list_restoreRow, List.map_append, List.mem_append]
    constructor
    · rintro (h | h)
      · obtain ⟨a, ha, hkey⟩ := List.mem_map.1 h
        obtain ⟨-, -, hra⟩ := added?_eq_some_iff.1 (Option.mem_toList.1 ha)
        exact absurd (hkey.symm.trans hra.key_eq) hne
      · exact h
    · exact .inr
  simp only [added?, hkeys]

/-- The entries that rows bring into a segment, the last one first. -/
def added (s : Segment k.Record) (rows : List SavedEntry) : List (Entry k.Record) :=
  (rows.filterMap s.added?).reverse

/-- The induction follows the rows.  A row that is still to come keeps its chance, since no row has the key of
another. -/
theorem list_foldl_restoreRow {rows : List SavedEntry} (hn : (rows.map SavedEntry.key).Nodup)
    (acc : Nat × Segment k.Record) :
    (rows.foldl restoreRow acc).2.entries.list = acc.2.added rows ++ acc.2.entries.list := by
  induction rows generalizing acc with
  | nil => rfl
  | cons row rows ih =>
    obtain ⟨hrow, hrows⟩ := List.nodup_cons.1 hn
    have hrest : rows.filterMap (restoreRow acc row).2.added? = rows.filterMap acc.2.added? := by
      refine List.filterMap_congr ?_
      intro row' hrow'
      refine added?_restoreRow fun hkey => hrow ?_
      exact List.mem_map.2 ⟨row', hrow', hkey⟩
    rw [List.foldl_cons, ih hrows, list_restoreRow, added, added, hrest, List.filterMap_cons]
    cases acc.2.added? row <;> simp

/-- **Rows of different keys come in over the entries that are there.** -/
theorem list_restoreRows (s : Segment k.Record) {rows : List SavedEntry}
    (hn : (rows.map SavedEntry.key).Nodup) :
    (s.restoreRows rows).2.entries.list = s.added rows ++ s.entries.list := list_foldl_restoreRow hn (0, s)

theorem mem_added {s : Segment k.Record} {rows : List SavedEntry} {a : Entry k.Record} :
    a ∈ s.added rows ↔ a.key ≠ "" ∧ a.key ∉ s.keys ∧ ∃ row ∈ rows, Cache.Restores k row a := by
  unfold added
  rw [List.mem_reverse, List.mem_filterMap]
  simp only [added?_eq_some_iff]
  constructor
  · rintro ⟨row, hrow, hne, habsent, hra⟩
    exact ⟨hne, habsent, row, hrow, hra⟩
  · rintro ⟨hne, habsent, row, hrow, hra⟩
    exact ⟨row, hrow, hne, habsent, hra⟩

/-- Rows of different keys bring back what they decode to, and push nothing out. -/
theorem mem_restoreRows_iff {s : Segment k.Record} {rows : List SavedEntry}
    (hn : (rows.map SavedEntry.key).Nodup) {a : Entry k.Record} :
    a ∈ (s.restoreRows rows).2.entries.list ↔
      a ∈ s.entries.list ∨ a.key ≠ "" ∧ a.key ∉ s.keys ∧ ∃ row ∈ rows, Cache.Restores k row a := by
  rw [list_restoreRows s hn, List.mem_append, mem_added, or_comm]

/-- A row counts when it came in. -/
theorem count_restoreRow (acc : Nat × Segment k.Record) (row : SavedEntry) :
    (restoreRow acc row).1 + acc.2.entries.size = acc.1 + (restoreRow acc row).2.entries.size := by
  unfold restoreRow
  split
  · rfl
  · rename_i value hv
    rcases acc.2.restore_cases row.key value row.expiresAt with ⟨-, hi⟩ | ⟨hk, hfind, hi⟩
    · rw [hi]
      rfl
    · have hsize : (acc.2.entries.toFront ⟨row.key, value, row.expiresAt⟩ hk).size =
          acc.2.entries.size + 1 := by
        show (⟨row.key, value, row.expiresAt⟩ :: (acc.2.entries.without row.key).list).length = _
        rw [Entries.without_of_find?_none hfind]
        rfl
      rw [hi]
      show acc.1 + 1 + acc.2.entries.size = acc.1 + (acc.2.entries.toFront _ hk).size
      rw [hsize]
      omega

theorem count_restoreRows (s : Segment k.Record) (rows : List SavedEntry) :
    (s.restoreRows rows).1 + s.entries.size = (s.restoreRows rows).2.entries.size := by
  have hall (acc : Nat × Segment k.Record) : (rows.foldl restoreRow acc).1 + acc.2.entries.size =
      acc.1 + (rows.foldl restoreRow acc).2.entries.size := by
    induction rows generalizing acc with
    | nil => rfl
    | cons row rows ih =>
      have hrow := count_restoreRow acc row
      have hrows := ih (restoreRow acc row)
      rw [List.foldl_cons]
      omega
  have hrows := hall (0, s)
  rwa [Nat.zero_add] at hrows

end Segment

/-! ## Reloading the cache -/

namespace Cache

variable {c : Cache} {s : TableStore}

/-- A reload from a store in memory goes through the kinds, and leaves the store alone. -/
theorem reload_eq (hp : c.isPersistent = true) (s : TableStore) : c.reload s =
    (⟨Kind.all.foldl (fun n k => n + ((c.segment k).restoreRows (s.entriesOf k.tag)).1) 0, none⟩,
      { c with
        members := (c.members.restoreRows (s.entriesOf (Kind.tag .member))).2
        groups := (c.groups.restoreRows (s.entriesOf (Kind.tag .group))).2
        roles := (c.roles.restoreRows (s.entriesOf (Kind.tag .roles))).2
        channels := (c.channels.restoreRows (s.entriesOf (Kind.tag .channel))).2 }, s) := by
  unfold reload
  rw [if_pos hp]
  rfl

theorem segment_reload (hp : c.isPersistent = true) (s : TableStore) (k : Kind) :
    (c.reload s).2.1.segment k = ((c.segment k).restoreRows (s.entriesOf k.tag)).2 := by
  rw [reload_eq hp]
  cases k <;> rfl

/-- A reload keeps the entries that are there, and takes in the rows under other keys. -/
theorem mem_reload_iff (hp : c.isPersistent = true) {k : Kind} {a : Entry k.Record} :
    a ∈ ((c.reload s).2.1.segment k).entries.list ↔ a ∈ (c.segment k).entries.list ∨
      a.key ≠ "" ∧ a.key ∉ (c.segment k).keys ∧ ∃ row ∈ s.entriesOf k.tag, Restores k row a := by
  rw [segment_reload hp]
  exact Segment.mem_restoreRows_iff (s.nodup_entriesOf k.tag)

/-- A reload from a store in memory does not fail, and leaves the store alone. -/
theorem reload_keeps (hp : c.isPersistent = true) (s : TableStore) :
    (c.reload s).1.failure = none ∧ (c.reload s).2.2 = s := by
  rw [reload_eq hp]
  exact ⟨rfl, rfl⟩

theorem result_reload (hp : c.isPersistent = true) (s : TableStore) :
    (c.reload s).1.result = .ok (c.reload s).1.loaded := by
  rw [Reload.result, (reload_keeps hp s).1]

/-- A reload counts the entries that came in. -/
theorem loaded_reload (hp : c.isPersistent = true) (s : TableStore) :
    (c.reload s).1.loaded + c.entryCount = (c.reload s).2.1.entryCount := by
  have hloaded : (c.reload s).1.loaded =
      Kind.all.foldl (fun n k => n + ((c.segment k).restoreRows (s.entriesOf k.tag)).1) 0 :=
    congrArg (fun r => r.1.loaded) (reload_eq hp s)
  rw [hloaded]
  refine entryCount_add fun k => ?_
  rw [segment_reload hp]
  exact Segment.count_restoreRows _ _

end Cache

/-! ## Saving and reloading -/

/-- A store in which the entries of a cache override the rows of another store, and
nothing else is different. -/
structure TableStore.SavedOver (c : Cache) (s s' : TableStore) : Prop where
  entries : ∀ (k : Kind) (key : String), s'.cacheRows[RowId.mk k.tag key]? =
    (((c.segment k).find? key).map Entry.row).or s.cacheRows[RowId.mk k.tag key]?
  others : ∀ id : RowId, (∀ k : Kind, id.tag ≠ k.tag) → s'.cacheRows[id]? = s.cacheRows[id]?
  facts : s'.joins = s.joins ∧ s'.roles = s.roles
  settings : s'.retention = s.retention ∧ s'.readOnly = s.readOnly

theorem TableStore.savedOver_withRows (c : Cache) (s : TableStore) :
    SavedOver c s (s.withRows (c.rowsOver s.cacheRows)) where
  entries k key := c.getElem?_rowsOver s.cacheRows k key
  others _ h := c.getElem?_rowsOver_of_ne s.cacheRows h
  facts := ⟨rfl, rfl⟩
  settings := ⟨rfl, rfl⟩

/-- An entry that only the rows of a store before a save bring back. -/
def Cache.FromOlder (c : Cache) (s : TableStore) (k : Kind) (a : Entry k.Record) : Prop :=
  a.key ≠ "" ∧ a.key ∉ (c.segment k).keys ∧ ∃ row ∈ s.entriesOf k.tag, Restores k row a

/-- The row of an entry restores that entry: reading undoes writing. -/
theorem Cache.restores_row {k : Kind} {e a : Entry k.Record} :
    Restores k ⟨e.key, e.row.payload, e.row.expiresAt⟩ a ↔ a = e := by
  have hv : JsonRecord.decode? (SavedEntry.mk e.key e.row.payload e.row.expiresAt).payload = some e.value :=
    JsonRecord.decode?_encode k.lawful e.value
  exact restores_iff hv

/-- The rows after a save bring back the entries that were saved, and what only the older rows do. -/
theorem TableStore.SavedOver.restores_iff {c : Cache} {s s' : TableStore} (h : SavedOver c s s') {k : Kind}
    {a : Entry k.Record} : (a.key ≠ "" ∧ ∃ row ∈ s'.entriesOf k.tag, Cache.Restores k row a) ↔
      a ∈ (c.segment k).entries.list ∨ c.FromOlder s k a := by
  constructor
  · rintro ⟨hne, row, hrow, hra⟩
    rw [mem_entriesOf, h.entries] at hrow
    cases hfind : (c.segment k).find? row.key with
    | some e =>
      obtain ⟨hmem, hkey⟩ := Entries.find?_eq_some_iff.1 hfind
      have he : e.row = ⟨row.payload, row.expiresAt⟩ := by
        rw [hfind] at hrow
        exact Option.some.inj hrow
      have hsame : (⟨e.key, e.row.payload, e.row.expiresAt⟩ : SavedEntry) = row := by rw [he, hkey]
      rw [← hsame, Cache.restores_row] at hra
      exact .inl (hra ▸ hmem)
    | none =>
      rw [hfind] at hrow
      refine .inr ⟨hne, fun hmem => ?_, row, mem_entriesOf.2 hrow, hra⟩
      obtain ⟨e, he⟩ := Segment.exists_find?_of_mem_keys hmem
      rw [hra.key_eq, hfind] at he
      cases he
  · rintro (hmem | ⟨hne, habsent, row, hrow, hra⟩)
    · have hfind : (c.segment k).find? a.key = some a := Entries.find?_eq_some_iff.2 ⟨hmem, rfl⟩
      refine ⟨(c.segment k).entries.named a hmem, _, mem_entriesOf.2 ?_, Cache.restores_row.2 rfl⟩
      rw [h.entries, hfind]
      rfl
    · have hfind : (c.segment k).find? row.key = none := by
        rw [← hra.key_eq]
        exact Segment.find?_of_not_mem_keys habsent
      refine ⟨hne, row, mem_entriesOf.2 ?_, hra⟩
      rw [h.entries, hfind]
      exact mem_entriesOf.1 hrow

namespace World

variable {ρ : Type} {w : World ρ TableStore}

theorem save_writable (hp : w.cache.isPersistent = true) (h : w.store.readOnly = false) :
    w.save = (⟨w.cache.entryCount, 0⟩,
      { w with store := w.store.withRows (w.cache.rowsOver w.store.cacheRows) }) := by
  unfold save
  rw [Cache.save_writable hp h]

theorem save_readOnly (hp : w.cache.isPersistent = true) (h : w.store.readOnly = true) :
    w.save = (⟨w.cache.entryCount, w.cache.entryCount⟩, w) := by
  unfold save
  rw [Cache.save_readOnly hp h]

/-- An entry that was saved comes back with the next reload, if it was dropped meanwhile and not replaced. -/
theorem mem_reload_of_saved (hp : w.cache.isPersistent = true) (h : w.store.readOnly = false)
    {w' : World ρ TableStore} (hp' : w'.cache.isPersistent = true) (hstore : w'.store = w.save.2.store)
    {k : Kind} {a : Entry k.Record} (ha : a ∈ (w.cache.segment k).entries.list)
    (hdropped : ∀ b ∈ (w'.cache.segment k).entries.list, b ∈ (w.cache.segment k).entries.list) :
    a ∈ (w'.reload.2.cache.segment k).entries.list := by
  rw [save_writable hp h] at hstore
  show a ∈ ((w'.cache.reload w'.store).2.1.segment k).entries.list
  rw [Cache.mem_reload_iff hp']
  by_cases hpresent : a ∈ (w'.cache.segment k).entries.list
  · exact .inl hpresent
  · obtain ⟨hne, hrow⟩ := (TableStore.savedOver_withRows w.cache w.store).restores_iff.2 (.inl ha)
    refine .inr ⟨hne, fun hkey => ?_, ?_⟩
    · obtain ⟨b, hb, hba⟩ := List.mem_map.1 hkey
      obtain rfl := Entries.eq_of_key_eq (hdropped b hb) ha hba
      exact hpresent hb
    · rw [hstore]
      exact hrow

/-- **A save and a reload of an empty cache bring every entry back.**  When writes are switched off, every entry
counts as failed and nothing changes. -/
theorem reload_save (hp : w.cache.isPersistent = true) :
    (w.store.readOnly = false →
      w.save.1.result = .ok () ∧ w.save.2 = { w with store := w.save.2.store } ∧
        TableStore.SavedOver w.cache w.store w.save.2.store ∧
        ∀ fresh : Cache, fresh.isPersistent = true → (∀ k, (fresh.segment k).entries.list = []) →
          (fresh.reload w.save.2.store).1.result = .ok (fresh.reload w.save.2.store).2.1.entryCount ∧
            ∀ k a, a ∈ ((fresh.reload w.save.2.store).2.1.segment k).entries.list ↔
              a ∈ (w.cache.segment k).entries.list ∨ w.cache.FromOlder w.store k a) ∧
    (w.store.readOnly = true →
      w.save.2 = w ∧ w.save.1.result = if w.cache.entryCount = 0 then .ok () else
        .error (.unsaved w.cache.entryCount w.cache.entryCount)) := by
  constructor
  · intro hwritable
    have hover := TableStore.savedOver_withRows w.cache w.store
    rw [save_writable hp hwritable]
    refine ⟨rfl, rfl, hover, ?_⟩
    intro fresh hfresh hempty
    have hcount : fresh.entryCount = 0 := by
      simp only [Cache.entryCount, Cache.countOf, Kind.all, List.foldr_cons,
        List.foldr_nil, Entries.size, hempty, List.length_nil, Nat.add_zero]
    have hkeys (k : Kind) (key : String) : key ∉ (fresh.segment k).keys := by
      show key ∉ (fresh.segment k).entries.list.map Entry.key
      rw [hempty k]
      exact List.not_mem_nil
    refine ⟨?_, ?_⟩
    · have hloaded := Cache.loaded_reload hfresh (w.store.withRows (w.cache.rowsOver w.store.cacheRows))
      unfold Reload.result
      rw [(Cache.reload_keeps hfresh _).1, ← hloaded, hcount]
      rfl
    · intro k a
      rw [Cache.mem_reload_iff hfresh, hempty k, ← hover.restores_iff]
      simp only [List.not_mem_nil, false_or, hkeys k a.key, not_false_eq_true, true_and]
  · intro hreadOnly
    rw [save_readOnly hp hreadOnly]
    refine ⟨rfl, ?_⟩
    show (if w.cache.entryCount > 0 then _ else _) = _
    by_cases hnone : w.cache.entryCount = 0
    · rw [if_pos hnone, hnone]
      rfl
    · rw [if_neg hnone, if_pos (Nat.pos_of_ne_zero hnone)]

/-- An empty cache that is saved. -/
def sampleFresh : Cache := .new { CacheSettings.standard with persistence := true } true false .zero

/-- Rows of two groups that do not expire. -/
def sampleOlder : SavedRows :=
  ((∅ : SavedRows).insert ⟨"group", "g"⟩ ⟨JsonRecord.encode (Group.new "g" "Old" "u"), none⟩).insert
    ⟨"group", "h"⟩
    ⟨JsonRecord.encode (Group.new "h" "Other" "u"), none⟩

/-- One of them is cached with another name, and its role list under the same key. -/
def sampleSaved (readOnly : Bool) : World Unit TableStore where
  now := .epoch
  platform := ()
  store := { (TableStore.new TableStore.defaultRetention).withRows sampleOlder with readOnly }
  cache := (sampleFresh.insert (.group "g") (.new "g" "Group" "u") .epoch).insert (.roles "g")
    (.fetched "g" [.new "r" "Role"] .epoch) .epoch
  observed := .empty
  session := none

/-- Both entries come back, the group in place of its older row, and so does the other group out of its row. -/
theorem reload_save_sample :
    ((∃ a ∈ ((sampleFresh.reload (sampleSaved false).save.2.store).2.1.segment .group).entries.list,
        a.key = "g" ∧ a.value = .new "g" "Group" "u") ∧
      (∃ a ∈ ((sampleFresh.reload (sampleSaved false).save.2.store).2.1.segment .roles).entries.list,
        a.key = "g" ∧ a.value = .fetched "g" [.new "r" "Role"] .epoch) ∧
      (⟨"g", .new "g" "Old" "u", none⟩ : Entry Group) ∉
        ((sampleFresh.reload (sampleSaved false).save.2.store).2.1.segment .group).entries.list ∧
      (⟨"h", .new "h" "Other" "u", none⟩ : Entry Group) ∈
        ((sampleFresh.reload (sampleSaved false).save.2.store).2.1.segment .group).entries.list) ∧
    (sampleSaved true).save.2 = sampleSaved true ∧
      (sampleSaved true).save.1.result = .error (.unsaved 2 2) := by
  obtain ⟨-, -, -, hreload⟩ := (reload_save (w := sampleSaved false) rfl).1 rfl
  have hempty : ∀ k, (sampleFresh.segment k).entries.list = [] := by
    intro k
    cases k <;> rfl
  obtain ⟨-, hmem⟩ := hreload sampleFresh rfl hempty
  have hkeys : ((sampleSaved false).cache.segment .group).keys = ["g"] := by decide
  refine ⟨⟨⟨_, (hmem .group _).2 (.inl List.mem_cons_self), rfl, rfl⟩,
    ⟨_, (hmem .roles _).2 (.inl List.mem_cons_self), rfl, rfl⟩, ?_, ?_⟩, ?_⟩
  · rw [hmem]
    rintro (hcached | ⟨-, habsent, -⟩)
    · exact absurd (congrArg Entry.expiresAt (List.mem_singleton.1 hcached)) (by decide)
    · rw [hkeys] at habsent
      exact habsent List.mem_cons_self
  · have habsent : "h" ∉ ((sampleSaved false).cache.segment .group).keys := by
      rw [hkeys]
      decide
    have hrow : ⟨"h", JsonRecord.encode (Group.new "h" "Other" "u"), none⟩ ∈
        (sampleSaved false).store.entriesOf Kind.group.tag :=
      TableStore.mem_entriesOf.2 Std.TreeMap.getElem?_insert_self
    exact (hmem .group _).2
      (.inr ⟨by decide, habsent, _, hrow, _, JsonRecord.decode?_encode Group.lawful _, rfl⟩)
  · exact (reload_save (w := sampleSaved true) rfl).2 rfl

end World

end Roster
