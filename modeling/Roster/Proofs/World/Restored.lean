import Roster.Proofs.Segment.Calls
import Roster.Proofs.World.Reloaded

/-!
# What a reload adds

A reload puts the entries of the rows before the entries that are there, and changes
nothing else but their number.

* `Cache.Counted` — the sizes that are kept beside the entries are right.  `counted_new`, `Counted.call`: they
  are in an empty cache, and every operation keeps them right.
* `TableStore.Spells` — a row of a store decodes to an entry.  `RowId.Decodes`: a
  row decodes to an entry at all.
* `TableStore.entriesOf_filter`, `Segment.restoreRows_filter` — a row that does not decode is as good as none.
* `Cache.ReloadAdds`, `Cache.reload_adds` — **a reload only adds**, from any store and to any cache; another
  one right after does nothing.
-/

set_option autoImplicit false

namespace Roster

/-! ## Sizes -/

namespace Cache

variable {c : Cache}

/-- The size of every segment is the number of its entries. -/
def Counted (c : Cache) : Prop := ∀ k, (c.segment k).size = (c.segment k).entries.size

theorem counted_new (settings : CacheSettings) (hasStore hasTimer : Bool) (timer : Duration) :
    (new settings hasStore hasTimer timer).Counted := by
  intro k
  cases k <;> rfl

/-- Every operation on a segment keeps the sizes right. -/
theorem Counted.call (h : c.Counted) (k : Kind) (now : Instant) (call : SegmentCall k.Record) :
    (c.withSegment k ((c.segment k).call now call).2).Counted := by
  intro j
  by_cases hj : j = k
  · subst hj
    rw [segment_withSegment]
    exact Segment.size_call (h j) now call
  · rw [segment_withSegment_ne c _ hj]
    exact h j

theorem Counted.size_eq (h : c.Counted) : c.size = c.entryCount := by
  have hmembers := h .member
  have hgroups := h .group
  have hroles := h .roles
  have hchannels := h .channel
  simp only [segment] at hmembers hgroups hroles hchannels
  simp [size, total, reports, Segment.report, entryCount, countOf, Kind.all, segment, hmembers, hgroups, hroles,
    hchannels]
  omega

end Cache

/-! ## Rows that count -/

/-- A row of a store decodes to an entry. -/
def TableStore.Spells (s : TableStore) (k : Kind) (a : Entry k.Record) : Prop :=
  ∃ row, s.cacheRows[RowId.mk k.tag a.key]? = some row ∧ JsonRecord.decode? row.payload = some a.value ∧
    row.expiresAt = a.expiresAt

theorem TableStore.spells_iff {s : TableStore} {k : Kind} {a : Entry k.Record} :
    s.Spells k a ↔ ∃ row ∈ s.entriesOf k.tag, Cache.Restores k row a := by
  constructor
  · rintro ⟨row, hrow, hv, hexpiry⟩
    refine ⟨⟨a.key, row.payload, row.expiresAt⟩, mem_entriesOf.2 hrow, a.value, hv, ?_⟩
    rw [hexpiry]
  · rintro ⟨row, hrow, value, hv, rfl⟩
    exact ⟨⟨row.payload, row.expiresAt⟩, mem_entriesOf.1 hrow, hv, rfl⟩

/-- A row decodes to a record of the kind that its tag names. -/
def RowId.Decodes (id : RowId) (row : SavedRow) : Prop :=
  ∃ k : Kind, id.tag = k.tag ∧ (JsonRecord.decode? (α := k.Record) row.payload).isSome = true

/-- Fewer rows under a tag, in the same order. -/
theorem TableStore.entriesOf_filter (s : TableStore) (p : RowId → SavedRow → Bool) (tag : String) :
    (s.withRows (s.cacheRows.filter p)).entriesOf tag =
      (s.entriesOf tag).filter fun row => p ⟨tag, row.key⟩ ⟨row.payload, row.expiresAt⟩ := by
  show ((s.cacheRows.filter p).toList.filter fun r => r.1.tag = tag).map _ = _
  rw [Std.TreeMap.toList_filter, List.filter_filter, entriesOf, List.filter_map, List.filter_filter]
  congr 1
  refine List.filter_congr ?_
  rintro ⟨⟨tag', key⟩, row⟩ -
  by_cases htag : tag' = tag
  · simp [htag]
  · simp [htag]

/-- Rows that do not decode bring nothing back. -/
theorem Segment.restoreRows_filter {k : Kind} (s : Segment k.Record) {rows : List SavedEntry}
    {q : SavedEntry → Bool}
    (h : ∀ row ∈ rows, q row = false → JsonRecord.decode? (α := k.Record) row.payload = none) :
    s.restoreRows (rows.filter q) = s.restoreRows rows := by
  unfold restoreRows
  generalize (0, s) = acc
  induction rows generalizing acc with
  | nil => rfl
  | cons row rows ih =>
    obtain ⟨hrow, hrows⟩ := List.forall_mem_cons.1 h
    cases hq : q row with
    | true => rw [List.filter_cons_of_pos hq, List.foldl_cons, List.foldl_cons, ih hrows]
    | false =>
      have hskip : restoreRow acc row = acc := by
        unfold restoreRow
        rw [hrow hq]
      rw [List.filter_cons_of_neg (by simp [hq]), List.foldl_cons, hskip, ih hrows]

/-! ## Reloads -/

namespace Cache

variable {c : Cache} {s : TableStore}

/-- Stores whose rows bring the same back are reloaded alike. -/
theorem reload_of_rows (hp : c.isPersistent = true) {s' : TableStore}
    (h : ∀ k, (c.segment k).restoreRows (s'.entriesOf k.tag) = (c.segment k).restoreRows (s.entriesOf k.tag)) :
    c.reload s' = ((c.reload s).1, (c.reload s).2.1, s') := by
  have hmembers := h .member
  have hgroups := h .group
  have hroles := h .roles
  have hchannels := h .channel
  simp only [segment] at hmembers hgroups hroles hchannels
  rw [reload_eq hp, reload_eq hp]
  simp only [h, hmembers, hgroups, hroles, hchannels]

/-- Rows that do not decode may as well be absent. -/
theorem reload_filter (hp : c.isPersistent = true) {p : RowId → SavedRow → Bool}
    (h : ∀ id row, s.cacheRows[id]? = some row → id.Decodes row → p id row = true) :
    c.reload (s.withRows (s.cacheRows.filter p)) =
      ((c.reload s).1, (c.reload s).2.1, s.withRows (s.cacheRows.filter p)) := by
  refine reload_of_rows hp ?_
  intro k
  rw [TableStore.entriesOf_filter]
  refine Segment.restoreRows_filter _ ?_
  intro row hrow hdropped
  by_contra hdecodes
  have hkept := h _ _ (TableStore.mem_entriesOf.1 hrow) ⟨k, rfl, Option.isSome_iff_ne_none.2 hdecodes⟩
  rw [hdropped] at hkept
  cases hkept

/-- A reload keeps the sizes right. -/
theorem Counted.reload (h : c.Counted) (hp : c.isPersistent = true) (s : TableStore) :
    (c.reload s).2.1.Counted := by
  intro k
  rw [segment_reload hp]
  refine List.foldlRecOn (motive := fun acc : Nat × Segment k.Record => acc.2.size = acc.2.entries.size)
    (s.entriesOf k.tag) Segment.restoreRow (h k) ?_
  intro acc hacc row _
  unfold Segment.restoreRow
  split
  · exact hacc
  · exact Segment.size_restore hacc _ _ _

/-- What a reload of a persistent cache does. -/
structure ReloadAdds (c : Cache) (s : TableStore) : Prop where
  /-- The answer is the number of entries that came in. -/
  answer : (c.reload s).1.result = .ok (c.reload s).1.loaded
  /-- The entries stay in their order behind those that come in: one for every row of the kind that decodes,
  under a key that is named and absent, with the expiry of the row. -/
  entries : ∀ k, ∃ added, ((c.reload s).2.1.segment k).entries.list = added ++ (c.segment k).entries.list ∧
    ∀ a, a ∈ added ↔ a.key ≠ "" ∧ a.key ∉ (c.segment k).keys ∧ s.Spells k a
  /-- Nothing else of a segment changes. -/
  segments : ∀ k, (c.reload s).2.1.segment k =
    { c.segment k with
      entries := ((c.reload s).2.1.segment k).entries
      size := ((c.reload s).2.1.segment k).size }
  settings : (c.reload s).2.1.persistence = c.persistence ∧ (c.reload s).2.1.hasStore = c.hasStore ∧
    (c.reload s).2.1.sweeper = c.sweeper
  growth : (c.reload s).1.loaded + c.entryCount = (c.reload s).2.1.entryCount
  size : c.Counted → (c.reload s).2.1.Counted ∧ (c.reload s).1.loaded + c.size = (c.reload s).2.1.size
  store : (c.reload s).2.2 = s
  /-- Without rows that do not decode, the answer and the cache are the same. -/
  unread : ∀ p, (∀ id row, s.cacheRows[id]? = some row → id.Decodes row → p id row = true) →
    c.reload (s.withRows (s.cacheRows.filter p)) =
      ((c.reload s).1, (c.reload s).2.1, s.withRows (s.cacheRows.filter p))
  /-- Another reload finds nothing to add. -/
  again : (c.reload s).2.1.reload s = (⟨0, none⟩, (c.reload s).2.1, s)

theorem reloadAdds_of_persistent (hp : c.isPersistent = true) (s : TableStore) : c.ReloadAdds s where
  answer := result_reload hp s
  entries k := by
    refine ⟨(c.segment k).added (s.entriesOf k.tag), ?_, ?_⟩
    · rw [segment_reload hp]
      exact (c.segment k).list_restoreRows (s.nodup_entriesOf k.tag)
    · intro a
      rw [Segment.mem_added, TableStore.spells_iff]
  segments k := by
    rw [segment_reload hp]
    exact (c.segment k).restoreRows_keeps _
  settings := by
    rw [reload_eq hp]
    exact ⟨rfl, rfl, rfl⟩
  growth := loaded_reload hp s
  size h := by
    have hafter := h.reload hp s
    refine ⟨hafter, ?_⟩
    rw [h.size_eq, hafter.size_eq]
    exact loaded_reload hp s
  store := (reload_keeps hp s).2
  unread _ h := reload_filter hp h
  again := reload_idle fun _ => reloaded_reload hp s

/-- **A reload only adds**, and without persistence it does nothing. -/
theorem reload_adds (c : Cache) (s : TableStore) :
    (c.isPersistent = true → c.ReloadAdds s) ∧ (c.isPersistent = false → c.reload s = (⟨0, none⟩, c, s)) := by
  constructor
  · intro hp
    exact reloadAdds_of_persistent hp s
  · intro hp
    refine reload_idle fun hp' => ?_
    rw [hp] at hp'
    cases hp'

/-- A cache that holds one group and no more. -/
def sampleFull (persistence : Bool) : Cache :=
  (new { CacheSettings.standard with groups := ⟨1, none⟩, persistence } true false .zero).insert
    (.group "g") (.new "g" "Cached" "u") .epoch

/-- A group as a row that has expired. -/
def savedGroup (id : String) : SavedRow := ⟨JsonRecord.encode (Group.new id "Saved" "u"), some .epoch⟩

/-- Rows of two groups, of a group without an id, and one that is no JSON. -/
def sampleGroupRows : TableStore :=
  (TableStore.new TableStore.defaultRetention).withRows
    ((((∅ : SavedRows).insert ⟨"group", ""⟩ (savedGroup "")).insert ⟨"group", "g"⟩ (savedGroup "g")).insert
      ⟨"group", "h"⟩ (savedGroup "h") |>.insert ⟨"group", "x"⟩ ⟨"?", none⟩)

/-- The second group comes in over the limit, though its expiry has passed; the other rows do not. -/
theorem reload_adds_sample :
    (sampleFull true).isPersistent = true ∧ (sampleFull true).Counted ∧
      (∃ added, (((sampleFull true).reload sampleGroupRows).2.1.segment .group).entries.list =
          added ++ ((sampleFull true).segment .group).entries.list ∧
        ⟨"h", .new "h" "Saved" "u", some .epoch⟩ ∈ added ∧ ∀ a ∈ added, a.key ≠ "" ∧
        a.key ≠ "g" ∧ a.key ≠ "x") ∧
      (sampleFull false).isPersistent = false ∧
      (sampleFull false).reload sampleGroupRows = (⟨0, none⟩, sampleFull false, sampleGroupRows) := by
  have hcounted : (sampleFull true).Counted :=
    (counted_new _ _ _ _).call .group .epoch (.insert "g" (.new "g" "Cached" "u"))
  refine ⟨rfl, hcounted, ?_, rfl, (reload_adds (sampleFull false) sampleGroupRows).2 rfl⟩
  obtain ⟨added, hlist, hadded⟩ := ((reload_adds (sampleFull true) sampleGroupRows).1 rfl).entries .group
  have hkeys : ((sampleFull true).segment .group).keys = ["g"] := rfl
  have hgroup : sampleGroupRows.cacheRows[RowId.mk (Kind.tag .group) "h"]? = some (savedGroup "h") :=
    Std.TreeMap.getElem?_insert.trans ((if_neg (by decide)).trans Std.TreeMap.getElem?_insert_self)
  have hother : sampleGroupRows.cacheRows[RowId.mk (Kind.tag .group) "x"]? = some ⟨"?", none⟩ :=
    Std.TreeMap.getElem?_insert_self
  have hunread : (JsonRecord.decode? "?" : Option Group) = none := by cbv
  refine ⟨added, hlist, ?_, ?_⟩
  · have hspells : sampleGroupRows.Spells .group ⟨"h", .new "h" "Saved" "u", some .epoch⟩ :=
      ⟨savedGroup "h", hgroup, JsonRecord.decode?_encode Group.lawful _, rfl⟩
    refine (hadded _).2 ⟨by decide, ?_, hspells⟩
    rw [hkeys]
    decide
  · intro a ha
    obtain ⟨hne, habsent, row, hrow, hv, -⟩ := (hadded a).1 ha
    rw [hkeys] at habsent
    refine ⟨hne, by simpa using habsent, ?_⟩
    intro hx
    rw [hx, hother] at hrow
    cases hrow
    rw [hunread] at hv
    cases hv

end Cache

end Roster
