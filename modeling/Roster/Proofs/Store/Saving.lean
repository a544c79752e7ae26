import Roster.Proofs.Store.Contents

/-!
# What a save leaves in the store

* `Entry.row` — the row that an entry is saved as.
* `Segment.rowsOver`, `Cache.rowsOver` — rows with those of the entries put over them; a lookup
  finds the row of an entry under its tag and key, and elsewhere what was there:
  `Cache.getElem?_rowsOver`, `getElem?_rowsOver_of_ne`.
* `Cache.save_writable` — **a save puts the rows of the entries over the rows of the store**, and no row fails.
* `Cache.save_readOnly` — when writes are switched off every row fails, and the store is as it was.
* `TableStore.mem_entriesOf`, `nodup_entriesOf` — the saved entries with a tag are the
  rows under it, one for each key.
-/

set_option autoImplicit false

namespace Roster

/-- The row that an entry is saved as. -/
def Entry.row {α : Type} [JsonRecord α] (e : Entry α) : SavedRow :=
  ⟨JsonRecord.encode e.value, e.expiresAt⟩

/-- The saved rows of a store. -/
abbrev SavedRows : Type := Std.TreeMap RowId SavedRow

/-- A store with other saved rows. -/
def TableStore.withRows (s : TableStore) (rows : SavedRows) : TableStore := { s with cacheRows := rows }

/-! ## Rows over rows -/

namespace Segment

variable {α : Type} [JsonRecord α]

/-- Put the row of an entry over others. -/
def putRow (tag : String) (rows : SavedRows) (e : Entry α) : SavedRows := rows.insert ⟨tag, e.key⟩ e.row

/-- The rows of a segment over others. -/
def rowsOver (s : Segment α) (tag : String) (rows : SavedRows) : SavedRows :=
  s.entries.list.foldl (putRow tag) rows

theorem getElem?_putRow (tag : String) (rows : SavedRows) (e : Entry α) (id : RowId) :
    (putRow tag rows e)[id]? = if id = ⟨tag, e.key⟩ then some e.row else rows[id]? := by
  unfold putRow
  rw [Std.TreeMap.getElem?_insert]
  by_cases h : id = ⟨tag, e.key⟩
  · rw [if_pos h, if_pos (Std.LawfulEqOrd.compare_eq_iff_eq.2 h.symm)]
  · rw [if_neg h, if_neg fun heq => h (Std.LawfulEqOrd.compare_eq_iff_eq.1 heq).symm]

/-- Rows that no entry is saved as stay. -/
theorem getElem?_foldl_putRow_of_ne {tag : String} {l : List (Entry α)} {rows : SavedRows} {id : RowId}
    (h : ∀ e ∈ l, id ≠ ⟨tag, e.key⟩) : (l.foldl (putRow tag) rows)[id]? = rows[id]? := by
  induction l generalizing rows with
  | nil => rfl
  | cons e l ih =>
    rw [List.foldl_cons, ih fun a ha => h a (List.mem_cons_of_mem _ ha), getElem?_putRow,
      if_neg (h e List.mem_cons_self)]

/-- Each entry is saved as its row: no later one has its key. -/
theorem getElem?_foldl_putRow {tag : String} {l : List (Entry α)} (hn : (l.map Entry.key).Nodup)
    {rows : SavedRows} {e : Entry α} (he : e ∈ l) :
    (l.foldl (putRow tag) rows)[RowId.mk tag e.key]? = some e.row := by
  induction l generalizing rows with
  | nil => cases he
  | cons a l ih =>
    obtain ⟨ha, hl⟩ := List.nodup_cons.1 hn
    rw [List.foldl_cons]
    rcases List.mem_cons.1 he with rfl | he
    · rw [getElem?_foldl_putRow_of_ne, getElem?_putRow, if_pos rfl]
      rintro b hb heq
      exact ha (List.mem_map.2 ⟨b, hb, (RowId.mk.inj heq).2.symm⟩)
    · exact ih hl he

theorem getElem?_rowsOver (s : Segment α) (tag : String) (rows : SavedRows) (key : String) :
    (s.rowsOver tag rows)[RowId.mk tag key]? = ((s.find? key).map Entry.row).or rows[RowId.mk tag key]? := by
  cases h : s.find? key with
  | some e =>
    obtain ⟨he, rfl⟩ := Entries.find?_eq_some_iff.1 h
    exact getElem?_foldl_putRow s.entries.nodup he
  | none =>
    refine getElem?_foldl_putRow_of_ne ?_
    intro e he heq
    exact Entries.key_ne_of_find?_none h e he (RowId.mk.inj heq).2.symm

theorem getElem?_rowsOver_of_ne (s : Segment α) {tag : String} (rows : SavedRows) {id : RowId}
    (h : id.tag ≠ tag) : (s.rowsOver tag rows)[id]? = rows[id]? := by
  refine getElem?_foldl_putRow_of_ne ?_
  rintro e - rfl
  exact h rfl

/-! ## Saving a segment -/

/-- A row that is written goes over the others. -/
theorem saveEntry_writable {s : TableStore} (h : s.readOnly = false) (tag : String) (n : Nat) (e : Entry α) :
    saveEntry tag (n, s) e = (n, s.withRows (putRow tag s.cacheRows e)) := by
  have hwrite : Store.saveEntry tag e.key (JsonRecord.encode e.value) e.expiresAt s =
      (.ok (), s.withRows (putRow tag s.cacheRows e)) := if_neg (by simp [h])
  unfold saveEntry
  rw [hwrite]

/-- A row that is refused is counted. -/
theorem saveEntry_readOnly {s : TableStore} (h : s.readOnly = true) (tag : String) (n : Nat) (e : Entry α) :
    saveEntry tag (n, s) e = (n + 1, s) := by
  have hwrite : Store.saveEntry tag e.key (JsonRecord.encode e.value) e.expiresAt s =
      (.error (.store "writes disabled"), s) := if_pos h
  unfold saveEntry
  rw [hwrite]

theorem foldl_saveEntry_writable {s : TableStore} (h : s.readOnly = false) (tag : String) (n : Nat)
    (l : List (Entry α)) :
    l.foldl (saveEntry tag) (n, s) = (n, s.withRows (l.foldl (putRow tag) s.cacheRows)) := by
  induction l generalizing s with
  | nil => rfl
  | cons e l ih =>
    rw [List.foldl_cons, saveEntry_writable h]
    exact ih h

theorem foldl_saveEntry_readOnly {s : TableStore} (h : s.readOnly = true) (tag : String) (n : Nat)
    (l : List (Entry α)) : l.foldl (saveEntry tag) (n, s) = (n + l.length, s) := by
  induction l generalizing n with
  | nil => rfl
  | cons e l ih =>
    rw [List.foldl_cons, saveEntry_readOnly h, ih, List.length_cons, Nat.add_assoc, Nat.add_comm 1]

theorem save_writable (seg : Segment α) {s : TableStore} (h : s.readOnly = false) (tag : String) :
    seg.save tag s = (⟨seg.entries.size, 0⟩, s.withRows (seg.rowsOver tag s.cacheRows)) := by
  unfold save
  rw [foldl_saveEntry_writable h]
  rfl

theorem save_readOnly (seg : Segment α) {s : TableStore} (h : s.readOnly = true) (tag : String) :
    seg.save tag s = (⟨seg.entries.size, seg.entries.size⟩, s) := by
  unfold save
  rw [foldl_saveEntry_readOnly h, Nat.zero_add]
  rfl

end Segment

/-! ## Saving the cache -/

namespace Cache

/-- The number of entries of some kinds. -/
def countOf (c : Cache) (ks : List Kind) : Nat := ks.foldr (fun k n => (c.segment k).entries.size + n) 0

/-- The number of entries. -/
def entryCount (c : Cache) : Nat := c.countOf Kind.all

/-- What is counted for each kind adds up over the kinds. -/
theorem entryCount_add {c c' : Cache} {n : Kind → Nat}
    (h : ∀ k, n k + (c.segment k).entries.size = (c'.segment k).entries.size) :
    Kind.all.foldl (fun total k => total + n k) 0 + c.entryCount = c'.entryCount := by
  have hmember := h .member
  have hgroup := h .group
  have hroles := h .roles
  have hchannel := h .channel
  simp only [entryCount, countOf, Kind.all, List.foldl_cons, List.foldl_nil, List.foldr_cons, List.foldr_nil]
  omega

/-- The rows of a kind over others. -/
def kindOver (c : Cache) (rows : SavedRows) (k : Kind) : SavedRows := (c.segment k).rowsOver k.tag rows

/-- The rows of a cache over others. -/
def rowsOver (c : Cache) (rows : SavedRows) : SavedRows := Kind.all.foldl c.kindOver rows

variable (c : Cache)

theorem getElem?_foldl_kindOver_of_ne {ks : List Kind} {rows : SavedRows} {id : RowId}
    (h : ∀ k ∈ ks, id.tag ≠ k.tag) : (ks.foldl c.kindOver rows)[id]? = rows[id]? := by
  induction ks generalizing rows with
  | nil => rfl
  | cons k ks ih =>
    have hk : (c.kindOver rows k)[id]? = rows[id]? :=
      Segment.getElem?_rowsOver_of_ne _ rows (h k List.mem_cons_self)
    rw [List.foldl_cons, ih fun j hj => h j (List.mem_cons_of_mem _ hj), hk]

/-- Under a tag that is no kind's, the rows stay. -/
theorem getElem?_rowsOver_of_ne (rows : SavedRows) {id : RowId} (h : ∀ k : Kind, id.tag ≠ k.tag) :
    (c.rowsOver rows)[id]? = rows[id]? :=
  c.getElem?_foldl_kindOver_of_ne fun k _ => h k

/-- Under the tag of a kind, the entries of that kind alone are put over the rows: tags differ. -/
theorem getElem?_rowsOver (rows : SavedRows) (k : Kind) (key : String) :
    (c.rowsOver rows)[RowId.mk k.tag key]? =
      (((c.segment k).find? key).map Entry.row).or rows[RowId.mk k.tag key]? := by
  obtain ⟨before, after, hall⟩ := List.append_of_mem k.mem_all
  have hnodup : (before ++ k :: after).Nodup := hall ▸ (show Kind.all.Nodup by decide)
  have hbefore : ∀ j ∈ before, (RowId.mk k.tag key).tag ≠ j.tag := by
    intro j hj htag
    obtain rfl := Kind.tag_injective htag
    exact (List.nodup_append.1 hnodup).2.2 k hj k List.mem_cons_self rfl
  have hafter : ∀ j ∈ after, (RowId.mk k.tag key).tag ≠ j.tag := by
    intro j hj htag
    obtain rfl := Kind.tag_injective htag
    exact (List.nodup_cons.1 (List.nodup_append.1 hnodup).2.1).1 hj
  unfold rowsOver
  rw [hall, List.foldl_append, List.foldl_cons, c.getElem?_foldl_kindOver_of_ne hafter, kindOver,
    Segment.getElem?_rowsOver, c.getElem?_foldl_kindOver_of_ne hbefore]

variable {c} {s : TableStore}

theorem foldl_saveKind_writable (h : s.readOnly = false) (ks : List Kind) (n : Nat) :
    ks.foldl c.saveKind (⟨n, 0⟩, s) =
      (⟨n + c.countOf ks, 0⟩, s.withRows (ks.foldl c.kindOver s.cacheRows)) := by
  induction ks generalizing n s with
  | nil => rfl
  | cons k ks ih =>
    have hk : c.saveKind (⟨n, 0⟩, s) k =
        (⟨n + (c.segment k).entries.size, 0⟩, s.withRows (c.kindOver s.cacheRows k)) := by
      unfold saveKind
      rw [Segment.save_writable _ h]
      rfl
    have hcount : c.countOf (k :: ks) = (c.segment k).entries.size + c.countOf ks := rfl
    have hks := ih (s := s.withRows (c.kindOver s.cacheRows k)) h (n + (c.segment k).entries.size)
    rw [List.foldl_cons, hk, hks, hcount, Nat.add_assoc]
    rfl

theorem foldl_saveKind_readOnly (h : s.readOnly = true) (ks : List Kind) (n : Nat) :
    ks.foldl c.saveKind (⟨n, n⟩, s) = (⟨n + c.countOf ks, n + c.countOf ks⟩, s) := by
  induction ks generalizing n with
  | nil => rfl
  | cons k ks ih =>
    have hk : c.saveKind (⟨n, n⟩, s) k =
        (⟨n + (c.segment k).entries.size, n + (c.segment k).entries.size⟩, s) := by
      unfold saveKind
      rw [Segment.save_readOnly _ h]
    have hcount : c.countOf (k :: ks) = (c.segment k).entries.size + c.countOf ks := rfl
    rw [List.foldl_cons, hk, ih, hcount, Nat.add_assoc]

/-- **A save puts the rows of the entries over the rows of the store.** -/
theorem save_writable (hp : c.isPersistent = true) (h : s.readOnly = false) :
    c.save s = (⟨c.entryCount, 0⟩, s.withRows (c.rowsOver s.cacheRows)) := by
  unfold save
  rw [if_pos hp, foldl_saveKind_writable h, Nat.zero_add]
  rfl

/-- A save does nothing to a store whose writes are switched off. -/
theorem save_readOnly (hp : c.isPersistent = true) (h : s.readOnly = true) :
    c.save s = (⟨c.entryCount, c.entryCount⟩, s) := by
  unfold save
  rw [if_pos hp, foldl_saveKind_readOnly h, Nat.zero_add]
  rfl

end Cache

/-! ## Reading the rows back -/

namespace TableStore

variable {s : TableStore} {tag : String}

theorem mem_entriesOf {row : SavedEntry} :
    row ∈ s.entriesOf tag ↔ s.cacheRows[RowId.mk tag row.key]? = some ⟨row.payload, row.expiresAt⟩ := by
  unfold entriesOf
  rw [List.mem_map]
  constructor
  · rintro ⟨⟨⟨tag', key⟩, saved⟩, hr, rfl⟩
    obtain ⟨hmem, htag⟩ := List.mem_filter.1 hr
    obtain rfl : tag' = tag := by simpa using htag
    exact Std.TreeMap.mem_toList_iff_getElem?_eq_some.1 hmem
  · intro h
    have hmem := Std.TreeMap.mem_toList_iff_getElem?_eq_some.2 h
    exact ⟨_, List.mem_filter.2 ⟨hmem, by simp⟩, rfl⟩

/-- No key is there twice under a tag. -/
theorem nodup_entriesOf (s : TableStore) (tag : String) : ((s.entriesOf tag).map SavedEntry.key).Nodup := by
  have hdistinct := (Std.TreeMap.distinct_keys_toList (t := s.cacheRows)).filter fun r => decide (r.1.tag = tag)
  unfold entriesOf
  rw [List.map_map]
  refine List.pairwise_map.2 (hdistinct.imp_of_mem ?_)
  rintro ⟨⟨tag₁, key₁⟩, row₁⟩ ⟨⟨tag₂, key₂⟩, row₂⟩ h₁ h₂ hne hkey
  obtain rfl : tag₁ = tag := by simpa using (List.mem_filter.1 h₁).2
  obtain rfl : tag₂ = tag₁ := by simpa using (List.mem_filter.1 h₂).2
  obtain rfl : key₁ = key₂ := hkey
  exact hne (Std.LawfulEqOrd.compare_eq_iff_eq.2 rfl)

end TableStore

end Roster
