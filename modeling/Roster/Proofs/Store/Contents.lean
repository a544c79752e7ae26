import Roster.Backfill.Facts
import Roster.Proofs.Cache.Contents
import Roster.Proofs.Record.RoundTrip
import Roster.Store.Tables

/-!
# What the saved rows hold after each operation

* `TableStore.Holds` — every saved row that decodes has a property of cache entries.
* `TableStore.holds_save` — a save keeps a property that the cache has too, because **reading undoes writing**.
* `TableStore.cacheRows_noteFacts`, `cacheRows_replaceFacts` — facts about members never touch the saved rows.
* `TableStore.rowsHold` — what a reload may rely on.
-/

set_option autoImplicit false

namespace Roster

namespace TableStore

/-! ## Facts -/

section Facts

variable (now : Instant) (id : MemberId) (s : TableStore)

theorem cacheRows_write {α : Type} {s : TableStore} {change : TableStore → α × TableStore}
    (h : (change s).2.cacheRows = s.cacheRows) : (s.write change).2.cacheRows = s.cacheRows := by
  unfold write
  split
  · rfl
  · exact h

theorem cacheRows_recordJoin (t : Timestamp) : (recordJoin now id t s).2.cacheRows = s.cacheRows :=
  cacheRows_write rfl

theorem cacheRows_recordFirstJoin (t : Timestamp) :
    (recordFirstJoin now id t s).2.cacheRows = s.cacheRows := by
  apply cacheRows_write
  split <;> rfl

theorem cacheRows_touchJoin : (touchJoin now id s).2.cacheRows = s.cacheRows := cacheRows_write rfl

theorem cacheRows_recordRoles (roleIds : List String) (observedAt : Instant) :
    (recordRoles now id roleIds observedAt s).2.cacheRows = s.cacheRows := cacheRows_write rfl

theorem cacheRows_touchRoles : (touchRoles now id s).2.cacheRows = s.cacheRows := cacheRows_write rfl

end Facts

/-- Two steps leave the saved rows alone when each does. -/
theorem cacheRows_andThen {α β : Type} {o : Outcome TableStore α}
    {f : α → TableStore → Outcome TableStore β} {s : TableStore} (ho : o.2.cacheRows = s.cacheRows)
    (hf : ∀ a st, (f a st).2.cacheRows = st.cacheRows) : (o.andThen f).2.cacheRows = s.cacheRows := by
  obtain ⟨answer, st⟩ := o
  cases answer with
  | ok a => exact (hf a st).trans ho
  | error e => exact ho

theorem cacheRows_noteJoin (m : Member) (known : Option Bool) (seen now : Instant) (s : TableStore) :
    (noteJoin m known seen now s).2.cacheRows = s.cacheRows := by
  unfold noteJoin
  split
  · exact cacheRows_andThen (cacheRows_touchJoin now m.id s) fun _ _ => rfl
  · exact cacheRows_recordFirstJoin now m.id s _

theorem cacheRows_noteRoles (m : Member) (seen now : Instant) (s : TableStore) :
    (noteRoles m seen now s).2.cacheRows = s.cacheRows := by
  unfold noteRoles
  split
  · exact cacheRows_andThen (cacheRows_touchRoles now m.id s) fun _ _ => rfl
  · refine cacheRows_andThen rfl ?_
    intro recorded st
    split
    · exact cacheRows_andThen (cacheRows_recordRoles now m.id st m.roleIds seen) fun _ _ => rfl
    · exact cacheRows_andThen (cacheRows_touchRoles now m.id st) fun _ _ => rfl

/-- Noting the facts of a member leaves the saved rows alone. -/
theorem cacheRows_noteFacts (m : Member) (known : Option Bool) (seen now : Instant) (s : TableStore) :
    (noteFacts m known seen now s).2.cacheRows = s.cacheRows := by
  unfold noteFacts
  refine cacheRows_andThen (cacheRows_noteJoin m known seen now s) ?_
  intro created st
  exact cacheRows_andThen (cacheRows_noteRoles m seen now st) fun _ _ => rfl

/-- Replacing the facts of a member leaves the saved rows alone. -/
theorem cacheRows_replaceFacts (m : Member) (seen now : Instant) (s : TableStore) :
    (replaceFacts m seen now s).2.cacheRows = s.cacheRows := by
  unfold replaceFacts
  refine cacheRows_andThen ?_ fun _ st => cacheRows_recordRoles now m.id st m.roleIds seen
  split
  · exact cacheRows_recordJoin now m.id s _
  · exact cacheRows_andThen (cacheRows_recordFirstJoin now m.id s _) fun _ _ => rfl

/-! ## Saved rows -/

variable {P : (k : Kind) → Entry k.Record → Prop} {s : TableStore}

/-- Every saved row that decodes has a property of cache entries. -/
def Holds (P : (k : Kind) → Entry k.Record → Prop) (s : TableStore) : Prop :=
  ∀ k key row value, s.cacheRows[RowId.mk (Kind.tag k) key]? = some row →
    JsonRecord.decode? row.payload = some value → P k ⟨key, value, row.expiresAt⟩

theorem Holds.mono {Q : (k : Kind) → Entry k.Record → Prop} (h : s.Holds P) (hPQ : ∀ k e, P k e → Q k e) :
    s.Holds Q :=
  fun k key row value hrow hv => hPQ k _ (h k key row value hrow hv)

theorem Holds.of_cacheRows {s' : TableStore} (h : s.Holds P) (hs : s'.cacheRows = s.cacheRows) :
    s'.Holds P := by
  intro k key row value hrow hv
  rw [hs] at hrow
  exact h k key row value hrow hv

theorem holds_of_isEmpty (h : s.cacheRows.isEmpty = true) : s.Holds P := by
  intro k key row value hrow
  rw [Std.TreeMap.getElem?_of_isEmpty h] at hrow
  cases hrow

/-- A pruning keeps some of the rows as they are. -/
theorem holds_pruned (h : s.Holds P) (now : Instant) : (s.pruned now).Holds P := by
  intro k key row value hrow
  have hrow' : (s.cacheRows.filter fun _ r => keepsRow now r)[RowId.mk k.tag key]? = some row := hrow
  rw [Std.TreeMap.getElem?_filter'] at hrow'
  exact h k key row value (Option.filter_eq_some_iff.1 hrow').1

/-- The row of an entry has the property that the entry has. -/
theorem holds_saveEntry (h : s.Holds P) {k : Kind} {e : Entry k.Record} (he : P k e) :
    (saveEntry k.tag e.key (JsonRecord.encode e.value) e.expiresAt s).2.Holds P := by
  unfold saveEntry write
  split
  · exact h
  · intro j key row value hrow hv
    have hrow' : (s.cacheRows.insert ⟨k.tag, e.key⟩ ⟨JsonRecord.encode e.value, e.expiresAt⟩)[
        RowId.mk j.tag key]? = some row := hrow
    rw [Std.TreeMap.getElem?_insert] at hrow'
    split at hrow'
    · rename_i heq
      obtain ⟨htag, rfl⟩ := RowId.mk.inj (Std.LawfulEqOrd.compare_eq_iff_eq.1 heq)
      cases Kind.tag_injective htag
      cases hrow'
      rw [JsonRecord.decode?_encode k.lawful] at hv
      cases hv
      exact he
    · exact h j key row value hrow' hv

theorem saveEntry_store {τ α : Type} [Store τ] [JsonRecord α] (tag : String) (acc : Nat × τ)
    (e : Entry α) : (Segment.saveEntry tag acc e).2 =
      (Store.saveEntry tag e.key (JsonRecord.encode e.value) e.expiresAt acc.2).2 := by
  unfold Segment.saveEntry
  split <;> rename_i h <;> rw [h]

theorem holds_saveSegment (h : s.Holds P) {k : Kind} {seg : Segment k.Record}
    (hseg : ∀ e ∈ seg.entries.list, P k e) : (seg.save k.tag s).2.Holds P := by
  refine List.foldlRecOn (motive := fun acc : Nat × TableStore => acc.2.Holds P) seg.entries.list
    (Segment.saveEntry k.tag) h ?_
  intro acc hacc e he
  rw [saveEntry_store]
  exact holds_saveEntry hacc (hseg e he)

/-- A save keeps a property that the entries of the cache have. -/
theorem holds_save {c : Cache} (h : s.Holds P) (hc : c.Holds P) : (c.save s).2.Holds P := by
  unfold Cache.save
  split
  · exact List.foldlRecOn (motive := fun acc : SaveCount × TableStore => acc.2.Holds P) Kind.all
      c.saveKind h fun acc hacc k _ => holds_saveSegment hacc (hc k)
  · exact h

/-- What a reload may rely on. -/
theorem rowsHold (P : (k : Kind) → Entry k.Record → Prop) :
    Cache.RowsHold P (TableStore.Holds P) where
  keep _ _ h := h
  rows s k rows h hrows row hrow a ha := by
    cases hrows
    obtain ⟨r, hr, rfl⟩ := List.mem_map.1 hrow
    obtain ⟨hmem, htag⟩ := List.mem_filter.1 hr
    obtain ⟨⟨tag, key⟩, saved⟩ := r
    obtain rfl : tag = k.tag := by simpa using htag
    have hsaved := Std.TreeMap.mem_toList_iff_getElem?_eq_some.1 hmem
    obtain ⟨value, hv, rfl⟩ := ha
    exact h k key saved value hsaved hv

end TableStore

end Roster
