import Roster.Proofs.Cache.Unlimited
import Roster.Proofs.World.Reloading

/-!
# A second reload

* `Cache.reload_grew` — a reload loses no entry and changes no setting of a segment.
* `Cache.Reloaded` — a cache that has an entry for every row of a store that decodes.
* `Cache.reloaded_reload`, `reload_idle` — after a reload a cache is such a one, and then **another reload does
  nothing**.
-/

set_option autoImplicit false

namespace Roster

namespace Segment

variable {k : Kind}

theorem restoreRow_keeps (acc : Nat × Segment k.Record) (row : SavedEntry) : (restoreRow acc row).2 =
    { acc.2 with entries := (restoreRow acc row).2.entries, size := (restoreRow acc row).2.size } := by
  unfold restoreRow
  split
  · rfl
  · rename_i value _
    rcases acc.2.restore_cases row.key value row.expiresAt with ⟨-, hi⟩ | ⟨_, -, hi⟩
    · rw [hi]
    · rw [hi]
      rfl

/-- Rows change the entries and their number, and nothing else. -/
theorem restoreRows_keeps (s : Segment k.Record) (rows : List SavedEntry) : (s.restoreRows rows).2 =
    { s with entries := (s.restoreRows rows).2.entries, size := (s.restoreRows rows).2.size } := by
  refine List.foldlRecOn (motive := fun acc : Nat × Segment k.Record =>
    acc.2 = { s with entries := acc.2.entries, size := acc.2.size }) rows restoreRow rfl ?_
  intro acc hacc row _
  rw [restoreRow_keeps, hacc]

/-- Rows whose keys are present, or that do not decode, bring nothing back. -/
theorem restoreRows_idle {s : Segment k.Record} {rows : List SavedEntry}
    (h : ∀ row ∈ rows, ∀ a : Entry k.Record, Cache.Restores k row a → a.key = "" ∨
      (s.find? a.key).isSome = true) :
    s.restoreRows rows = (0, s) := by
  have hrow {row : SavedEntry} (hmem : row ∈ rows) : restoreRow (0, s) row = (0, s) := by
    unfold restoreRow
    split
    · rfl
    · rename_i value hv
      have hpresent := h row hmem ⟨row.key, value, row.expiresAt⟩ ⟨value, hv, rfl⟩
      rcases s.restore_cases row.key value row.expiresAt with ⟨-, hi⟩ | ⟨hk, hnone, -⟩
      · dsimp only
        rw [hi]
        rfl
      · rw [show s.find? row.key = none from hnone] at hpresent
        exact (hpresent.elim hk Bool.false_ne_true).elim
  refine List.foldlRecOn (motive := fun acc : Nat × Segment k.Record => acc = (0, s)) rows restoreRow rfl ?_
  intro acc hacc row hmem
  rw [hacc]
  exact hrow hmem

end Segment

namespace Cache

variable {c c' : Cache} {s : TableStore}

/-- Every row of a store that decodes has its key in a cache. -/
def Reloaded (c : Cache) (s : TableStore) : Prop :=
  ∀ k, ∀ row ∈ s.entriesOf (Kind.tag k), ∀ a : Entry k.Record, Restores k row a →
    a.key = "" ∨ (c.slot? k a.key).isSome = true

/-- A reload loses no entry, and the limits stay. -/
theorem reload_grew (c : Cache) (s : TableStore) :
    (∀ k key, (c.slot? k key).isSome = true → ((c.reload s).2.1.slot? k key).isSome = true) ∧
      (∀ k, ((c.reload s).2.1.segment k).limit = (c.segment k).limit) ∧
      (c.reload s).2.1.isPersistent = c.isPersistent ∧ (c.reload s).2.2 = s := by
  by_cases hp : c.isPersistent = true
  · refine ⟨fun k key hentry => ?_, fun k => ?_, ?_, (reload_keeps hp s).2⟩
    · obtain ⟨e, he⟩ := Option.isSome_iff_exists.1 hentry
      obtain ⟨hmem, hkey⟩ := Entries.find?_eq_some_iff.1 he
      have hmem' : e ∈ ((c.reload s).2.1.segment k).entries.list := (mem_reload_iff hp).2 (.inl hmem)
      exact Option.isSome_of_eq_some (Entries.find?_eq_some_iff.2 ⟨hmem', hkey⟩)
    · rw [segment_reload hp, Segment.restoreRows_keeps]
    · unfold reload
      rw [if_pos hp]
      rfl
  · unfold reload
    rw [if_neg hp]
    exact ⟨fun _ _ h => h, fun _ => rfl, rfl, rfl⟩

theorem reloaded_reload (hp : c.isPersistent = true) (s : TableStore) : (c.reload s).2.1.Reloaded s := by
  intro k row hrow a hra
  by_cases hk : a.key = ""
  · exact .inl hk
  · right
    by_cases hpresent : a.key ∈ (c.segment k).keys
    · exact (c.reload_grew s).1 k a.key (Segment.isSome_find?_iff.2 hpresent)
    · have hmem : a ∈ ((c.reload s).2.1.segment k).entries.list :=
        (mem_reload_iff hp).2 (.inr ⟨hk, hpresent, row, hrow, hra⟩)
      exact Option.isSome_of_eq_some (Entries.find?_eq_some_iff.2 ⟨hmem, rfl⟩)

theorem Reloaded.grew (h : c.Reloaded s)
    (hgrew : ∀ k key, (c.slot? k key).isSome = true → (c'.slot? k key).isSome = true) : c'.Reloaded s :=
  fun k row hrow a hra => (h k row hrow a hra).imp_right (hgrew k a.key)

theorem Reloaded.of_cacheRows {s' : TableStore} (h : c.Reloaded s) (hrows : s'.cacheRows = s.cacheRows) :
    c.Reloaded s' := by
  intro k row hrow
  unfold TableStore.entriesOf at hrow
  rw [hrows] at hrow
  exact h k row hrow

/-- **Another reload does nothing.** -/
theorem reload_idle (h : c.isPersistent = true → c.Reloaded s) : c.reload s = (⟨0, none⟩, c, s) := by
  unfold reload
  split
  · rename_i hp
    have hkind (k : Kind) : reloadKind (⟨0, none⟩, c, s) k = (⟨0, none⟩, c, s) := by
      have hrows : (c.segment k).restoreRows (s.entriesOf k.tag) = (0, c.segment k) :=
        Segment.restoreRows_idle (h hp k)
      show ((⟨0 + ((c.segment k).restoreRows (s.entriesOf k.tag)).1, none⟩ : Reload),
        c.withSegment k ((c.segment k).restoreRows (s.entriesOf k.tag)).2, s) = _
      rw [hrows, withSegment_segment]
      rfl
    simp only [Kind.all, List.foldl_cons, List.foldl_nil, hkind]
  · rfl

end Cache

end Roster
