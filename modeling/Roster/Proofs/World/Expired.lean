import Roster.Proofs.World.Restored

/-!
# What has expired in the store and in the cache

The store drops rows and the cache drops entries, each by a test of its own.  Both tests tell the same, so that
it does not matter whether the rows are pruned before a reload or the cache is swept after it.

* `TableStore.keepsRow_eq` — a row is kept exactly when an entry with its expiry is live.
* `Segment.added_filter`, `list_restoreRows_filter` — pruned rows bring in what a sweep would leave.
* `Cache.sweep_add_entryCount` — a sweep counts what it removes.
* `Cache.ExpiryAgrees`, `Cache.expiry_agrees` — **a pruning before a reload is a sweep after it**.
-/

set_option autoImplicit false

namespace Roster

variable {now : Instant}

/-- A row is kept exactly when an entry with its expiry is live. -/
theorem TableStore.keepsRow_eq {α : Type} {row : SavedRow} {a : Entry α} (h : a.expiresAt = row.expiresAt) :
    keepsRow now row = !a.hasExpired now := by
  unfold keepsRow Entry.hasExpired
  rw [h]
  cases row.expiresAt with
  | none => rfl
  | some expiry =>
    rw [← decide_not]
    refine decide_eq_decide.2 ?_
    rw [Instant.lt_def, Instant.le_def]
    omega

/-! ## One segment -/

namespace Segment

variable {k : Kind} {s : Segment k.Record}

/-- What pruned rows bring in is what is live of the entries that all the rows bring in. -/
theorem added_filter (s : Segment k.Record) (now : Instant) (rows : List SavedEntry) :
    s.added (rows.filter fun row => TableStore.keepsRow now ⟨row.payload, row.expiresAt⟩) =
      (s.added rows).filter fun a => !a.hasExpired now := by
  unfold added
  rw [List.filter_reverse, List.filterMap_filter, List.filter_filterMap]
  congr 1
  refine List.filterMap_congr ?_
  intro row _
  cases hadded : s.added? row with
  | none => simp
  | some a =>
    obtain ⟨-, -, value, -, rfl⟩ := added?_eq_some_iff.1 hadded
    have hkeeps : TableStore.keepsRow now ⟨row.payload, row.expiresAt⟩ =
        !(⟨row.key, value, row.expiresAt⟩ : Entry k.Record).hasExpired now := TableStore.keepsRow_eq rfl
    rw [hkeeps, Option.filter_some]

/-- Pruned rows leave a segment without expired entries as a sweep would after all the rows. -/
theorem list_restoreRows_filter (hlive : ∀ e ∈ s.entries.list, e.hasExpired now = false)
    {rows : List SavedEntry} (hn : (rows.map SavedEntry.key).Nodup) :
    (s.restoreRows (rows.filter fun row =>
      TableStore.keepsRow now ⟨row.payload, row.expiresAt⟩)).2.entries.list =
      ((s.restoreRows rows).2.sweep now).2.entries.list := by
  have hkept : s.entries.list.filter (fun e => !e.hasExpired now) = s.entries.list := by
    refine List.filter_eq_self.2 ?_
    intro e he
    simp [hlive e he]
  show _ = (s.restoreRows rows).2.entries.list.filter fun e => !e.hasExpired now
  rw [list_restoreRows s hn, List.filter_append, hkept, ← added_filter]
  exact list_restoreRows s (hn.sublist (List.filter_sublist.map _))

end Segment

/-! ## The whole cache -/

namespace Cache

variable {c : Cache}

/-- A sweep counts what it removes. -/
theorem sweep_add_entryCount (c : Cache) (now : Instant) :
    (c.sweep now).1 + (c.sweep now).2.entryCount = c.entryCount := by
  have hswept : (c.sweep now).1 = Kind.all.foldl (fun n k => n + ((c.segment k).sweep now).1) 0 := rfl
  rw [hswept]
  refine entryCount_add fun k => ?_
  rw [segment_sweep]
  exact (c.segment k).sweep_add_size now

/-- Caches with the same entries have equally many. -/
theorem entryCount_congr {c' : Cache} (h : ∀ k, (c.segment k).entries.list = (c'.segment k).entries.list) :
    c.entryCount = c'.entryCount := by
  simp only [entryCount, countOf, Entries.size, h]

/-- What a pruning of the store before a reload has in common with a sweep of the cache after it. -/
structure ExpiryAgrees (c : Cache) (s : TableStore) (now : Instant) : Prop where
  pruned : ∃ n, (Store.prune now s).1 = .ok n
  contents : ∀ k key, ((c.reload (Store.prune now s).2).2.1.segment k).find? key =
    (((c.reload s).2.1.sweep now).2.segment k).find? key
  answers : (c.reload (Store.prune now s).2).1.result = .ok (c.reload (Store.prune now s).2).1.loaded ∧
    (c.reload s).1.result = .ok (c.reload s).1.loaded
  loaded : (c.reload (Store.prune now s).2).1.loaded + ((c.reload s).2.1.sweep now).1 = (c.reload s).1.loaded

/-- **A pruning before a reload is a sweep after it**, for a cache without expired entries. -/
theorem expiry_agrees (hp : c.isPersistent = true)
    (hlive : ∀ k, ∀ e ∈ (c.segment k).entries.list, e.hasExpired now = false) (s : TableStore) :
    c.ExpiryAgrees s now := by
  have hlist (k : Kind) : ((c.reload (s.pruned now)).2.1.segment k).entries.list =
      (((c.reload s).2.1.sweep now).2.segment k).entries.list := by
    rw [segment_sweep, segment_reload hp, segment_reload hp]
    have hrows : (s.pruned now).entriesOf k.tag = _ :=
      s.entriesOf_filter (fun _ row => TableStore.keepsRow now row) k.tag
    rw [hrows]
    exact Segment.list_restoreRows_filter (hlive k) (s.nodup_entriesOf k.tag)
  refine ⟨⟨_, rfl⟩, ?_, ?_, ?_⟩
  · intro k key
    exact congrArg (fun es => List.find? (fun e => decide (e.key = key)) es) (hlist k)
  · exact ⟨result_reload hp _, result_reload hp s⟩
  · have hfirst := loaded_reload hp (s.pruned now)
    have hsecond := loaded_reload hp s
    have hswept := (c.reload s).2.1.sweep_add_entryCount now
    rw [entryCount_congr hlist] at hfirst
    show (c.reload (s.pruned now)).1.loaded + _ = _
    omega

/-- The rows expire at the very instant. -/
theorem expiry_agrees_sample :
    (sampleFull true).isPersistent = true ∧
      (∀ k, ∀ e ∈ ((sampleFull true).segment k).entries.list, e.hasExpired .epoch = false) ∧
      (sampleFull true).ExpiryAgrees sampleGroupRows .epoch := by
  have hlive : ∀ k, ∀ e ∈ ((sampleFull true).segment k).entries.list, e.hasExpired .epoch = false := by
    intro k e he
    cases k with
    | group =>
      obtain rfl := List.mem_singleton.1 he
      rfl
    | _ => cases he
  exact ⟨rfl, hlive, expiry_agrees rfl hlive sampleGroupRows⟩

end Cache

end Roster
