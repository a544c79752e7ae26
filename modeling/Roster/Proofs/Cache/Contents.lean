import Roster.Cache.Saving
import Roster.Proofs.Segment.Contents

/-!
# What the cache holds after each operation

* `Cache.Holds` — every entry of every segment has a property, which may depend on its kind.
* `Cache.holds_get`, `holds_insert`, `holds_insertUnlessLive`, `holds_erase`, … — an operation keeps such a
  property when what it writes has it.
* `Cache.mem_erase` — an erasure takes out the entry of one entity and no other.
* `Cache.mem_restoreRow_iff` — a row brings one entry back, or nothing.
* `Cache.holds_reload` — a reload keeps a property that the rows of the store have.
-/

set_option autoImplicit false

namespace Roster

namespace Cache

/-- Every entry has a property. -/
def Holds (P : (k : Kind) → Entry k.Record → Prop) (c : Cache) : Prop :=
  ∀ k, ∀ e ∈ (c.segment k).entries.list, P k e

variable {P Q : (k : Kind) → Entry k.Record → Prop} {c : Cache}

theorem Holds.mono (h : c.Holds P) (hPQ : ∀ k e, P k e → Q k e) : c.Holds Q :=
  fun k e he => hPQ k e (h k e he)

/-- A segment in the place of another, when its entries have the property. -/
theorem Holds.withSegment (h : c.Holds P) {k : Kind} {s : Segment k.Record}
    (hs : ∀ e ∈ s.entries.list, P k e) : (c.withSegment k s).Holds P := by
  intro j e he
  by_cases hj : j = k
  · subst hj
    rw [segment_withSegment] at he
    exact hs e he
  · rw [segment_withSegment_ne c s hj] at he
    exact h j e he

/-! ## One record -/

theorem holds_get (h : c.Holds P) (e : Entity) (now : Instant) : (c.get e now).2.Holds P :=
  h.withSegment fun a ha => h e.kind a (Segment.mem_get ha)

theorem holds_insert (h : c.Holds P) {e : Entity} {r : e.Record} {now : Instant}
    (hr : e.key ≠ "" → ∀ x, P e.kind ⟨e.key, r, x⟩) : (c.insert e r now).Holds P := by
  refine h.withSegment ?_
  intro a ha
  rcases Segment.mem_insertUntil ha with ⟨hk, rfl⟩ | ha
  · exact hr hk _
  · exact h e.kind a ha

theorem holds_insertUnlessLive (h : c.Holds P) {k : Kind} {key : String} {r : k.Record} {now : Instant}
    (hr : key ≠ "" → ∀ x, P k ⟨key, r, x⟩) : (c.insertUnlessLive k key r now).2.Holds P := by
  refine h.withSegment ?_
  intro a ha
  rcases Segment.mem_insertUnlessLive ha with ⟨hk, rfl⟩ | ha
  · exact hr hk _
  · exact h k a ha

/-- An erasure takes out the entry of one entity. -/
theorem mem_erase {e : Entity} {k : Kind} {a : Entry k.Record} :
    a ∈ ((c.erase e).segment k).entries.list ↔
      a ∈ (c.segment k).entries.list ∧ ¬(k = e.kind ∧ a.key = e.key) := by
  by_cases hk : k = e.kind
  · subst hk
    show a ∈ ((c.withSegment e.kind _).segment e.kind).entries.list ↔ _
    rw [segment_withSegment, Segment.mem_erase]
    simp only [true_and, ne_eq]
  · show a ∈ ((c.withSegment e.kind _).segment k).entries.list ↔ _
    rw [segment_withSegment_ne c _ hk]
    simp only [hk, false_and, not_false_eq_true, and_true]

theorem holds_erase (h : c.Holds P) (e : Entity) : (c.erase e).Holds P :=
  fun k a ha => h k a (mem_erase.1 ha).1

theorem isPersistent_withSegment (c : Cache) (k : Kind) (s : Segment k.Record) :
    (c.withSegment k s).isPersistent = c.isPersistent := by
  cases k <;> rfl

/-- Of two segments in the same place the last one counts. -/
theorem withSegment_withSegment (c : Cache) (k : Kind) (s s' : Segment k.Record) :
    (c.withSegment k s).withSegment k s' = c.withSegment k s' := by
  cases k <;> rfl

/-! ## Settings and whole segments -/

theorem holds_withTtl (h : c.Holds P) (k : Kind) (ttl : Option Duration) : (c.withTtl k ttl).Holds P :=
  h.withSegment (h k)

theorem holds_withLimit (h : c.Holds P) (k : Kind) (limit : Nat) : (c.withLimit k limit).Holds P :=
  h.withSegment fun a ha => h k a ((Segment.sublist_withLimit _ limit).subset ha)

theorem segment_clear (c : Cache) (k : Kind) : c.clear.segment k = (c.segment k).clear := by
  cases k <;> rfl

theorem holds_clear (P : (k : Kind) → Entry k.Record → Prop) (c : Cache) : c.clear.Holds P := by
  intro k a ha
  rw [segment_clear] at ha
  cases ha

theorem segment_sweep (c : Cache) (now : Instant) (k : Kind) :
    (c.sweep now).2.segment k = ((c.segment k).sweep now).2 := by
  cases k <;> rfl

theorem holds_sweep (h : c.Holds P) (now : Instant) : (c.sweep now).2.Holds P := by
  intro k a ha
  rw [segment_sweep] at ha
  exact h k a (Segment.mem_sweep.1 ha).1

/-! ## Reloading -/

/-- An entry is what a row decodes to. -/
def Restores (k : Kind) (row : SavedEntry) (a : Entry k.Record) : Prop :=
  ∃ value, JsonRecord.decode? row.payload = some value ∧ a = ⟨row.key, value, row.expiresAt⟩

theorem Restores.key_eq {k : Kind} {row : SavedEntry} {a : Entry k.Record} (h : Restores k row a) :
    a.key = row.key := by
  obtain ⟨value, -, rfl⟩ := h
  rfl

/-- A row that decodes restores one entry. -/
theorem restores_iff {k : Kind} {row : SavedEntry} {value : k.Record}
    (hv : JsonRecord.decode? row.payload = some value) {a : Entry k.Record} :
    Restores k row a ↔ a = ⟨row.key, value, row.expiresAt⟩ := by
  constructor
  · rintro ⟨value', hv', rfl⟩
    rw [hv] at hv'
    cases hv'
    rfl
  · rintro rfl
    exact ⟨value, hv, rfl⟩

/-- A row brings back the entry that it decodes to, under a key that is named and absent. -/
theorem mem_restoreRow_iff {k : Kind} {acc : Nat × Segment k.Record} {row : SavedEntry} {a : Entry k.Record} :
    a ∈ (Segment.restoreRow acc row).2.entries.list ↔
      a ∈ acc.2.entries.list ∨ a.key ≠ "" ∧ a.key ∉ acc.2.keys ∧ Restores k row a := by
  unfold Segment.restoreRow
  split
  · rename_i hnone
    have hno : ¬Restores k row a := by
      rintro ⟨value, hv, -⟩
      rw [hnone] at hv
      cases hv
    simp only [hno, and_false, or_false]
  · rename_i value hv
    rw [restores_iff hv]
    exact Segment.mem_restore_iff

theorem mem_restoreRows {k : Kind} {s : Segment k.Record} {rows : List SavedEntry} {a : Entry k.Record}
    (h : a ∈ (s.restoreRows rows).2.entries.list) :
    (∃ row ∈ rows, Restores k row a) ∨ a ∈ s.entries.list := by
  unfold Segment.restoreRows at h
  generalize (0 : Nat) = n at h
  induction rows generalizing n s with
  | nil => exact .inr h
  | cons row rows ih =>
    rw [List.foldl_cons] at h
    rcases ih _ h with ⟨row', hrow', ha⟩ | h
    · exact .inl ⟨row', List.mem_cons_of_mem _ hrow', ha⟩
    · rcases mem_restoreRow_iff.1 h with h | ⟨-, -, ha⟩
      · exact .inr h
      · exact .inl ⟨row, List.mem_cons_self, ha⟩

variable {τ : Type} [Store τ]

/-- What is asked of the rows of a store, in every state that the reading of it goes through. -/
structure RowsHold (P : (k : Kind) → Entry k.Record → Prop) (I : τ → Prop) : Prop where
  keep : ∀ st k, I st → I (Store.savedEntries (Kind.tag k) st).2
  rows : ∀ st k rows, I st → (Store.savedEntries (Kind.tag k) st).1 = .ok rows →
    ∀ row ∈ rows, ∀ a, Restores k row a → P k a

theorem holds_reloadKind {I : τ → Prop} (hI : RowsHold P I) {acc : Reload × Cache × τ}
    (h : acc.2.1.Holds P) (hst : I acc.2.2) (k : Kind) :
    (reloadKind acc k).2.1.Holds P ∧ I (reloadKind acc k).2.2 := by
  obtain ⟨r, c, st⟩ := acc
  have hkeep := hI.keep st k hst
  have hrows := hI.rows st k
  unfold reloadKind
  dsimp only
  split
  · rename_i e st' hs
    rw [hs] at hkeep
    exact ⟨h, hkeep⟩
  · rename_i rows st' hs
    rw [hs] at hkeep hrows
    refine ⟨h.withSegment ?_, hkeep⟩
    intro a ha
    rcases mem_restoreRows ha with ⟨row, hrow, hra⟩ | ha
    · exact hrows rows hst rfl row hrow a hra
    · exact h k a ha

/-- A reload keeps a property that the rows of the store have. -/
theorem holds_reload {I : τ → Prop} (hI : RowsHold P I) (h : c.Holds P) {st : τ} (hst : I st) :
    (c.reload st).2.1.Holds P ∧ I (c.reload st).2.2 := by
  unfold reload
  split
  · exact List.foldlRecOn (motive := fun acc : Reload × Cache × τ => acc.2.1.Holds P ∧ I acc.2.2)
      Kind.all reloadKind ⟨h, hst⟩ fun acc hacc k _ => holds_reloadKind hI hacc.1 hacc.2 k
  · exact ⟨h, hst⟩

end Cache

end Roster
