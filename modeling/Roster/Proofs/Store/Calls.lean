import Roster.Proofs.Store.Facts

/-!
# Uses of a store

* `Fact`, `TableStore.lastTouch?` — the two facts about a member, and when each was last touched.
* `StoreCall`, `TableStore.call`, `TableStore.calls` — the uses of a store as data, and
  the store after a run of them.
* `StoreCall.About`, `StoreCall.Touches` — the uses that are about a fact, and those that record it,
  or touch it when it is there.
* `TableStore.touchedAt_call` — **no use but a pruning takes a fact away**: each leaves it
  untouched or touches it now.
* `TableStore.lastTouch?_of_touches`, `lastTouch?_prune` — what a touch and a pruning do.
-/

set_option autoImplicit false

namespace Roster

/-- The two facts about a member. -/
inductive Fact where
  | join
  | roles
deriving DecidableEq, Repr

/-- When a fact about a member was last touched, if it is there. -/
def TableStore.lastTouch? (s : TableStore) (id : MemberId) : Fact → Option Instant
  | .join => s.joins[id]?.map JoinFact.lastTouched
  | .roles => s.roles[id]?.map RolesFact.lastTouched

/-- A use of a store. -/
inductive StoreCall where
  | saveEntry (tag key payload : String) (expiresAt : Option Instant)
  | recordJoin (id : MemberId) (joinedAt : Timestamp)
  | recordFirstJoin (id : MemberId) (joinedAt : Timestamp)
  | touchJoin (id : MemberId)
  | recordRoles (id : MemberId) (roleIds : List String) (observedAt : Instant)
  | touchRoles (id : MemberId)
  | prune
  /-- Switch writes off or on. -/
  | refuse (readOnly : Bool)

/-- A use is about a fact about a member. -/
def StoreCall.About (id : MemberId) (fact : Fact) : StoreCall → Prop
  | .recordJoin id' _ => id = id' ∧ fact = .join
  | .recordFirstJoin id' _ => id = id' ∧ fact = .join
  | .touchJoin id' => id = id' ∧ fact = .join
  | .recordRoles id' _ _ => id = id' ∧ fact = .roles
  | .touchRoles id' => id = id' ∧ fact = .roles
  | _ => False

/-- A use records a fact about a member, or touches one that is there. -/
def StoreCall.Touches (s : TableStore) (id : MemberId) (fact : Fact) (c : StoreCall) : Prop :=
  c.About id fact ∧ match c with
    | .touchJoin _ => (s.lastTouch? id fact).isSome = true
    | .touchRoles _ => (s.lastTouch? id fact).isSome = true
    | _ => True

namespace TableStore

/-- The store after a use at an instant. -/
def call (s : TableStore) (now : Instant) : StoreCall → TableStore
  | .saveEntry tag key payload expiresAt => (Store.saveEntry tag key payload expiresAt s).2
  | .recordJoin id joinedAt => (Store.recordJoin now id joinedAt s).2
  | .recordFirstJoin id joinedAt => (Store.recordFirstJoin now id joinedAt s).2
  | .touchJoin id => (Store.touchJoin now id s).2
  | .recordRoles id roleIds observedAt => (Store.recordRoles now id roleIds observedAt s).2
  | .touchRoles id => (Store.touchRoles now id s).2
  | .prune => (Store.prune now s).2
  | .refuse readOnly => { s with readOnly }

/-- The store after uses at their instants. -/
def calls (s : TableStore) (cs : List (Instant × StoreCall)) : TableStore :=
  cs.foldl (fun s c => s.call c.1 c.2) s

variable {s : TableStore} {id : MemberId} {fact : Fact} {c : StoreCall}

/-! ## One row -/

theorem lastTouch?_insertJoin (s : TableStore) (id' : MemberId) (row : JoinFact) :
    { s with joins := s.joins.insert id' row }.lastTouch? id fact =
      if id = id' ∧ fact = .join then some row.lastTouched else s.lastTouch? id fact := by
  cases fact with
  | join =>
    simp only [lastTouch?, getElem?_insert, and_true]
    split <;> rfl
  | roles => simp [lastTouch?]

theorem lastTouch?_insertRoles (s : TableStore) (id' : MemberId) (row : RolesFact) :
    { s with roles := s.roles.insert id' row }.lastTouch? id fact =
      if id = id' ∧ fact = .roles then some row.lastTouched else s.lastTouch? id fact := by
  cases fact with
  | join => simp [lastTouch?]
  | roles =>
    simp only [lastTouch?, getElem?_insert, and_true]
    split <;> rfl

theorem lastTouch?_stampJoin (s : TableStore) (id' : MemberId) (now : Instant) :
    (s.stampJoin id' now).lastTouch? id fact =
      if id = id' ∧ fact = .join then (s.lastTouch? id fact).map fun _ => now else s.lastTouch? id fact := by
  cases fact with
  | join =>
    simp only [lastTouch?, stampJoin, getElem?_modify, and_true]
    split
    · rename_i h
      subst h
      cases s.joins[id]? <;> rfl
    · rfl
  | roles => simp [lastTouch?, stampJoin]

theorem lastTouch?_stampRoles (s : TableStore) (id' : MemberId) (now : Instant) :
    (s.stampRoles id' now).lastTouch? id fact =
      if id = id' ∧ fact = .roles then (s.lastTouch? id fact).map fun _ => now else s.lastTouch? id fact := by
  cases fact with
  | join => simp [lastTouch?, stampRoles]
  | roles =>
    simp only [lastTouch?, stampRoles, getElem?_modify, and_true]
    split
    · rename_i h
      subst h
      cases s.roles[id]? <;> rfl
    · rfl

/-! ## One use -/

/-- What is written if writes are accepted is written, or nothing is. -/
theorem write_cases {α : Type} (s : TableStore) (change : TableStore → α × TableStore) :
    (s.write change).2 = s ∨ (s.write change).2 = (change s).2 := by
  unfold write
  split
  · exact .inl rfl
  · exact .inr rfl

/-- A fact was not touched, or, if `p` is so, at this very instant. -/
def TouchedAt (p : Prop) (id : MemberId) (fact : Fact) (now : Instant) (s s' : TableStore) : Prop :=
  s'.lastTouch? id fact = s.lastTouch? id fact ∨ p ∧ s'.lastTouch? id fact = some now

variable {now : Instant} {p : Prop}

theorem touchedAt_write {α : Type} {change : TableStore → α × TableStore}
    (h : TouchedAt p id fact now s (change s).2) : TouchedAt p id fact now s (s.write change).2 := by
  rcases s.write_cases change with hw | hw
  · rw [hw]
    exact .inl rfl
  · rw [hw]
    exact h

theorem touchedAt_stamp {s' : TableStore} [Decidable p]
    (h : s'.lastTouch? id fact = if p then (s.lastTouch? id fact).map fun _ => now else s.lastTouch? id fact) :
    TouchedAt p id fact now s s' := by
  unfold TouchedAt
  rw [h]
  split
  · rename_i hp
    cases s.lastTouch? id fact with
    | none => exact .inl rfl
    | some _ => exact .inr ⟨hp, rfl⟩
  · exact .inl rfl

theorem touchedAt_insert {s' : TableStore} [Decidable p]
    (h : s'.lastTouch? id fact = if p then some now else s.lastTouch? id fact) :
      TouchedAt p id fact now s s' := by
  unfold TouchedAt
  rw [h]
  split
  · rename_i hp
    exact .inr ⟨hp, rfl⟩
  · exact .inl rfl

/-- **A use that is no pruning** leaves a fact untouched, or is about it and touches it
now: it never takes one away. -/
theorem touchedAt_call (s : TableStore) (now : Instant) (hc : c ≠ .prune) :
    TouchedAt (c.About id fact) id fact now s (s.call now c) := by
  cases c with
  | saveEntry tag key payload expiresAt =>
    apply touchedAt_write
    cases fact <;> exact .inl rfl
  | recordJoin id' joinedAt =>
    apply touchedAt_write (p := id = id' ∧ fact = .join)
    exact touchedAt_insert (lastTouch?_insertJoin s id' ⟨joinedAt, now⟩)
  | recordFirstJoin id' joinedAt =>
    apply touchedAt_write (p := id = id' ∧ fact = .join)
    cases s.joins[id']? with
    | some _ => exact touchedAt_stamp (lastTouch?_stampJoin s id' now)
    | none => exact touchedAt_insert (lastTouch?_insertJoin s id' ⟨joinedAt, now⟩)
  | touchJoin id' =>
    apply touchedAt_write (p := id = id' ∧ fact = .join)
    exact touchedAt_stamp (lastTouch?_stampJoin s id' now)
  | recordRoles id' roleIds observedAt =>
    apply touchedAt_write (p := id = id' ∧ fact = .roles)
    exact touchedAt_insert (lastTouch?_insertRoles s id' ⟨roleIds, observedAt, now⟩)
  | touchRoles id' =>
    apply touchedAt_write (p := id = id' ∧ fact = .roles)
    exact touchedAt_stamp (lastTouch?_stampRoles s id' now)
  | prune => exact absurd rfl hc
  | refuse readOnly => cases fact <;> exact .inl rfl

theorem lastTouch?_of_stamp {s' : TableStore} [Decidable p] (hp : p)
    (hthere : (s.lastTouch? id fact).isSome = true)
    (h : s'.lastTouch? id fact = if p then (s.lastTouch? id fact).map fun _ => now else s.lastTouch? id fact) :
    s'.lastTouch? id fact = some now := by
  obtain ⟨touched, htouched⟩ := Option.isSome_iff_exists.1 hthere
  rw [h, if_pos hp, htouched]
  rfl

/-- **A use that touches a fact** does so when writes are accepted. -/
theorem lastTouch?_of_touches (hwrite : s.readOnly = false) (now : Instant) (h : c.Touches s id fact) :
    (s.call now c).lastTouch? id fact = some now := by
  cases c with
  | recordJoin id' joinedAt =>
    obtain ⟨⟨rfl, rfl⟩, -⟩ := h
    have hcall : s.call now (.recordJoin id joinedAt) = _ := congrArg Prod.snd (if_neg (by simp [hwrite]))
    rw [hcall]
    exact (lastTouch?_insertJoin s id ⟨joinedAt, now⟩).trans (if_pos ⟨rfl, rfl⟩)
  | recordFirstJoin id' joinedAt =>
    obtain ⟨⟨rfl, rfl⟩, -⟩ := h
    cases hrow : s.joins[id]? with
    | some row =>
      have hcall : s.call now (.recordFirstJoin id joinedAt) = _ :=
        congrArg Prod.snd (recordFirstJoin_of_some hwrite hrow joinedAt)
      rw [hcall]
      refine lastTouch?_of_stamp ⟨rfl, rfl⟩ ?_ (lastTouch?_stampJoin s id now)
      simp [lastTouch?, hrow]
    | none =>
      have hcall : s.call now (.recordFirstJoin id joinedAt) = _ :=
        congrArg Prod.snd (recordFirstJoin_of_none hwrite hrow joinedAt)
      rw [hcall]
      exact (lastTouch?_insertJoin s id ⟨joinedAt, now⟩).trans (if_pos ⟨rfl, rfl⟩)
  | touchJoin id' =>
    obtain ⟨⟨rfl, rfl⟩, hthere⟩ := h
    have hcall : s.call now (.touchJoin id) = _ := congrArg Prod.snd (touchJoin_writable hwrite)
    rw [hcall]
    exact lastTouch?_of_stamp ⟨rfl, rfl⟩ hthere (lastTouch?_stampJoin s id now)
  | recordRoles id' roleIds observedAt =>
    obtain ⟨⟨rfl, rfl⟩, -⟩ := h
    have hcall : s.call now (.recordRoles id roleIds observedAt) = _ :=
      congrArg Prod.snd (recordRoles_writable hwrite roleIds observedAt)
    rw [hcall]
    exact (lastTouch?_insertRoles s id ⟨roleIds, observedAt, now⟩).trans (if_pos ⟨rfl, rfl⟩)
  | touchRoles id' =>
    obtain ⟨⟨rfl, rfl⟩, hthere⟩ := h
    have hcall : s.call now (.touchRoles id) = _ := congrArg Prod.snd (touchRoles_writable hwrite)
    rw [hcall]
    exact lastTouch?_of_stamp ⟨rfl, rfl⟩ hthere (lastTouch?_stampRoles s id now)
  | _ => cases h.1

/-- A pruning takes away the facts that were last touched before its cutoff. -/
theorem lastTouch?_prune (s : TableStore) (now : Instant) :
    (s.call now .prune).lastTouch? id fact =
      (s.lastTouch? id fact).filter fun touched => decide (oldestKept now s.retention ≤ touched) := by
  have hfilter {β : Type} (touchedAt : β → Instant) (row? : Option β) :
      (row?.filter fun r => decide (oldestKept now s.retention ≤ touchedAt r)).map touchedAt =
        (row?.map touchedAt).filter fun touched => decide (oldestKept now s.retention ≤ touched) := by
    cases row? with
    | none => rfl
    | some row =>
      rw [Option.map_some, Option.filter_some, Option.filter_some]
      split <;> rfl
  cases fact with
  | join =>
    have hrow : (s.call now .prune).joins[id]? =
        s.joins[id]?.filter fun r => decide (oldestKept now s.retention ≤ r.lastTouched) :=
      Std.TreeMap.getElem?_filter'
    show ((s.call now .prune).joins[id]?).map JoinFact.lastTouched = _
    rw [hrow]
    exact hfilter JoinFact.lastTouched s.joins[id]?
  | roles =>
    have hrow : (s.call now .prune).roles[id]? =
        s.roles[id]?.filter fun r => decide (oldestKept now s.retention ≤ r.lastTouched) :=
      Std.TreeMap.getElem?_filter'
    show ((s.call now .prune).roles[id]?).map RolesFact.lastTouched = _
    rw [hrow]
    exact hfilter RolesFact.lastTouched s.roles[id]?

/-- No use changes the retention. -/
theorem retention_call (s : TableStore) (now : Instant) (c : StoreCall) :
    (s.call now c).retention = s.retention := by
  have hwrite {α : Type} {change : TableStore → α × TableStore} (h : (change s).2.retention = s.retention) :
      (s.write change).2.retention = s.retention := by
    rcases s.write_cases change with hw | hw
    · rw [hw]
    · rw [hw]
      exact h
  cases c with
  | saveEntry => exact hwrite rfl
  | recordJoin => exact hwrite rfl
  | recordFirstJoin id joinedAt =>
    apply hwrite
    cases s.joins[id]? <;> rfl
  | touchJoin => exact hwrite rfl
  | recordRoles => exact hwrite rfl
  | touchRoles => exact hwrite rfl
  | prune => rfl
  | refuse => rfl

end TableStore

end Roster
