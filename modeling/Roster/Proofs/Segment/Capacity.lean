import Mathlib.Data.List.Induction
import Roster.Proofs.Segment.Recency

/-!
# Capacity

How far a segment can be above its limit, told from the steps of a run.

* `Step.inserts`, `overwrites`, `restores`, `bounds` — the steps that bring in a new key, write over a present
  one, put a saved entry back, and those after which a segment is within its limit.
* `Segment.restoredSince` — how many entries were put back since the last of the latter.
* `Step.MakesRoom`, `Step.makesRoom` — what an insertion does to the others: it evicts as many as it has to,
  from the back.  `Step.overwrites_keeps`: a write of a present key evicts none.
* `Step.size_step` — what any other step does to the number of entries; `Bounded.step`: a step keeps the bound.
* `Segment.Capacity`, `Segment.capacity_calls` — **in every run from the empty segment** the limit
  is exceeded by no more than what was put back, and every insertion evicts exactly what has to
  go, least recently used first.
-/

set_option autoImplicit false

namespace Roster.Segment

variable {α : Type}

namespace Step

/-- A write of an absent key, or a conditional write that took place. -/
def inserts (st : Step α) : Bool :=
  match st.call, st.reply with
  | .insert key _, _ => decide (key ≠ "") && (st.before.find? key).isNone
  | .insertUntil key _ _, _ => decide (key ≠ "") && (st.before.find? key).isNone
  | .insertUnlessLive _ _, .told written => written
  | _, _ => false

/-- A write of a present key. -/
def overwrites (st : Step α) : Bool :=
  match st.call with
  | .insert key _ => (st.before.find? key).isSome
  | .insertUntil key _ _ => (st.before.find? key).isSome
  | _ => false

/-- A saved entry was put back. -/
def restores (st : Step α) : Bool :=
  match st.call, st.reply with
  | .restore _ _ _, .told restored => restored
  | _, _ => false

/-- The steps that leave a segment within its limit, whatever was put back before. -/
def bounds (st : Step α) : Bool :=
  st.inserts || match st.call with
    | .clear => true
    | .withLimit limit => limit ≠ 0
    | _ => false

end Step

/-- How many entries were put back since the segment was new or a step brought it within its limit. -/
def restoredSince : List (Step α) → Nat
  | [] => 0
  | st :: past => if st.bounds then 0 else restoredSince past + if st.restores then 1 else 0

/-! ## Insertions -/

/-- What an insertion does to the other entries of the segment that it evicts from: it keeps some of them in
front of it and takes as many as it has to, all of them used longer ago. -/
structure Step.MakesRoom (past : List (Step α)) (st : Step α) (kept gone : List (Entry α)) : Prop where
  split : st.evictsFrom.entries.list = kept ++ gone
  count : gone.length = st.evictsFrom.entries.size + 1 - st.before.limit
  after : ∃ e, st.call.entry? (st.before.expiryFrom st.now) = some e ∧ st.after.entries.list = e :: kept
  counted : st.after.evictions = st.before.evictions + gone.length
  oldest : ∀ a ∈ gone, ∀ b ∈ kept, lastUse a.key past < lastUse b.key past

/-- Room for one more entry is made from the back of the list. -/
theorem withRoom_split {s : Segment α} (h : 0 < s.limit) :
    ∃ gone, s.entries.list = s.withRoom.entries.list ++ gone ∧
      gone.length = s.entries.size + 1 - s.limit ∧ s.withRoom.evictions = s.evictions + gone.length := by
  have hlength : (s.entries.list.drop (s.limit - 1)).length = s.entries.size + 1 - s.limit := by
    rw [List.length_drop]
    show s.entries.size - (s.limit - 1) = _
    omega
  refine ⟨s.entries.list.drop (s.limit - 1), ?_, hlength, ?_⟩
  · rw [list_withRoom, if_neg (Nat.ne_of_gt h), List.take_append_drop]
  · rw [hlength]
    unfold withRoom
    split
    · omega
    · show s.evictions + (s.entries.size - (s.limit - 1)) = _
      omega

/-- A new entry comes to the front of what room was made from. -/
theorem list_withRoom_toFront {s : Segment α} {e : Entry α} (hk : e.key ≠ "") (h : s.find? e.key = none) :
    (s.withRoom.toFront e hk).entries.list = e :: s.withRoom.entries.list := by
  show (s.withRoom.entries.toFront e hk).list = _
  rw [Entries.list_toFront, List.filter_eq_self.2]
  intro a ha
  have hne : a.key ≠ e.key := Entries.key_ne_of_find?_none h a ((sublist_withRoom s).subset ha)
  simp [hne]

theorem Step.makesRoom_of_toFront {past : List (Step α)} {st : Step α} {e : Entry α} (hk : e.key ≠ "")
    (habsent : st.evictsFrom.find? e.key = none) (ho : Ordered past st.evictsFrom.entries.list)
    (hlimit : 0 < st.before.limit) (hsame : st.evictsFrom.limit = st.before.limit)
    (hevictions : st.evictsFrom.evictions = st.before.evictions)
    (hentry : st.call.entry? (st.before.expiryFrom st.now) = some e)
    (hafter : st.after = (st.evictsFrom.withRoom.toFront e hk).recount) :
    ∃ kept gone, st.MakesRoom past kept gone := by
  obtain ⟨gone, hsplit, hcount, hcounted⟩ := withRoom_split (s := st.evictsFrom) (by omega)
  refine ⟨st.evictsFrom.withRoom.entries.list, gone, hsplit, ?_, ⟨e, hentry, ?_⟩, ?_, ?_⟩
  · rw [hcount, hsame]
  · rw [hafter]
    exact list_withRoom_toFront hk habsent
  · rw [hafter, ← hevictions]
    exact hcounted
  · rw [hsplit] at ho
    intro a ha b hb
    exact (List.pairwise_append.1 ho).2.2 b hb a ha

theorem Step.makesRoom_of_insertUntil {past : List (Step α)} {st : Step α} {key : String} {value : α}
    {expiresAt : Option Instant} (ho : Ordered past st.before.entries.list) (hlimit : 0 < st.before.limit)
    (hfrom : st.evictsFrom = st.before) (hafter : st.after = st.before.insertUntil key value expiresAt)
    (hentry : st.call.entry? (st.before.expiryFrom st.now) = some ⟨key, value, expiresAt⟩)
    (hinserts : (decide (key ≠ "") && (st.before.find? key).isNone) = true) :
    ∃ kept gone, st.MakesRoom past kept gone := by
  obtain ⟨hk, habsent⟩ : key ≠ "" ∧ st.before.find? key = none := by simpa using hinserts
  refine makesRoom_of_toFront (e := ⟨key, value, expiresAt⟩) hk ?_ ?_ hlimit ?_ ?_ hentry ?_
  · rw [hfrom]
    exact habsent
  · rw [hfrom]
    exact ho
  · rw [hfrom]
  · rw [hfrom]
  · rw [hafter, hfrom]
    exact insertUntil_of_absent hk habsent value expiresAt

/-- **An insertion** makes room for its entry, and no more. -/
theorem Step.makesRoom {past : List (Step α)} {st : Step α} (ho : Ordered past st.before.entries.list)
    (hlimit : 0 < st.before.limit) (h : st.inserts = true) : ∃ kept gone, st.MakesRoom past kept gone := by
  obtain ⟨s, now, c⟩ := st
  cases c with
  | insert key value => exact makesRoom_of_insertUntil ho hlimit rfl rfl rfl h
  | insertUntil key value expiresAt => exact makesRoom_of_insertUntil ho hlimit rfl rfl rfl h
  | insertUnlessLive key value =>
    have hwritten : (s.insertUnlessLive key value now).1 = true := h
    rcases s.insertUnlessLive_cases key value now with ⟨-, hi⟩ | ⟨e, -, -, hi⟩ | ⟨hk, -, hi⟩
    · simp [hi] at hwritten
    · simp [hi] at hwritten
    · refine makesRoom_of_toFront (e := ⟨key, value, s.expiryFrom now⟩) hk ?_ ?_ hlimit rfl rfl rfl ?_
      · show (s.without key).find? key = none
        simp [find?_without]
      · exact ho.sublist (sublist_without s key)
      · exact congrArg Prod.snd hi
  | _ => cases h

theorem entries_size_toFront {s : Segment α} {e : Entry α} (hk : e.key ≠ "")
    (h : (s.find? e.key).isSome = true) :
    (s.toFront e hk).entries.size = s.entries.size := Entries.length_toFront (h := hk) h

/-- **A write of a present key** takes its place in front; the others stay, and none is evicted. -/
theorem Step.overwrites_keeps {st : Step α} (h : st.overwrites = true) :
    ∃ e, st.call.entry? (st.before.expiryFrom st.now) = some e ∧
      st.after.entries.list = e :: st.before.entries.list.filter (fun a => a.key ≠ e.key) ∧
      st.after.entries.size = st.before.entries.size ∧ st.after.evictions = st.before.evictions := by
  obtain ⟨s, now, c⟩ := st
  have hwrite : ∀ key (value : α) expiresAt, (s.find? key).isSome = true →
      (s.insertUntil key value expiresAt).entries.list =
        ⟨key, value, expiresAt⟩ :: s.entries.list.filter (fun a => a.key ≠ key) ∧
      (s.insertUntil key value expiresAt).entries.size = s.entries.size ∧
      (s.insertUntil key value expiresAt).evictions = s.evictions := by
    intro key value expiresAt hpresent
    obtain ⟨e, he⟩ := Option.isSome_iff_exists.1 hpresent
    have hk : key ≠ "" := Entries.key_of_find? he ▸ Entries.named_of_find? he
    rw [list_insertUntil_of_present hk hpresent, insertUntil_of_present hk hpresent]
    exact ⟨rfl, entries_size_toFront hk hpresent, rfl⟩
  cases c with
  | insert key value => exact ⟨_, rfl, hwrite key value _ h⟩
  | insertUntil key value expiresAt => exact ⟨_, rfl, hwrite key value expiresAt h⟩
  | _ => cases h

/-! ## The number of entries -/

theorem size_get_le (s : Segment α) (key : String) (now : Instant) :
    (s.get key now).2.entries.size ≤ s.entries.size := by
  rcases s.get_cases key now with ⟨-, hg⟩ | ⟨e, -, -, hg⟩ | ⟨e, he, -, hg⟩
  · rw [hg]
    exact Nat.le_refl _
  · rw [hg]
    exact (sublist_without s key).length_le
  · rw [hg]
    have hpresent : (s.find? e.key).isSome = true := by rw [Entries.key_of_find? he, he]; rfl
    exact Nat.le_of_eq (entries_size_toFront (Entries.named_of_find? he) hpresent)

theorem size_restore_le (s : Segment α) (key : String) (value : α) (expiresAt : Option Instant) :
    (s.restore key value expiresAt).2.entries.size ≤
      s.entries.size + if (s.restore key value expiresAt).1 then 1 else 0 := by
  rcases s.restore_cases key value expiresAt with ⟨-, hr⟩ | ⟨hk, -, hr⟩
  · simp [hr]
  · rw [hr]
    show (s.entries.toFront ⟨key, value, expiresAt⟩ hk).list.length ≤ s.entries.list.length + 1
    rw [Entries.list_toFront, List.length_cons]
    exact Nat.succ_le_succ List.filter_sublist.length_le

/-- A write that is no insertion brings in no further entry. -/
theorem size_insertUntil_le {s : Segment α} {key : String} (value : α) (expiresAt : Option Instant)
    (h : (decide (key ≠ "") && (s.find? key).isNone) = false) :
    (s.insertUntil key value expiresAt).entries.size ≤ s.entries.size := by
  rcases s.insertUntil_cases key value expiresAt with ⟨-, hi⟩ | ⟨hk, hpresent, hi⟩ | ⟨hk, habsent, -⟩
  · exact Nat.le_of_eq (congrArg (fun r => r.entries.size) hi)
  · rw [hi]
    exact Nat.le_of_eq (entries_size_toFront (e := ⟨key, value, expiresAt⟩) hk hpresent)
  · simp [hk, habsent] at h

/-- **A step without an insertion** brings in at most the entry that it puts back. -/
theorem Step.size_step {st : Step α} (h : st.inserts = false) :
    st.after.entries.size ≤ st.before.entries.size + if st.restores then 1 else 0 := by
  obtain ⟨s, now, c⟩ := st
  cases c with
  | get key => exact size_get_le s key now
  | insert key value => exact size_insertUntil_le value _ h
  | insertUntil key value expiresAt => exact size_insertUntil_le value expiresAt h
  | insertUnlessLive key value =>
    have hidle : (s.insertUnlessLive key value now).1 = false := h
    show (s.insertUnlessLive key value now).2.entries.size ≤ s.entries.size
    rcases s.insertUnlessLive_cases key value now with ⟨-, hi⟩ | ⟨e, -, -, hi⟩ | ⟨hk, -, hi⟩
    · exact Nat.le_of_eq (congrArg (fun r => r.2.entries.size) hi)
    · exact Nat.le_of_eq (congrArg (fun r => r.2.entries.size) hi)
    · simp [hi] at hidle
  | restore key value expiresAt => exact size_restore_le s key value expiresAt
  | erase key => exact (sublist_without s key).length_le
  | clear => exact Nat.zero_le _
  | sweep time => exact List.filter_sublist.length_le
  | withLimit limit => exact (sublist_withLimit s limit).length_le
  | contains key => exact Nat.le_refl _
  | peek key => exact Nat.le_refl _
  | withTtl ttl => exact Nat.le_refl _

theorem Step.size_le_of_inserts {past : List (Step α)} {st : Step α} (ho : Ordered past st.before.entries.list)
    (hlimit : 0 < st.before.limit) (h : st.inserts = true) : st.after.entries.size ≤ st.before.limit := by
  obtain ⟨kept, gone, hroom⟩ := makesRoom ho hlimit h
  obtain ⟨e, -, hafter⟩ := hroom.after
  have hsize : st.after.entries.size = kept.length + 1 := congrArg List.length hafter
  have hsplit : st.evictsFrom.entries.size = kept.length + gone.length := by
    show st.evictsFrom.entries.list.length = _
    rw [hroom.split, List.length_append]
  have hcount := hroom.count
  omega

/-- Some steps leave a segment within its limit. -/
theorem Step.size_le_of_bounds {past : List (Step α)} {st : Step α} (ho : Ordered past st.before.entries.list)
    (h : st.bounds = true) (hlimit : 0 < st.after.limit) : st.after.entries.size ≤ st.after.limit := by
  obtain ⟨s, now, c⟩ := st
  have hafter : (⟨s, now, c⟩ : Step α).after.limit = _ := limit_call s now c
  rw [hafter] at hlimit ⊢
  cases c with
  | clear => exact Nat.zero_le _
  | withLimit limit => exact size_withLimit_le s hlimit
  | insert key value => exact size_le_of_inserts ho hlimit (by simpa [bounds] using h)
  | insertUntil key value expiresAt => exact size_le_of_inserts ho hlimit (by simpa [bounds] using h)
  | insertUnlessLive key value => exact size_le_of_inserts ho hlimit (by simpa [bounds] using h)
  | _ => cases h

/-- The others insert nothing, and set no limit. -/
theorem Step.of_not_bounds {st : Step α} (h : st.bounds = false) :
    st.inserts = false ∧ (0 < st.after.limit → st.after.limit = st.before.limit) := by
  obtain ⟨s, now, c⟩ := st
  obtain ⟨hinserts, hlimits⟩ := Bool.or_eq_false_iff.1 h
  refine ⟨hinserts, ?_⟩
  have hafter : (⟨s, now, c⟩ : Step α).after.limit = _ := limit_call s now c
  rw [hafter]
  cases c with
  | withLimit limit =>
    intro hpos
    simp [Nat.ne_of_gt hpos] at hlimits
  | _ => exact fun _ => rfl

/-- The limit is exceeded by no more than what was put back since the last step that enforced it. -/
def Bounded (past : List (Step α)) (s : Segment α) : Prop :=
  0 < s.limit → s.entries.size ≤ s.limit + restoredSince past

theorem Bounded.step {past : List (Step α)} {s : Segment α} (h : Bounded past s)
    (ho : Ordered past s.entries.list) (now : Instant) (c : SegmentCall α) :
    Bounded (⟨s, now, c⟩ :: past) (s.call now c).2 := by
  intro hlimit
  rw [restoredSince]
  split
  · rename_i hbounds
    exact Step.size_le_of_bounds ho hbounds hlimit
  · rename_i hbounds
    obtain ⟨hinserts, hsame⟩ := Step.of_not_bounds (Bool.eq_false_iff.2 hbounds)
    have hsize := Step.size_step hinserts
    have hsame : (s.call now c).2.limit = s.limit := hsame hlimit
    have hbefore : s.entries.size ≤ s.limit + restoredSince past := h (by omega)
    have hsize : (s.call now c).2.entries.size ≤ _ := hsize
    dsimp only at hsize
    omega

/-! ## Runs -/

theorem restoredSince_eq_zero {past : List (Step α)} (h : ∀ st ∈ past, st.restores = false) :
    restoredSince past = 0 := by
  induction past with
  | nil => rfl
  | cons st past ih =>
    obtain ⟨hst, hpast⟩ := List.forall_mem_cons.1 h
    rw [restoredSince, ih hpast, hst]
    simp

/-- What the steps of a run, the last one first, say of the capacity of a segment, and of the next step. -/
structure Capacity (past : List (Step α)) (s : Segment α) : Prop where
  /-- The limit is exceeded by no more than what was put back. -/
  bound : 0 < s.limit → s.size ≤ s.limit + restoredSince past
  /-- It is not exceeded at all where nothing was. -/
  bound_of_not_restores : (∀ st ∈ past, st.restores = false) → 0 < s.limit → s.size ≤ s.limit
  /-- An insertion evicts exactly what has to go, least recently used first. -/
  inserts : ∀ now c, 0 < s.limit → (⟨s, now, c⟩ : Step α).inserts = true →
    ∃ kept gone, Step.MakesRoom past ⟨s, now, c⟩ kept gone
  /-- A write of a present key evicts nothing. -/
  overwrites : ∀ now c, (⟨s, now, c⟩ : Step α).overwrites = true →
    ∃ e, c.entry? (s.expiryFrom now) = some e ∧
      (s.call now c).2.entries.list = e :: s.entries.list.filter (fun a => a.key ≠ e.key) ∧
      (s.call now c).2.size = s.size ∧ (s.call now c).2.evictions = s.evictions

/-- What carries the capacity through a run. -/
structure Held (past : List (Step α)) (s : Segment α) : Prop where
  size : s.size = s.entries.size
  ordered : Ordered past s.entries.list
  bounded : Bounded past s

theorem Held.capacity {past : List (Step α)} {s : Segment α} (h : Held past s) : Capacity past s where
  bound := by
    rw [h.size]
    exact h.bounded
  bound_of_not_restores hnone hlimit := by
    have hbound := h.bounded hlimit
    rw [restoredSince_eq_zero hnone] at hbound
    rw [h.size]
    exact hbound
  inserts now c hlimit hinserts := Step.makesRoom h.ordered hlimit hinserts
  overwrites now c hover := by
    obtain ⟨e, hentry, hlist, hsize, hevictions⟩ := Step.overwrites_keeps hover
    refine ⟨e, hentry, hlist, ?_, hevictions⟩
    rw [size_call h.size now c, h.size]
    exact hsize

/-- **The capacity of a segment**, after every run from the empty one. -/
theorem capacity_calls (name : String) (settings : SegmentSettings) (cs : List (Instant × SegmentCall α)) :
    Capacity ((new name settings).trace cs) ((new name settings).calls cs) := by
  have hheld : Held ((new name settings).trace cs) ((new name settings).calls cs) := by
    induction cs using List.reverseRecOn with
    | nil => exact ⟨rfl, .nil, fun _ => Nat.zero_le _⟩
    | append_singleton cs c ih =>
      rw [trace_concat, calls_concat]
      exact ⟨size_call ih.size c.1 c.2, Recency.ordered_step ih.ordered, ih.bounded.step ih.ordered c.1 c.2⟩
  exact hheld.capacity

-- Three entries are put back over a limit of two; the next insertion evicts two of them.
example :
    let s := ((new "s" ⟨2, none⟩).calls [(.epoch, .restore "a" 1 none), (.epoch, .restore "b" 2 none),
      (.epoch, .restore "c" 3 none)] : Segment Nat)
    s.size = 3 ∧ (s.insert "d" 4 .epoch).keys = ["d", "c"] ∧ (s.insert "d" 4 .epoch).evictions = 2 := by
  decide +kernel

end Roster.Segment
