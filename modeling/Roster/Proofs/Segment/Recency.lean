import Mathlib.Data.List.Induction
import Roster.Proofs.Segment.Calls

/-!
# Order of use over whole runs

What a segment holds after any run of calls, told from the steps of the run alone.

* `Segment.lastUse`, `lastWrite?`, `ttlInForce` — when a key was last used, what was last written under it, and
  the time to live that was set last.
* `Segment.Departs` — why a step took a key out; `LeastRecent`: an eviction takes the
  key whose last use is oldest.
* `Segment.Recency` — the keys in the order of their last use, the last write under each, the number of
  entries, and a reason for every key that is gone.
* `Recency.step`, `Segment.recency` — one step keeps this, so **every run from the empty segment ends in it**.
-/

set_option autoImplicit false

namespace Roster.Segment

variable {α : Type}

/-! ## What the steps of a run say -/

/-- The number of the step that last used a key, counted from one; zero when none did. -/
def lastUse (key : String) : List (Step α) → Nat
  | [] => 0
  | st :: past => if st.used? = some key then past.length + 1 else lastUse key past

/-- The time to live that was set last. -/
def ttlInForce (initial : Option Duration) : List (Step α) → Option Duration
  | [] => initial
  | st :: past =>
    match st.call with
    | .withTtl ttl => ttl
    | _ => ttlInForce initial past

/-- The expiry of an entry written at an instant under a time to live. -/
def expiryUnder (ttl : Option Duration) (now : Instant) : Option Instant :=
  if Roster.ttlMillis ttl = 0 then none else now.add? (.ofMillis (Roster.ttlMillis ttl))

/-- The entry of the last write under a key that had an effect. -/
def lastWrite? (initial : Option Duration) (key : String) : List (Step α) → Option (Entry α)
  | [] => none
  | st :: past =>
    if st.used? = some key then
      (st.call.entry? (expiryUnder (ttlInForce initial past) st.now)).or (lastWrite? initial key past)
    else lastWrite? initial key past

theorem lastUse_le (key : String) (past : List (Step α)) : lastUse key past ≤ past.length := by
  induction past with
  | nil => exact Nat.le_refl 0
  | cons st past ih =>
    rw [lastUse, List.length_cons]
    split <;> omega

theorem lastUse_cons_of_used {st : Step α} {key : String} (h : st.used? = some key)
    (past : List (Step α)) : lastUse key (st :: past) = past.length + 1 := if_pos h

theorem lastUse_cons_of_ne {st : Step α} {key : String} (h : st.used? ≠ some key)
    (past : List (Step α)) : lastUse key (st :: past) = lastUse key past := if_neg h

theorem lastWrite?_cons_of_ne {st : Step α} {key : String} (h : st.used? ≠ some key)
    (initial : Option Duration) (past : List (Step α)) :
    lastWrite? initial key (st :: past) = lastWrite? initial key past := if_neg h

theorem expiryFrom_eq {s : Segment α} {ttl : Option Duration} (h : s.ttlMillis = Roster.ttlMillis ttl)
    (now : Instant) : s.expiryFrom now = expiryUnder ttl now := by
  unfold expiryFrom Segment.ttl expiryUnder
  rw [h]
  split
  · rfl
  · exact Option.bind_some _ _

/-! ## Why a key is gone -/

/-- A key is present, and its last use is older than that of every other present key. -/
def LeastRecent (s : Segment α) (past : List (Step α)) (key : String) : Prop :=
  key ∈ s.keys ∧ ∀ key' ∈ s.keys, key' ≠ key → lastUse key past < lastUse key' past

/-- The segment that a step evicts from: a conditional write drops the key's own expired entry first. -/
def Step.evictsFrom (st : Step α) : Segment α :=
  match st.call with
  | .insertUnlessLive key _ => st.before.without key
  | _ => st.before

/-- Why a step took a key out. -/
inductive Departs (past : List (Step α)) (st : Step α) (key : String) : Prop where
  | erased (hcall : st.call = .erase key)
  | cleared (hcall : st.call = .clear)
  | expired (e : Entry α) (hfind : st.before.find? key = some e) (hcall : st.call = .get key)
      (hexpired : e.hasExpired st.now = true)
  | swept (e : Entry α) (time : Instant) (hfind : st.before.find? key = some e)
      (hcall : st.call = .sweep time) (hexpired : e.hasExpired time = true)
  /-- After some of the evictions of the step, the key was the next to leave. -/
  | evicted (n : Nat) (hn : n < st.after.evictions - st.before.evictions)
      (hleast : LeastRecent (evict^[n] st.evictsFrom) past key)

/-- The entries are in the order of their last use, the latest first. -/
def Ordered (past : List (Step α)) (l : List (Entry α)) : Prop :=
  l.Pairwise fun a b => lastUse b.key past < lastUse a.key past

/-- What room is made from leaves one by one, always the key whose last use is oldest. -/
theorem leastRecent_of_dropped {s : Segment α} {past : List (Step α)} (ho : Ordered past s.entries.list)
    {n : Nat} {key : String} (hin : key ∈ s.keys) (hout : key ∉ (s.keepRecent n).keys) :
    ∃ j < s.entries.size - n, LeastRecent (evict^[j] s) past key := by
  obtain ⟨e, he, rfl⟩ := List.mem_map.1 hin
  obtain ⟨i, hi, rfl⟩ := List.getElem_of_mem he
  have hsize : s.entries.size = s.entries.list.length := rfl
  have hn : n ≤ i := by
    by_contra hlt
    refine hout (List.mem_map.2 ⟨s.entries.list[i], ?_, rfl⟩)
    exact List.mem_take_iff_getElem.2 ⟨i, by omega, rfl⟩
  have hkeep : evict^[s.entries.size - 1 - i] s = s.keepRecent (i + 1) := by
    rw [iterate_evict]
    congr 1
    omega
  refine ⟨s.entries.size - 1 - i, by omega, ?_⟩
  rw [hkeep]
  constructor
  · refine List.mem_map.2 ⟨s.entries.list[i], ?_, rfl⟩
    exact List.mem_take_iff_getElem.2 ⟨i, by omega, rfl⟩
  · intro key' hkey' hne
    obtain ⟨e', he', rfl⟩ := List.mem_map.1 hkey'
    obtain ⟨i', hi', rfl⟩ := List.mem_take_iff_getElem.1 he'
    have hlt : i' < i := by
      rcases Nat.lt_or_eq_of_le (show i' ≤ i by omega) with hlt | rfl
      · exact hlt
      · exact absurd rfl hne
    exact List.pairwise_iff_getElem.1 ho i' i (by omega) hi hlt

section Departures

variable {s : Segment α} {past : List (Step α)} {now : Instant} {key : String}

/-- A key that leaves while room is made leaves by an eviction. -/
theorem leastRecent_of_withRoom (ho : Ordered past s.entries.list) (hin : key ∈ s.keys)
    (hout : key ∉ s.withRoom.keys) :
    ∃ n < s.withRoom.evictions - s.evictions, LeastRecent (evict^[n] s) past key := by
  unfold withRoom at hout ⊢
  split at hout
  · exact absurd hin hout
  · rename_i h
    rw [if_neg h]
    obtain ⟨j, hj, hleast⟩ := leastRecent_of_dropped ho hin hout
    refine ⟨j, ?_, hleast⟩
    show j < s.evictions + (s.entries.size - (s.limit - 1)) - s.evictions
    omega

theorem departs_insertUntil {st : Step α} {key' : String} {value : α} {expiresAt : Option Instant}
    (ho : Ordered past st.before.entries.list) (hfrom : st.evictsFrom = st.before)
    (hafter : st.after = st.before.insertUntil key' value expiresAt) (hin : key ∈ st.before.keys)
    (hout : key ∉ st.after.keys) : Departs past st key := by
  rcases st.before.insertUntil_cases key' value expiresAt with ⟨-, hi⟩ | ⟨hk, -, hi⟩ | ⟨hk, -, hi⟩
  · rw [hafter, hi] at hout
    exact absurd hin hout
  · rw [hafter, hi] at hout
    exact absurd (.inr hin) fun h => hout ((mem_keys_toFront hk).2 h)
  · have hroom : key ∉ st.before.withRoom.keys := by
      intro h
      rw [hafter, hi] at hout
      exact hout ((mem_keys_toFront (s := st.before.withRoom) hk).2 (.inr h))
    obtain ⟨n, hn, hleast⟩ := leastRecent_of_withRoom ho hin hroom
    refine .evicted n ?_ (hfrom ▸ hleast)
    rw [hafter, hi]
    exact hn

theorem departs_get {key' : String} (hin : key ∈ s.keys) (hout : key ∉ (s.get key' now).2.keys) :
    Departs past ⟨s, now, .get key'⟩ key := by
  rcases s.get_cases key' now with ⟨-, hg⟩ | ⟨e, he, hx, hg⟩ | ⟨e, he, -, hg⟩
  · rw [hg] at hout
    exact absurd hin hout
  · rw [hg] at hout
    have hk : key = key' := by
      by_contra hne
      exact hout (mem_keys_without.2 ⟨hin, hne⟩)
    subst hk
    exact .expired e he rfl hx
  · rw [hg] at hout
    exact absurd (.inr hin) fun h => hout ((mem_keys_toFront (Entries.named_of_find? he)).2 h)

theorem departs_insertUnlessLive (ho : Ordered past s.entries.list) {key' : String} {value : α}
    (hin : key ∈ s.keys) (hout : key ∉ (s.insertUnlessLive key' value now).2.keys) :
    Departs past ⟨s, now, .insertUnlessLive key' value⟩ key := by
  rcases s.insertUnlessLive_cases key' value now with ⟨-, hi⟩ | ⟨e, -, -, hi⟩ | ⟨hk, -, hi⟩
  · rw [hi] at hout
    exact absurd hin hout
  · rw [hi] at hout
    exact absurd hin hout
  · rw [hi] at hout
    have hfront : ¬(key = key' ∨ key ∈ (s.without key').withRoom.keys) := fun h =>
      hout ((mem_keys_toFront (s := (s.without key').withRoom) hk).2 h)
    obtain ⟨hne, hroom⟩ := not_or.1 hfront
    have ho' : Ordered past (s.without key').entries.list := ho.sublist (sublist_without s key')
    obtain ⟨n, hn, hleast⟩ := leastRecent_of_withRoom ho' (mem_keys_without.2 ⟨hin, hne⟩) hroom
    refine .evicted n ?_ hleast
    show n < (s.insertUnlessLive key' value now).2.evictions - s.evictions
    rw [hi]
    exact hn

theorem departs_withLimit (ho : Ordered past s.entries.list) {limit : Nat} (hin : key ∈ s.keys)
    (hout : key ∉ (s.withLimit limit).keys) : Departs past ⟨s, now, .withLimit limit⟩ key := by
  have hlimit : limit ≠ 0 := by
    rintro rfl
    exact hout hin
  have hafter : s.withLimit limit = (keepRecent { s with limit } limit).recount := if_neg hlimit
  obtain ⟨n, hn, hleast⟩ := leastRecent_of_dropped ho hin (n := limit) (by rwa [hafter] at hout)
  refine .evicted n ?_ hleast
  show n < (s.withLimit limit).evictions - s.evictions
  rw [hafter]
  show n < s.evictions + (s.entries.size - limit) - s.evictions
  omega

/-- A step takes a key out for one of the reasons. -/
theorem departs_of_gone {c : SegmentCall α} (ho : Ordered past s.entries.list) (hin : key ∈ s.keys)
    (hout : key ∉ (s.call now c).2.keys) : Departs past ⟨s, now, c⟩ key := by
  obtain ⟨e, he⟩ := exists_find?_of_mem_keys hin
  obtain ⟨hmem, hkey⟩ := Entries.find?_eq_some_iff.1 he
  cases c with
  | get key' => exact departs_get hin hout
  | contains key' => exact absurd hin hout
  | peek key' => exact absurd hin hout
  | insert key' value => exact departs_insertUntil ho rfl rfl hin hout
  | insertUntil key' value expiresAt => exact departs_insertUntil ho rfl rfl hin hout
  | insertUnlessLive key' value => exact departs_insertUnlessLive ho hin hout
  | restore key' value expiresAt => exact absurd (mem_keys_restore hin value expiresAt) hout
  | erase key' =>
    have hk : key = key' := by
      by_contra hne
      exact hout (mem_keys_without.2 ⟨hin, hne⟩)
    subst hk
    exact .erased rfl
  | clear => exact .cleared rfl
  | sweep time =>
    refine .swept e time he rfl ?_
    by_contra hx
    exact hout (List.mem_map.2 ⟨e, mem_sweep.2 ⟨hmem, Bool.eq_false_iff.2 hx⟩, hkey⟩)
  | withTtl ttl => exact absurd hin hout
  | withLimit limit => exact departs_withLimit ho hin hout

end Departures

/-! ## Order, writes, number and departures -/

/-- A key that was written and is not there left at a step after which it was not used again. -/
def Gone (past : List (Step α)) (key : String) : Prop :=
  ∃ recent st older, past = recent ++ st :: older ∧ (∀ st' ∈ recent, st'.used? ≠ some key) ∧
    key ∈ st.before.keys ∧ key ∉ st.after.keys ∧ Departs older st key

/-- What the steps of a run, the last one first, say of a segment. -/
structure Recency (initial : Option Duration) (past : List (Step α)) (s : Segment α) : Prop where
  /-- No key is there twice. -/
  nodup : s.keys.Nodup
  /-- The empty key is not there. -/
  named : "" ∉ s.keys
  /-- The keys stand in the order of their last use, the latest first. -/
  ordered : Ordered past s.entries.list
  /-- Every key was used. -/
  used : ∀ key ∈ s.keys, 0 < lastUse key past
  /-- Every entry is the last one that was written under its key. -/
  written : ∀ e ∈ s.entries.list, lastWrite? initial e.key past = some e
  /-- The number of entries is right. -/
  size : s.size = s.entries.list.length
  /-- The time to live is the one that was set last. -/
  ttl : s.ttlMillis = Roster.ttlMillis (ttlInForce initial past)
  /-- A key that was written and is not there left for a reason. -/
  gone : ∀ key, (lastWrite? initial key past).isSome = true → key ∉ s.keys → Gone past key

namespace Recency

variable {initial : Option Duration} {past : List (Step α)} {s : Segment α} {now : Instant}
  {c : SegmentCall α}

theorem new (name : String) (settings : SegmentSettings) :
    Recency settings.ttl [] (Segment.new (α := α) name settings) where
  nodup := List.nodup_nil
  named := List.not_mem_nil
  ordered := .nil
  used _ h := nomatch h
  written _ h := nomatch h
  size := rfl
  ttl := rfl
  gone _ h := nomatch h

/-- A step that uses a key uses no other one. -/
theorem used?_ne {st : Step α} {e : Entry α} (hused : st.used? = some e.key) {key : String}
    (hne : key ≠ e.key) : st.used? ≠ some key := by
  rw [hused]
  exact fun h => hne (Option.some.inj h).symm

/-- The order after a step: a used key comes to the front, the others keep their places. -/
theorem ordered_step (h : Ordered past s.entries.list) :
    Ordered (⟨s, now, c⟩ :: past) (s.call now c).2.entries.list := by
  rcases Step.cases ⟨s, now, c⟩ with ⟨hused, hsub⟩ | ⟨e, hused, ⟨rest, hafter, hsub, hne⟩, -⟩
  · have hnot : ∀ key, (⟨s, now, c⟩ : Step α).used? ≠ some key := by simp [hused]
    refine (h.sublist hsub).imp ?_
    intro a b hlt
    rw [lastUse_cons_of_ne (hnot _), lastUse_cons_of_ne (hnot _)]
    exact hlt
  · rw [show (s.call now c).2.entries.list = e :: rest from hafter]
    refine List.pairwise_cons.2 ⟨?_, ?_⟩
    · intro a ha
      have hle := lastUse_le a.key past
      rw [lastUse_cons_of_used hused, lastUse_cons_of_ne (used?_ne hused (hne a ha))]
      omega
    · refine (h.sublist hsub).imp_of_mem ?_
      intro a b ha hb hlt
      rw [lastUse_cons_of_ne (used?_ne hused (hne a ha)), lastUse_cons_of_ne (used?_ne hused (hne b hb))]
      exact hlt

theorem used_step (h : ∀ key ∈ s.keys, 0 < lastUse key past) :
    ∀ key ∈ (s.call now c).2.keys, 0 < lastUse key (⟨s, now, c⟩ :: past) := by
  intro key hkey
  by_cases hu : (⟨s, now, c⟩ : Step α).used? = some key
  · rw [lastUse_cons_of_used hu]
    omega
  · rw [lastUse_cons_of_ne hu]
    obtain ⟨a, ha, rfl⟩ := List.mem_map.1 hkey
    rcases Step.cases ⟨s, now, c⟩ with ⟨-, hsub⟩ | ⟨e, hused, ⟨rest, hafter, hsub, -⟩, -⟩
    · exact h a.key (List.mem_map_of_mem (hsub.subset ha))
    · rw [show (s.call now c).2.entries.list = e :: rest from hafter] at ha
      rcases List.mem_cons.1 ha with rfl | ha
      · exact absurd hused hu
      · exact h a.key (List.mem_map_of_mem (hsub.subset ha))

/-- The last writes after a step: the entry in front is the one that was written now, or was read and written
before. -/
theorem written_step (httl : s.ttlMillis = Roster.ttlMillis (ttlInForce initial past))
    (h : ∀ e ∈ s.entries.list, lastWrite? initial e.key past = some e) :
    ∀ e ∈ (s.call now c).2.entries.list, lastWrite? initial e.key (⟨s, now, c⟩ :: past) = some e := by
  intro a ha
  rcases Step.cases ⟨s, now, c⟩ with ⟨hused, hsub⟩ | ⟨e, hused, ⟨rest, hafter, hsub, hne⟩, hentry⟩
  · rw [lastWrite?_cons_of_ne (by simp [hused])]
    exact h a (hsub.subset ha)
  · rw [show (s.call now c).2.entries.list = e :: rest from hafter] at ha
    rcases List.mem_cons.1 ha with rfl | ha
    · rw [lastWrite?, if_pos hused, ← expiryFrom_eq httl]
      rcases hentry with hentry | ⟨hnone, hmem⟩
      · rw [hentry]
        rfl
      · rw [hnone, Option.none_or]
        exact h a hmem
    · rw [lastWrite?_cons_of_ne (used?_ne hused (hne a ha))]
      exact h a (hsub.subset ha)

theorem ttl_step (h : s.ttlMillis = Roster.ttlMillis (ttlInForce initial past)) :
    (s.call now c).2.ttlMillis = Roster.ttlMillis (ttlInForce initial (⟨s, now, c⟩ :: past)) := by
  rw [ttlMillis_call]
  cases c <;> first | exact h | rfl

/-- A used key is there after the step. -/
theorem mem_keys_of_used {key : String} (h : (⟨s, now, c⟩ : Step α).used? = some key) :
    key ∈ (s.call now c).2.keys := by
  rcases Step.cases ⟨s, now, c⟩ with ⟨hused, -⟩ | ⟨e, hused, ⟨rest, hafter, -⟩, -⟩
  · rw [hused] at h
    cases h
  · obtain rfl := Option.some.inj (hused.symm.trans h)
    refine List.mem_map_of_mem ?_
    rw [show (s.call now c).2.entries.list = e :: rest from hafter]
    exact List.mem_cons_self

theorem gone_step (ho : Ordered past s.entries.list)
    (h : ∀ key, (lastWrite? initial key past).isSome = true → key ∉ s.keys → Gone past key)
    {key : String} (hw : (lastWrite? initial key (⟨s, now, c⟩ :: past)).isSome = true)
    (hout : key ∉ (s.call now c).2.keys) : Gone (⟨s, now, c⟩ :: past) key := by
  have hunused : (⟨s, now, c⟩ : Step α).used? ≠ some key := fun hu => hout (mem_keys_of_used hu)
  by_cases hin : key ∈ s.keys
  · exact ⟨[], _, past, rfl, fun _ hst => (nomatch hst), hin, hout, departs_of_gone ho hin hout⟩
  · rw [lastWrite?_cons_of_ne hunused] at hw
    obtain ⟨recent, st, older, rfl, hrecent, hbefore, hafter, hdeparts⟩ := h key hw hin
    refine ⟨⟨s, now, c⟩ :: recent, st, older, rfl, ?_, hbefore, hafter, hdeparts⟩
    intro st' hst'
    rcases List.mem_cons.1 hst' with rfl | hst'
    · exact hunused
    · exact hrecent st' hst'

/-- One step keeps what the steps say. -/
theorem step (h : Recency initial past s) (now : Instant) (c : SegmentCall α) :
    Recency initial (⟨s, now, c⟩ :: past) (s.call now c).2 where
  nodup := (s.call now c).2.entries.nodup
  named hempty := by
    obtain ⟨e, he, hk⟩ := List.mem_map.1 hempty
    exact (s.call now c).2.entries.named e he hk
  ordered := ordered_step h.ordered
  used := used_step h.used
  written := written_step h.ttl h.written
  size := size_call h.size now c
  ttl := ttl_step h.ttl
  gone _ hw hout := gone_step h.ordered h.gone hw hout

end Recency

/-- **Every run from the empty segment ends as its steps say.** -/
theorem recency (name : String) (settings : SegmentSettings) (cs : List (Instant × SegmentCall α)) :
    Recency settings.ttl ((new name settings).trace cs) ((new name settings).calls cs) := by
  induction cs using List.reverseRecOn with
  | nil => exact Recency.new name settings
  | append_singleton cs c ih =>
    rw [trace_concat, calls_concat]
    exact ih.step c.1 c.2

end Roster.Segment
