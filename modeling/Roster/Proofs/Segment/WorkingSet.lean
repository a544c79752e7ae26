import Mathlib.Data.Finset.Card
import Roster.Proofs.Segment.Capacity

/-!
# Working sets

What a limit promises to the keys in use: an entry leaves for want of room only when as many other keys as the
limit allows were used since its own last use.

* `SegmentCall.keepsLimit`, `SegmentCall.removes` — the calls of such runs, and those that take an entry out
  whatever the limit is: an erasure, a clearing, and a read or a sweep from its expiry on.
* `Segment.usedKeys` — the keys that some steps used; `mem_usedKeys_of_lastUse`: a key whose last use is later
  than the other steps of a run is one of them.
* `Step.inserts_of_evicts` — only an insertion and a new limit evict.
* `Segment.full_of_evicted` — **an evicted entry leaves a full segment**, all of it used later than the entry.
* `Segment.working_set` — **along every run** an entry stays while fewer other keys
  are used than the limit allows.
-/

set_option autoImplicit false

namespace Roster

variable {α : Type}

namespace SegmentCall

/-- Calls that leave a limit as it is. -/
def keepsLimit (n : Nat) : SegmentCall α → Bool
  | .withLimit limit => limit = n
  | _ => true

/-- Calls at an instant that take an entry out whatever the limit is. -/
def removes (e : Entry α) (now : Instant) : SegmentCall α → Bool
  | .erase key => key = e.key
  | .clear => true
  | .get key => decide (key = e.key) && e.hasExpired now
  | .sweep time => e.hasExpired time
  | _ => false

end SegmentCall

namespace Segment

variable {s : Segment α} {past recent older : List (Step α)} {st : Step α} {now : Instant} {c : SegmentCall α}
  {cs : List (Instant × SegmentCall α)} {e : Entry α} {key : String}

/-! ## Keys in use -/

/-- The keys that some steps used. -/
def usedKeys (steps : List (Step α)) : Finset String := (steps.filterMap Step.used?).toFinset

theorem mem_usedKeys {steps : List (Step α)} : key ∈ usedKeys steps ↔ ∃ st ∈ steps, st.used? = some key := by
  simp [usedKeys]

theorem usedKeys_subset_cons (st : Step α) (steps : List (Step α)) :
    usedKeys steps ⊆ usedKeys (st :: steps) := by
  intro key hkey
  rw [mem_usedKeys] at hkey ⊢
  obtain ⟨st', hst', hused⟩ := hkey
  exact ⟨st', List.mem_cons_of_mem _ hst', hused⟩

/-- A key that was used later than the older steps is one that the recent steps used. -/
theorem mem_usedKeys_of_lastUse (h : older.length < lastUse key (recent ++ older)) : key ∈ usedKeys recent := by
  induction recent with
  | nil =>
    have hle := lastUse_le key older
    simp only [List.nil_append] at h
    omega
  | cons st recent ih =>
    by_cases hused : st.used? = some key
    · exact mem_usedKeys.2 ⟨st, List.mem_cons_self, hused⟩
    · rw [List.cons_append, lastUse_cons_of_ne hused] at h
      exact usedKeys_subset_cons st recent (ih h)

/-- The number of a step that used a key, when no later one did. -/
theorem lastUse_append_cons {st : Step α} (hused : st.used? = some key)
    (hlast : ∀ st' ∈ recent, st'.used? ≠ some key) :
    lastUse key (recent ++ st :: older) = older.length + 1 := by
  induction recent with
  | nil => exact lastUse_cons_of_used hused older
  | cons st' recent ih =>
    obtain ⟨hne, hrest⟩ := List.forall_mem_cons.1 hlast
    rw [List.cons_append, lastUse_cons_of_ne hne, ih hrest]

theorem lastUse_le_cons (key : String) (st : Step α) (past : List (Step α)) :
    lastUse key past ≤ lastUse key (st :: past) := by
  have hle := lastUse_le key past
  rw [lastUse]
  split <;> omega

/-! ## What an eviction leaves -/

theorem list_withLimit (s : Segment α) {limit : Nat} (h : limit ≠ 0) :
    (s.withLimit limit).entries.list = s.entries.list.take limit := by
  unfold withLimit
  simp only [h, if_false]
  rfl

theorem inserts_of_evictions_lt {key : String} {value : α} {expiresAt : Option Instant}
    (h : s.evictions < (s.insertUntil key value expiresAt).evictions) :
    (decide (key ≠ "") && (s.find? key).isNone) = true := by
  rcases s.insertUntil_cases key value expiresAt with ⟨-, hi⟩ | ⟨_, -, hi⟩ | ⟨hk, hfind, -⟩
  · simp [hi] at h
  · rw [hi] at h
    exact absurd h (Nat.lt_irrefl _)
  · simp [hk, hfind]

theorem mem_keys_of_iterate_evict {n : Nat} (h : key ∈ (evict^[n] s).keys) : key ∈ s.keys := by
  rw [iterate_evict] at h
  obtain ⟨e, he, rfl⟩ := List.mem_map.1 h
  exact List.mem_map_of_mem (List.mem_of_mem_take he)

/-- Only an insertion and a new limit evict. -/
theorem Step.inserts_of_evicts {st : Step α} (h : st.before.evictions < st.after.evictions) :
    st.inserts = true ∨ ∃ limit, st.call = .withLimit limit := by
  obtain ⟨s, now, c⟩ := st
  cases c with
  | get key =>
    have hsame : (s.get key now).2.evictions = s.evictions := by
      rcases s.get_cases key now with ⟨-, hg⟩ | ⟨_, -, -, hg⟩ | ⟨_, _, -, hg⟩ <;> rw [hg] <;> rfl
    exact absurd h (Nat.not_lt_of_le (Nat.le_of_eq hsame))
  | insert key value => exact .inl (inserts_of_evictions_lt h)
  | insertUntil key value expiresAt => exact .inl (inserts_of_evictions_lt h)
  | insertUnlessLive key value =>
    have h : s.evictions < (s.insertUnlessLive key value now).2.evictions := h
    left
    show (s.insertUnlessLive key value now).1 = true
    rcases s.insertUnlessLive_cases key value now with ⟨-, hi⟩ | ⟨_, -, -, hi⟩ | ⟨_, -, hi⟩
    · simp [hi] at h
    · simp [hi] at h
    · rw [hi]
  | restore key value expiresAt =>
    have hsame : (s.restore key value expiresAt).2.evictions = s.evictions := by
      rcases s.restore_cases key value expiresAt with ⟨-, hi⟩ | ⟨_, -, hi⟩
      · rw [hi]
      · rw [hi]
        rfl
    exact absurd h (Nat.not_lt_of_le (Nat.le_of_eq hsame))
  | withLimit limit => exact .inr ⟨limit, rfl⟩
  | _ => exact absurd h (Nat.lt_irrefl _)

/-- An insertion uses the key of its entry. -/
theorem Step.used?_of_inserts {st : Step α} (h : st.inserts = true) {x : Option Instant} {e : Entry α}
    (hentry : st.call.entry? x = some e) : st.used? = some e.key := by
  obtain ⟨s, now, c⟩ := st
  cases c with
  | insert key value =>
    cases hentry
    obtain ⟨hk, -⟩ : key ≠ "" ∧ s.find? key = none := by simpa [Step.inserts] using h
    exact if_neg hk
  | insertUntil key value expiresAt =>
    cases hentry
    obtain ⟨hk, -⟩ : key ≠ "" ∧ s.find? key = none := by simpa [Step.inserts] using h
    exact if_neg hk
  | insertUnlessLive key value =>
    cases hentry
    have hwritten : (s.insertUnlessLive key value now).1 = true := h
    rw [used?_insertUnlessLive, hwritten]
    rfl
  | _ => cases h

/-- What an insertion evicts leaves as many entries as the limit allows: those that
are kept, and the new one. -/
theorem full_of_inserts {st : Step α} (ho : Ordered past st.before.entries.list)
    (hlimit : 0 < st.before.limit) (h : st.inserts = true) (hin : key ∈ st.evictsFrom.keys)
    (hout : key ∉ st.after.keys) :
    st.before.limit ≤ st.after.entries.size ∧
      ∀ key' ∈ st.after.keys, lastUse key past < lastUse key' (st :: past) := by
  obtain ⟨kept, gone, hroom⟩ := Step.makesRoom ho hlimit h
  obtain ⟨new, hentry, hafter⟩ := hroom.after
  have hkeys : st.after.keys = new.key :: kept.map Entry.key := congrArg (List.map Entry.key) hafter
  have hgone : key ∈ gone.map Entry.key := by
    have hsplit : key ∈ (kept ++ gone).map Entry.key := hroom.split ▸ hin
    rw [hkeys] at hout
    simp only [List.map_append, List.mem_append, List.mem_cons, not_or] at hsplit hout
    exact hsplit.resolve_left hout.2
  obtain ⟨a, ha, rfl⟩ := List.mem_map.1 hgone
  constructor
  · have hsize : st.after.entries.size = kept.length + 1 := congrArg List.length hafter
    have hwhole : st.evictsFrom.entries.size = kept.length + gone.length :=
      (congrArg List.length hroom.split).trans List.length_append
    have hcount := hroom.count
    have hpos := List.length_pos_of_mem ha
    omega
  · intro key' hkey'
    rw [hkeys] at hkey'
    rcases List.mem_cons.1 hkey' with rfl | hkey'
    · have hle := lastUse_le a.key past
      rw [lastUse_cons_of_used (Step.used?_of_inserts h hentry)]
      omega
    · obtain ⟨b, hb, rfl⟩ := List.mem_map.1 hkey'
      exact Nat.lt_of_lt_of_le (hroom.oldest a ha b hb) (lastUse_le_cons b.key st past)

/-- What a new limit evicts leaves as many entries as the limit allows. -/
theorem full_of_withLimit (ho : Ordered past s.entries.list) {limit : Nat} (hlimit : limit ≠ 0)
    (hin : key ∈ s.keys) (hout : key ∉ (s.withLimit limit).keys) :
    limit ≤ (s.withLimit limit).entries.size ∧
      ∀ key' ∈ (s.withLimit limit).keys, lastUse key past < lastUse key' past := by
  have hlist := list_withLimit s hlimit
  have hkeys : (s.withLimit limit).keys = (s.entries.list.take limit).map Entry.key :=
    congrArg (List.map Entry.key) hlist
  have hgone : key ∈ (s.entries.list.drop limit).map Entry.key := by
    have hsplit : key ∈ (s.entries.list.take limit ++ s.entries.list.drop limit).map Entry.key := by
      rwa [List.take_append_drop]
    rw [hkeys] at hout
    simp only [List.map_append, List.mem_append] at hsplit
    exact hsplit.resolve_left hout
  obtain ⟨a, ha, rfl⟩ := List.mem_map.1 hgone
  constructor
  · have hpos := List.length_pos_of_mem ha
    have hsize : (s.withLimit limit).entries.size = (s.entries.list.take limit).length :=
      congrArg List.length hlist
    simp only [List.length_drop] at hpos
    simp only [List.length_take] at hsize
    omega
  · intro key' hkey'
    rw [hkeys] at hkey'
    obtain ⟨b, hb, rfl⟩ := List.mem_map.1 hkey'
    rw [← List.take_append_drop limit s.entries.list] at ho
    exact (List.pairwise_append.1 ho).2.2 b hb a ha

/-- **An evicted entry leaves a full segment**, all of it used later than the entry. -/
theorem full_of_evicted (ho : Ordered past s.entries.list) (hlimit : 0 < (s.call now c).2.limit) {e : Entry α}
    (he : e ∈ s.entries.list) (hout : e.key ∉ (s.call now c).2.keys) (hstays : c.removes e now = false) :
    (s.call now c).2.limit ≤ (s.call now c).2.entries.size ∧
      ∀ key ∈ (s.call now c).2.keys, lastUse e.key past < lastUse key (⟨s, now, c⟩ :: past) := by
  have hin : e.key ∈ s.keys := List.mem_map_of_mem he
  have hfind : s.find? e.key = some e := Entries.find?_eq_some_iff.2 ⟨he, rfl⟩
  rcases departs_of_gone ho hin hout with
    hcall | hcall | ⟨e', hfind', hcall, hx⟩ | ⟨e', time, hfind', hcall, hx⟩ | ⟨n, hn, hleast⟩
  · obtain rfl : c = .erase e.key := hcall
    simp [SegmentCall.removes] at hstays
  · obtain rfl : c = .clear := hcall
    simp [SegmentCall.removes] at hstays
  · obtain rfl : c = .get e.key := hcall
    obtain rfl := Option.some.inj (hfind.symm.trans hfind')
    simp [SegmentCall.removes, show e.hasExpired now = true from hx] at hstays
  · obtain rfl : c = .sweep time := hcall
    obtain rfl := Option.some.inj (hfind.symm.trans hfind')
    simp [SegmentCall.removes, hx] at hstays
  · have hevicts : (⟨s, now, c⟩ : Step α).before.evictions < (⟨s, now, c⟩ : Step α).after.evictions := by omega
    rcases Step.inserts_of_evicts hevicts with hinserts | ⟨limit, hcall⟩
    · have hsame : (s.call now c).2.limit = s.limit := by
        rw [limit_call]
        cases c <;> first | rfl | cases hinserts
      have hfrom : e.key ∈ (⟨s, now, c⟩ : Step α).evictsFrom.keys := mem_keys_of_iterate_evict hleast.1
      rw [hsame] at hlimit ⊢
      exact full_of_inserts ho hlimit hinserts hfrom hout
    · obtain rfl : c = .withLimit limit := hcall
      have hlimit' : (s.call now (.withLimit limit)).2.limit = limit := limit_call s now _
      rw [hlimit'] at hlimit ⊢
      obtain ⟨hfull, hlater⟩ := full_of_withLimit ho (Nat.ne_of_gt hlimit) hin hout
      refine ⟨hfull, ?_⟩
      intro key hkey
      exact Nat.lt_of_lt_of_le (hlater key hkey) (lastUse_le_cons key _ past)

/-! ## Runs -/

theorem limit_calls (hlimit : ∀ x ∈ cs, x.2.keepsLimit s.limit = true) : (s.calls cs).limit = s.limit := by
  induction cs using List.reverseRecOn with
  | nil => rfl
  | append_singleton cs x ih =>
    have hrest := ih fun y hy => hlimit y (List.mem_append_left _ hy)
    have hlast := hlimit x (List.mem_append_right _ List.mem_cons_self)
    rw [calls_concat, limit_call]
    cases hcall : x.2 with
    | withLimit limit =>
      rw [hcall] at hlast
      exact of_decide_eq_true hlast
    | _ => exact hrest

/-- A segment whose keys were all used in some steps has no more of them than these steps used. -/
theorem size_le_card_usedKeys {steps : List (Step α)}
    (h : ∀ key ∈ s.keys, older.length < lastUse key (steps ++ older)) :
    s.entries.size ≤ (usedKeys steps).card := by
  have hsub : s.keys.toFinset ⊆ usedKeys steps := by
    intro key hkey
    exact mem_usedKeys_of_lastUse (h key (List.mem_toFinset.1 hkey))
  have hcard := Finset.card_le_card hsub
  have hnodup : s.keys.Nodup := s.entries.nodup
  rw [List.toFinset_card_of_nodup hnodup] at hcard
  simpa [Segment.keys, Entries.keys, Entries.size] using hcard

/-- One more step leaves a key in use with its entry: the keys used since its last use are
too few to fill the segment. -/
theorem find?_call_of_few {initial : Option Duration} (h : Recency initial (recent ++ st :: older) s)
    (hused : st.used? = some key) (hlast : ∀ st' ∈ ⟨s, now, c⟩ :: recent, st'.used? ≠ some key)
    (hfew : (usedKeys (⟨s, now, c⟩ :: recent)).card < (s.call now c).2.limit) (hfind : s.find? key = some e)
    (hstays : c.removes e now = false) : (s.call now c).2.find? key = some e := by
  obtain ⟨hmem, rfl⟩ := Entries.find?_eq_some_iff.1 hfind
  obtain ⟨hunused, hlast⟩ := List.forall_mem_cons.1 hlast
  have hkey : e.key ∈ (s.call now c).2.keys := by
    by_contra hout
    obtain ⟨hfull, hlater⟩ := full_of_evicted h.ordered (by omega) hmem hout hstays
    rw [lastUse_append_cons hused hlast] at hlater
    have hlater : ∀ key ∈ (s.call now c).2.keys,
        (st :: older).length < lastUse key (⟨s, now, c⟩ :: recent ++ st :: older) := hlater
    have hsize := size_le_card_usedKeys hlater
    omega
  obtain ⟨a, ha⟩ := exists_find?_of_mem_keys hkey
  obtain ⟨hmem', hkey'⟩ := Entries.find?_eq_some_iff.1 ha
  -- Neither entry can be anything but the last write of the key, which this step leaves as it is.
  have hwritten := (h.step now c).written a hmem'
  rw [hkey', lastWrite?_cons_of_ne hunused, h.written e hmem] at hwritten
  rw [ha, hwritten]

/-- The induction adds the calls at the end of the run. -/
theorem find?_calls_of_few (name : String) {settings : SegmentSettings}
    (hlimit : ∀ x ∈ cs, x.2.keepsLimit settings.capacity = true)
    (htrace : (new name settings).trace cs = recent ++ st :: older) (hused : st.used? = some key)
    (hlast : ∀ st' ∈ recent, st'.used? ≠ some key) (hfew : (usedKeys recent).card < settings.capacity) :
    ∃ e, lastWrite? settings.ttl key ((new name settings).trace cs) = some e ∧
      ((∀ st' ∈ recent, st'.call.removes e st'.now = false) →
        ((new name settings).calls cs).find? key = some e) := by
  induction cs using List.reverseRecOn generalizing recent with
  | nil => simp [trace] at htrace
  | append_singleton cs x ih =>
    have hlimit' : ((new (α := α) name settings).calls (cs ++ [x])).limit = settings.capacity :=
      limit_calls hlimit
    have hrecency := recency name settings cs
    rw [trace_concat] at htrace ⊢
    rw [calls_concat] at hlimit' ⊢
    cases recent with
    | nil =>
      obtain ⟨rfl, rfl⟩ := List.cons.inj htrace
      obtain ⟨e, he⟩ := exists_find?_of_mem_keys (Recency.mem_keys_of_used hused)
      obtain ⟨hmem, rfl⟩ := Entries.find?_eq_some_iff.1 he
      exact ⟨e, (hrecency.step x.1 x.2).written e hmem, fun _ => he⟩
    | cons st' recent =>
      obtain ⟨rfl, hrest⟩ := List.cons.inj htrace
      have hcard := Finset.card_le_card (usedKeys_subset_cons ⟨(new name settings).calls cs, x.1, x.2⟩ recent)
      obtain ⟨e, hwritten, hthere⟩ := ih (fun y hy => hlimit y (List.mem_append_left _ hy)) hrest
        (List.forall_mem_cons.1 hlast).2 (by omega)
      rw [lastWrite?_cons_of_ne (hlast _ List.mem_cons_self)]
      refine ⟨e, hwritten, ?_⟩
      intro hstays
      obtain ⟨hstay, hstays⟩ := List.forall_mem_cons.1 hstays
      rw [hrest] at hrecency
      exact find?_call_of_few hrecency hused hlast (by rw [hlimit']; exact hfew) (hthere hstays) hstay

/-- **A working set stays**: a key is there with its last write while fewer other keys were used since its last
use than the limit allows, and nothing removed it. -/
theorem working_set (name : String) {settings : SegmentSettings}
    (hlimit : ∀ x ∈ cs, x.2.keepsLimit settings.capacity = true)
    (htrace : (new name settings).trace cs = recent ++ st :: older) (hused : st.used? = some key)
    (hlast : ∀ st' ∈ recent, st'.used? ≠ some key) (hfew : (usedKeys recent).card < settings.capacity) :
    ∃ e, lastWrite? settings.ttl key ((new name settings).trace cs) = some e ∧
      ((∀ st' ∈ recent, st'.call.removes e st'.now = false) →
        ((new name settings).calls cs).find? key = some e ∧
          ∀ now, e.hasExpired now = false → (((new name settings).calls cs).get key now).1 = some e.value) := by
  obtain ⟨e, hwritten, hthere⟩ := find?_calls_of_few name hlimit htrace hused hlast hfew
  refine ⟨e, hwritten, ?_⟩
  intro hstays
  have hfind := hthere hstays
  refine ⟨hfind, ?_⟩
  intro now hlive
  exact congrArg Prod.fst (get_of_live hfind hlive)

/-- Three entries are put back over a limit of two, one of them is read, and a new one is written. -/
def sampleUses : List (Instant × SegmentCall Nat) :=
  [(.epoch, .restore "a" 1 none), (.epoch, .restore "b" 2 none), (.epoch, .restore "c" 3 none),
    (.epoch, .get "a"), (.epoch, .sweep .epoch), (.epoch, .insert "d" 4), (.epoch, .get "b")]

theorem working_set_sample :
    (∀ x ∈ sampleUses, x.2.keepsLimit 2 = true) ∧
      ∃ recent st older, (new "s" ⟨2, none⟩).trace sampleUses = recent ++ st :: older ∧ st.used? = some "a" ∧
        (∀ st' ∈ recent, st'.used? ≠ some "a") ∧ (usedKeys recent).card < 2 ∧
        (∀ st' ∈ recent, st'.call.removes ⟨"a", 1, none⟩ st'.now = false) ∧
        ((new "s" ⟨2, none⟩).calls sampleUses).find? "a" = some ⟨"a", 1, none⟩ := by
  have hlimit : ∀ x ∈ sampleUses, x.2.keepsLimit (⟨2, none⟩ : SegmentSettings).capacity = true := by decide
  let steps := (new "s" ⟨2, none⟩).trace sampleUses
  have htrace : steps = steps.take 3 ++ steps[3] :: steps.drop 4 := rfl
  have hlast : ∀ st' ∈ steps.take 3, st'.used? ≠ some "a" := by decide +kernel
  have hfew : (usedKeys (steps.take 3)).card < 2 := by decide +kernel
  have hstays : ∀ st' ∈ steps.take 3, st'.call.removes ⟨"a", 1, none⟩ st'.now = false := by decide +kernel
  refine ⟨hlimit, _, _, _, htrace, rfl, hlast, hfew, hstays, ?_⟩
  obtain ⟨e, hwritten, hthere⟩ := working_set "s" hlimit htrace rfl hlast hfew
  obtain rfl : e = ⟨"a", 1, none⟩ := Option.some.inj (hwritten.symm.trans rfl)
  exact (hthere hstays).1

end Segment

end Roster
