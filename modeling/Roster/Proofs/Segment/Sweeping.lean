import Mathlib.Data.List.Basic
import Mathlib.Data.List.Induction
import Roster.Proofs.Segment.Calls

/-!
# Sweeps go unnoticed

A segment without a limit is swept at any times that the clock has reached.  Nobody who reads it can tell.

* `Segment.liveAt` — the live entries at an instant, in their order.  Every operation that does not ask for an
  expired entry is an operation on them: `live?_eq`, `liveAt_toFront`, `liveAt_without`, `liveAt_sweep`.
* `Segment.Alike` — two segments with the same live entries, the same counts of hits and misses and the same
  time to live.  `Alike.call`: a call keeps two segments alike and gets the same reply; `Alike.swept`: so
  does a sweep of one of them.
* `SegmentCall.isTimely`, `isSweep`, `asks` — the calls of such runs, the sweeps among them, and the calls whose
  replies count.
* `Segment.sweeps_unnoticed` — **a run and the same run without its sweeps** get the same replies
  and go through alike segments.
-/

set_option autoImplicit false

namespace Roster

variable {α : Type}

/-- What has expired stays expired. -/
theorem Entry.hasExpired_mono {e : Entry α} {now now' : Instant} (hle : now ≤ now')
    (h : e.hasExpired now = true) : e.hasExpired now' = true := by
  unfold hasExpired at h ⊢
  split at h
  · exact absurd h Bool.false_ne_true
  · rename_i expiry hexpiry
    have hexpired : expiry.nanos ≤ now.nanos := of_decide_eq_true h
    have hlater : expiry.nanos ≤ now'.nanos := Int.le_trans hexpired hle
    exact decide_eq_true hlater

namespace SegmentCall

/-- Calls that neither restore entries nor set a limit; a sweep goes no further than the clock. -/
def isTimely (now : Instant) : SegmentCall α → Bool
  | .restore _ _ _ => false
  | .withLimit _ => false
  | .sweep time => decide (time ≤ now)
  | _ => true

def isSweep : SegmentCall α → Bool
  | .sweep _ => true
  | _ => false

/-- The calls that ask for an entry that is live. -/
def asks : SegmentCall α → Bool
  | .get _ => true
  | .contains _ => true
  | .peek _ => true
  | .insertUnlessLive _ _ => true
  | _ => false

end SegmentCall

namespace Segment

variable {s s' : Segment α} {now now' : Instant} {key : String}

/-! ## Live entries -/

/-- The live entries at an instant, most recently used first. -/
def liveAt (s : Segment α) (now : Instant) : List (Entry α) :=
  s.entries.list.filter fun e => !e.hasExpired now

/-- A look for a live entry is a look into the live entries. -/
theorem live?_eq (s : Segment α) (key : String) (now : Instant) :
    s.live? key now = (s.liveAt now).find? fun e => e.key = key :=
  (s.entries.find?_keep (fun e => !e.hasExpired now) key).symm

theorem find?_of_live? {e : Entry α} (h : s.live? key now = some e) :
    s.find? key = some e ∧ e.hasExpired now = false := by
  obtain ⟨hfind, hlive⟩ := Option.filter_eq_some_iff.1 h
  exact ⟨hfind, Bool.not_eq_true' _ ▸ hlive⟩

/-- What is found under a key without a live entry has expired. -/
theorem hasExpired_of_live?_none {e : Entry α} (h : s.live? key now = none) (hfind : s.find? key = some e) :
    e.hasExpired now = true := by
  by_contra hlive
  have : s.live? key now = some e := by
    refine Option.filter_eq_some_iff.2 ⟨hfind, ?_⟩
    simpa using hlive
  rw [h] at this
  cases this

/-- The later the instant, the fewer entries are live. -/
theorem filter_liveAt (s : Segment α) (hle : now ≤ now') :
    ((s.liveAt now).filter fun e => !e.hasExpired now') = s.liveAt now' := by
  unfold liveAt
  rw [List.filter_filter]
  refine List.filter_congr ?_
  intro e _
  cases h : e.hasExpired now with
  | false => simp
  | true => simp [Entry.hasExpired_mono hle h]

theorem liveAt_without (s : Segment α) (key : String) (now : Instant) :
    (s.without key).liveAt now = (s.liveAt now).filter fun e => e.key ≠ key := by
  show (s.entries.without key).list.filter _ = _
  rw [Entries.list_without, List.filter_comm]
  rfl

theorem liveAt_toFront (s : Segment α) (e : Entry α) (h : e.key ≠ "") (now : Instant) :
    (s.toFront e h).liveAt now =
      (e :: (s.liveAt now).filter fun a => a.key ≠ e.key).filter fun a => !a.hasExpired now := by
  have hself : (s.liveAt now).filter (fun a => !a.hasExpired now) = s.liveAt now :=
    filter_liveAt s (Int.le_refl _)
  have hrest : ((s.liveAt now).filter fun a => a.key ≠ e.key).filter (fun a => !a.hasExpired now) =
      (s.liveAt now).filter fun a => a.key ≠ e.key := by
    rw [List.filter_comm, hself]
  show (s.entries.toFront e h).list.filter _ = _
  rw [Entries.list_toFront, List.filter_cons, List.filter_cons, List.filter_comm, hrest]
  rfl

/-- A sweep that does not run ahead of the clock takes no live entry. -/
theorem liveAt_sweep (s : Segment α) {time : Instant} (hle : time ≤ now) :
    (s.sweep time).2.liveAt now = s.liveAt now := filter_liveAt s hle

/-- Where no entry of a key is live, none has to leave. -/
theorem liveAt_without_of_live?_none (h : s.live? key now = none) :
    (s.without key).liveAt now = s.liveAt now := by
  rw [liveAt_without]
  refine List.filter_eq_self.2 ?_
  intro e he
  rw [live?_eq] at h
  simpa using List.find?_eq_none.1 h e he

/-! ## Writes without a limit -/

theorem withRoom_of_unlimited (h : s.limit = 0) : s.withRoom = s := if_pos (.inl h)

/-- Without a limit a write brings its entry to the front; only the count may differ. -/
theorem insertUntil_of_unlimited (h : s.limit = 0) (hk : key ≠ "") (value : α)
    (expiresAt : Option Instant) :
    ∃ size, s.insertUntil key value expiresAt = { s.toFront ⟨key, value, expiresAt⟩ hk with size } := by
  rcases Option.eq_none_or_eq_some (s.find? key) with hf | ⟨e, hf⟩
  · rw [insertUntil_of_absent hk hf, withRoom_of_unlimited h]
    exact ⟨_, rfl⟩
  · rw [insertUntil_of_present hk (Option.isSome_of_eq_some hf)]
    exact ⟨_, rfl⟩

theorem insertUnlessLive_of_live {e : Entry α} (h : s.live? key now = some e) (value : α) :
    s.insertUnlessLive key value now = (false, s) := by
  obtain ⟨hfind, hlive⟩ := find?_of_live? h
  rcases s.insertUnlessLive_cases key value now with ⟨-, hi⟩ | ⟨_, -, -, hi⟩ | ⟨-, hexpired, -⟩
  · exact hi
  · exact hi
  · rw [hexpired e hfind] at hlive
    cases hlive

theorem insertUnlessLive_of_unlimited (hlimit : s.limit = 0) (h : s.live? key now = none) (hk : key ≠ "")
    (value : α) :
    ∃ size, s.insertUnlessLive key value now =
      (true, { (s.without key).toFront ⟨key, value, s.expiryFrom now⟩ hk with size }) := by
  rcases s.insertUnlessLive_cases key value now with ⟨hempty, -⟩ | ⟨e, hfind, hlive, -⟩ | ⟨_, -, hi⟩
  · exact absurd hempty hk
  · rw [hasExpired_of_live?_none h hfind] at hlive
    cases hlive
  · rw [hi, withRoom_of_unlimited (s := s.without key) hlimit]
    exact ⟨_, rfl⟩

/-! ## Segments that are alike -/

/-- At an instant two segments without a limit hold the same live entries in the same order, and have counted
the same hits and misses. -/
structure Alike (now : Instant) (s s' : Segment α) : Prop where
  live : s.liveAt now = s'.liveAt now
  hits : s.hits = s'.hits
  misses : s.misses = s'.misses
  ttl : s.ttlMillis = s'.ttlMillis
  unlimited : s.limit = 0
  unlimited' : s'.limit = 0

namespace Alike

theorem refl (h : s.limit = 0) : Alike now s s := ⟨rfl, rfl, rfl, rfl, h, h⟩

/-- Segments that are alike stay alike while time passes. -/
theorem later (h : Alike now s s') (hle : now ≤ now') : Alike now' s s' where
  live := by
    rw [← filter_liveAt s hle, ← filter_liveAt s' hle, h.live]
  hits := h.hits
  misses := h.misses
  ttl := h.ttl
  unlimited := h.unlimited
  unlimited' := h.unlimited'

theorem live? (h : Alike now s s') (key : String) : s.live? key now = s'.live? key now := by
  rw [live?_eq, live?_eq, h.live]

theorem expiryFrom (h : Alike now s s') : s.expiryFrom now = s'.expiryFrom now := by
  rw [Segment.expiryFrom, Segment.expiryFrom, Segment.ttl, Segment.ttl, h.ttl]

/-- Other entries in two segments, with the same ones live. -/
theorem withEntries (h : Alike now s s') {es es' : Entries α} (size size' : Nat)
    (hlive : liveAt { s with entries := es } now = liveAt { s' with entries := es' } now) :
    Alike now { s with entries := es, size := size } { s' with entries := es', size := size' } :=
  ⟨hlive, h.hits, h.misses, h.ttl, h.unlimited, h.unlimited'⟩

/-- A sweep of one of the two segments. -/
theorem swept (h : Alike now s s') {time : Instant} (hle : time ≤ now) : Alike now (s.sweep time).2 s' :=
  h.withEntries _ s'.size ((liveAt_sweep s hle).trans h.live)

/-- An entry comes to the front of both segments. -/
theorem toFront (h : Alike now s s') (e : Entry α) (hk : e.key ≠ "") (size size' : Nat) :
    Alike now { s.toFront e hk with size } { s'.toFront e hk with size := size' } := by
  refine h.withEntries size size' ?_
  show (s.toFront e hk).liveAt now = (s'.toFront e hk).liveAt now
  rw [liveAt_toFront, liveAt_toFront, h.live]

/-- The entry of a key leaves both segments. -/
theorem without (h : Alike now s s') (key : String) (size size' : Nat) :
    Alike now { s.without key with size } { s'.without key with size := size' } := by
  refine h.withEntries size size' ?_
  show (s.without key).liveAt now = (s'.without key).liveAt now
  rw [liveAt_without, liveAt_without, h.live]

/-! ## Calls -/

/-- A read that finds nothing live counts a miss and leaves the live entries as they are. -/
theorem get_of_live?_none (h : s.live? key now = none) :
    (s.get key now).1 = none ∧ (s.get key now).2.liveAt now = s.liveAt now ∧
      (s.get key now).2.hits = s.hits ∧ (s.get key now).2.misses = s.misses + 1 ∧
      (s.get key now).2.ttlMillis = s.ttlMillis ∧ (s.get key now).2.limit = s.limit := by
  rcases s.get_cases key now with ⟨-, hg⟩ | ⟨e, -, -, hg⟩ | ⟨e, hfind, hlive, -⟩
  · rw [hg]
    exact ⟨rfl, rfl, rfl, rfl, rfl, rfl⟩
  · rw [hg]
    exact ⟨rfl, liveAt_without_of_live?_none h, rfl, rfl, rfl, rfl⟩
  · rw [hasExpired_of_live?_none h hfind] at hlive
    cases hlive

theorem get (h : Alike now s s') (key : String) :
    (s.get key now).1 = (s'.get key now).1 ∧ Alike now (s.get key now).2 (s'.get key now).2 := by
  rcases Option.eq_none_or_eq_some (s.live? key now) with hlive | ⟨e, hlive⟩
  · obtain ⟨hvalue, hentries, hhits, hmisses, httl, hlimit⟩ := get_of_live?_none hlive
    obtain ⟨hvalue', hentries', hhits', hmisses', httl', hlimit'⟩ :=
      get_of_live?_none (h.live? key ▸ hlive)
    refine ⟨hvalue.trans hvalue'.symm, ?_, ?_, ?_, ?_, ?_, ?_⟩
    · rw [hentries, hentries', h.live]
    · rw [hhits, hhits', h.hits]
    · rw [hmisses, hmisses', h.misses]
    · rw [httl, httl', h.ttl]
    · rw [hlimit, h.unlimited]
    · rw [hlimit', h.unlimited']
  · obtain ⟨hfind, hx⟩ := find?_of_live? hlive
    obtain ⟨hfind', -⟩ := find?_of_live? (h.live? key ▸ hlive)
    have hfront := h.toFront e (Entries.named_of_find? hfind) s.size s'.size
    rw [get_of_live hfind hx, get_of_live hfind' hx]
    exact ⟨rfl, hfront.live, congrArg (· + 1) h.hits, h.misses, h.ttl, h.unlimited, h.unlimited'⟩

theorem insertUntil (h : Alike now s s') (key : String) (value : α) (expiresAt : Option Instant) :
    Alike now (s.insertUntil key value expiresAt) (s'.insertUntil key value expiresAt) := by
  by_cases hk : key = ""
  · rw [show s.insertUntil key value expiresAt = s from dif_pos hk,
      show s'.insertUntil key value expiresAt = s' from dif_pos hk]
    exact h
  · obtain ⟨size, hi⟩ := insertUntil_of_unlimited h.unlimited hk value expiresAt
    obtain ⟨size', hi'⟩ := insertUntil_of_unlimited h.unlimited' hk value expiresAt
    rw [hi, hi']
    exact h.toFront _ hk size size'

theorem insertUnlessLive (h : Alike now s s') (key : String) (value : α) :
    (s.insertUnlessLive key value now).1 = (s'.insertUnlessLive key value now).1 ∧
      Alike now (s.insertUnlessLive key value now).2 (s'.insertUnlessLive key value now).2 := by
  by_cases hk : key = ""
  · rw [show s.insertUnlessLive key value now = (false, s) from dif_pos hk,
      show s'.insertUnlessLive key value now = (false, s') from dif_pos hk]
    exact ⟨rfl, h⟩
  rcases Option.eq_none_or_eq_some (s.live? key now) with hlive | ⟨e, hlive⟩
  · obtain ⟨size, hi⟩ := insertUnlessLive_of_unlimited h.unlimited hlive hk value
    obtain ⟨size', hi'⟩ := insertUnlessLive_of_unlimited h.unlimited' (h.live? key ▸ hlive) hk value
    rw [hi, hi', h.expiryFrom]
    exact ⟨rfl, (h.without key s.size s'.size).toFront _ hk size size'⟩
  · rw [insertUnlessLive_of_live hlive, insertUnlessLive_of_live (h.live? key ▸ hlive)]
    exact ⟨rfl, h⟩

/-- A call other than a sweep keeps two segments alike, and gets the same reply when
it asks for a live entry. -/
theorem call (h : Alike now s s') {c : SegmentCall α} (hc : c.isTimely now = true) (hs : c.isSweep = false) :
    (c.asks = true → (s.call now c).1 = (s'.call now c).1) ∧
      Alike now (s.call now c).2 (s'.call now c).2 := by
  cases c with
  | get key =>
    obtain ⟨hreply, hafter⟩ := h.get key
    exact ⟨fun _ => congrArg SegmentReply.found hreply, hafter⟩
  | contains key =>
    have hreply : s.contains key now = s'.contains key now := congrArg Option.isSome (h.live? key)
    exact ⟨fun _ => congrArg SegmentReply.told hreply, h⟩
  | peek key =>
    have hreply : s.peek key now = s'.peek key now := congrArg (Option.map Entry.value) (h.live? key)
    exact ⟨fun _ => congrArg SegmentReply.found hreply, h⟩
  | insert key value =>
    refine ⟨fun _ => rfl, ?_⟩
    show Alike now (s.insertUntil key value _) (s'.insertUntil key value _)
    rw [h.expiryFrom]
    exact h.insertUntil key value _
  | insertUntil key value expiresAt => exact ⟨fun _ => rfl, h.insertUntil key value expiresAt⟩
  | insertUnlessLive key value =>
    obtain ⟨hreply, hafter⟩ := h.insertUnlessLive key value
    exact ⟨fun _ => congrArg SegmentReply.told hreply, hafter⟩
  | restore key value expiresAt => cases hc
  | erase key => exact ⟨fun hasks => (nomatch hasks), h.without key _ _⟩
  | clear => exact ⟨fun _ => rfl, h.withEntries 0 0 rfl⟩
  | sweep time => cases hs
  | withTtl ttl => exact ⟨fun _ => rfl, h.live, h.hits, h.misses, rfl, h.unlimited, h.unlimited'⟩
  | withLimit limit => cases hc

end Alike

/-! ## Runs -/

/-- A run without its sweeps. -/
def withoutSweeps (cs : List (Instant × SegmentCall α)) : List (Instant × SegmentCall α) :=
  cs.filter fun c => !c.2.isSweep

/-- The replies of a run to the calls that ask for a live entry, the last one first. -/
def answers (s : Segment α) (cs : List (Instant × SegmentCall α)) : List (SegmentReply α) :=
  ((s.trace cs).filter fun st => st.call.asks).map Step.reply

theorem answers_concat (s : Segment α) (cs : List (Instant × SegmentCall α))
    (c : Instant × SegmentCall α) :
    s.answers (cs ++ [c]) =
      if c.2.asks then ((s.calls cs).call c.1 c.2).1 :: s.answers cs else s.answers cs := by
  unfold answers
  rw [trace_concat, List.filter_cons]
  split <;> rfl

theorem withoutSweeps_concat (cs : List (Instant × SegmentCall α)) (c : Instant × SegmentCall α) :
    withoutSweeps (cs ++ [c]) = if c.2.isSweep then withoutSweeps cs else withoutSweeps cs ++ [c] := by
  unfold withoutSweeps
  rw [List.filter_append]
  cases h : c.2.isSweep <;> simp [h]

/-- The induction adds the calls at the end of the run.  The two segments are alike at the instant of the call
that is added, because the clock has not gone back since they were found to be alike. -/
theorem alike_calls (hlimit : s.limit = 0) (cs : List (Instant × SegmentCall α))
    (hclock : cs.Pairwise fun a b => a.1 ≤ b.1) (hcs : ∀ c ∈ cs, c.2.isTimely c.1 = true) :
    s.answers cs = s.answers (withoutSweeps cs) ∧
      ∀ now, (∀ c ∈ cs, c.1 ≤ now) → Alike now (s.calls cs) (s.calls (withoutSweeps cs)) := by
  induction cs using List.reverseRecOn with
  | nil => exact ⟨rfl, fun now _ => Alike.refl hlimit⟩
  | append_singleton cs c ih =>
    obtain ⟨hclock, -, hlast⟩ := List.pairwise_append.1 hclock
    have hbefore : ∀ c' ∈ cs, c'.1 ≤ c.1 := fun c' hc' => hlast c' hc' c List.mem_cons_self
    obtain ⟨hanswers, halike⟩ := ih hclock fun c' hc' => hcs c' (List.mem_append_left _ hc')
    have hmet := halike c.1 hbefore
    have htimely := hcs c (List.mem_append_right _ List.mem_cons_self)
    obtain ⟨time, call⟩ := c
    rw [answers_concat, withoutSweeps_concat, calls_concat]
    dsimp only at hmet htimely ⊢
    cases hsweep : call.isSweep with
    | true =>
      cases call with
      | sweep at' =>
        refine ⟨hanswers, ?_⟩
        intro now hnow
        have hle := hnow (time, .sweep at') (List.mem_append_right _ List.mem_cons_self)
        exact (hmet.swept (of_decide_eq_true htimely)).later hle
      | _ => cases hsweep
    | false =>
      obtain ⟨hreply, hafter⟩ := hmet.call htimely hsweep
      rw [if_neg Bool.false_ne_true, answers_concat, calls_concat]
      dsimp only
      constructor
      · split
        · rename_i hasks
          rw [hreply hasks, hanswers]
        · exact hanswers
      · intro now hnow
        exact hafter.later (hnow (time, call) (List.mem_append_right _ List.mem_cons_self))

/-- **Sweeps go unnoticed**: with a clock that never goes back, a run and the same run without its sweeps get
the same replies, and after every step they are alike at every instant from then on. -/
theorem sweeps_unnoticed (name : String) {settings : SegmentSettings} (hlimit : settings.capacity = 0)
    (cs : List (Instant × SegmentCall α)) (hclock : cs.Pairwise fun a b => a.1 ≤ b.1)
    (hcs : ∀ c ∈ cs, c.2.isTimely c.1 = true) :
    (new name settings).answers cs = (new name settings).answers (withoutSweeps cs) ∧
      ∀ before, before <+: cs → ∀ now, (∀ c ∈ before, c.1 ≤ now) →
        Alike now ((new name settings).calls before) ((new name settings).calls (withoutSweeps before)) := by
  have hnew : (new (α := α) name settings).limit = 0 := hlimit
  refine ⟨(alike_calls hnew cs hclock hcs).1, ?_⟩
  intro before hbefore
  exact (alike_calls hnew before (hclock.sublist hbefore.sublist) fun c hc => hcs c (hbefore.subset hc)).2

/-- One of two entries has expired.  It is swept, asked for and written anew. -/
def sampleSweep : List (Instant × SegmentCall Nat) :=
  [(.epoch, .insertUntil "a" 1 (some .epoch)), (.epoch, .insert "b" 2), (.epoch, .sweep .epoch),
    (.epoch, .get "a"), (.epoch, .insertUnlessLive "a" 3), (.epoch, .get "b")]

theorem sweeps_unnoticed_sample :
    (SegmentSettings.ofCapacity 0).capacity = 0 ∧ (sampleSweep.Pairwise fun a b => a.1 ≤ b.1) ∧
      (∀ c ∈ sampleSweep, c.2.isTimely c.1 = true) ∧
      (new "s" (.ofCapacity 0)).answers sampleSweep =
        (new "s" (.ofCapacity 0)).answers (withoutSweeps sampleSweep) ∧
      ∀ before, before <+: sampleSweep → ∀ now, (∀ c ∈ before, c.1 ≤ now) →
        Alike now ((new "s" (.ofCapacity 0)).calls before)
          ((new "s" (.ofCapacity 0)).calls (withoutSweeps before)) := by
  have hlimit : (SegmentSettings.ofCapacity 0).capacity = 0 := rfl
  have hclock : sampleSweep.Pairwise fun a b => a.1 ≤ b.1 := by decide
  have hcs : ∀ c ∈ sampleSweep, c.2.isTimely c.1 = true := by
    intro c hc
    simp only [sampleSweep, List.mem_cons, List.not_mem_nil, or_false] at hc
    rcases hc with rfl | rfl | rfl | rfl | rfl | rfl <;> rfl
  exact ⟨hlimit, hclock, hcs, sweeps_unnoticed "s" hlimit sampleSweep hclock hcs⟩

end Segment

end Roster
