import Roster.Proofs.Segment.Recency

/-!
# How long an entry lives

The time to live of an entry goes through 64 bits of milliseconds, is given a sign, and is added within the
range of the clock.  An entry for which there is no room in one of them never expires, and none of them makes
an entry expire early or late.

* `LivesAt` — an entry is live at an instant: its time to live in whole milliseconds, which are added without
  bounds, is none or has not run out.
* `hasExpired_eq_false_iff` — **the expiry is exact**.
* `Segment.LivesWhile`, `livesWhile_of_find?` — everything that a segment answers about an entry goes by one
  condition.
* `Segment.find?_calls_of_write` — an entry that is there is the last one that was written under its key.
* `Segment.lives_exactly` — **in every run from the empty segment** an entry lives by the time to live in force
  when it was written, whatever is set later.
-/

set_option autoImplicit false

namespace Roster

/-! ## The expiry -/

/-- A time to live in whole milliseconds, rounded down, as long as it may be. -/
def wholeMillis (ttl : Option Duration) : Nat := (ttl.map Duration.millis).getD 0

/-- An entry that was written under a time to live is live at an instant. -/
def LivesAt (ttl : Option Duration) (written now : Instant) : Prop :=
  wholeMillis ttl = 0 ∨ now.nanos < written.nanos + wholeMillis ttl * nanosPerMilli

instance (ttl : Option Duration) (written now : Instant) : Decidable (LivesAt ttl written now) :=
  inferInstanceAs (Decidable (_ ∨ _))

theorem ttlMillis_eq_min (ttl : Option Duration) : ttlMillis ttl = min (wholeMillis ttl) maxWord := by
  cases ttl with
  | none => rfl
  | some d => rfl

/-- An instant that the clock shows after so many milliseconds was not cut off at 64 bits. -/
theorem nanos_of_add? {written expiry : Instant} {ttl : Option Duration}
    (h : written.add? (.ofMillis (ttlMillis ttl)) = some expiry) :
    expiry.nanos = written.nanos + wholeMillis ttl * nanosPerMilli := by
  have hnanos : expiry.nanos = written.nanos + (ttlMillis ttl * nanosPerMilli : Nat) := Instant.add?_eq_some.1 h
  have hfirst := written.first_le
  have hlast := expiry.le_last
  have hmin := ttlMillis_eq_min ttl
  simp only [Instant.firstNanos, Instant.lastNanos, nanosPerMilli, maxWord] at *
  omega

/-- Where there is no instant after so many milliseconds, whichever step has failed, it is later than all
instants. -/
theorem lt_of_add?_eq_none {written : Instant} {ttl : Option Duration}
    (h : written.add? (.ofMillis (ttlMillis ttl)) = none) (now : Instant) :
    now.nanos < written.nanos + wholeMillis ttl * nanosPerMilli := by
  rw [Instant.add?_eq] at h
  have hout : written.nanos + (ttlMillis ttl * nanosPerMilli : Nat) < Instant.firstNanos ∨
      Instant.lastNanos < written.nanos + (ttlMillis ttl * nanosPerMilli : Nat) := Instant.ofNanos?_eq_none.1 h
  have hfirst := written.first_le
  have hlast := now.le_last
  have hmin := ttlMillis_eq_min ttl
  simp only [nanosPerMilli] at *
  omega

/-- **The expiry is exact**: none of the ways in which there may be none drops or keeps an entry too long. -/
theorem hasExpired_eq_false_iff {α : Type} {e : Entry α} {ttl : Option Duration} {written : Instant}
    (h : e.expiresAt = Segment.expiryUnder ttl written) (now : Instant) :
    e.hasExpired now = false ↔ LivesAt ttl written now := by
  have hzero : ttlMillis ttl = 0 ↔ wholeMillis ttl = 0 := by
    have hmin := ttlMillis_eq_min ttl
    simp only [maxWord] at hmin
    omega
  unfold Entry.hasExpired LivesAt
  rw [h, Segment.expiryUnder]
  by_cases hnone : ttlMillis ttl = 0
  · rw [if_pos hnone]
    exact iff_of_true rfl (.inl (hzero.1 hnone))
  · have hsome : wholeMillis ttl ≠ 0 := fun hz => hnone (hzero.2 hz)
    rw [if_neg hnone, or_iff_right hsome]
    cases hadd : written.add? (.ofMillis (ttlMillis ttl)) with
    | none => exact iff_of_true rfl (lt_of_add?_eq_none hadd now)
    | some expiry =>
      rw [← nanos_of_add? hadd]
      show decide (expiry.nanos ≤ now.nanos) = false ↔ _
      rw [decide_eq_false_iff_not, Int.not_le]

namespace Segment

variable {α : Type} {s : Segment α} {key : String} {e : Entry α}

/-! ## What a segment answers -/

/-- What a segment answers about a key goes by a condition on the clock. -/
structure LivesWhile (s : Segment α) (key : String) (value : α) (alive : Instant → Prop) : Prop where
  get : ∀ now found, (s.get key now).1 = some found ↔ found = value ∧ alive now
  peek : ∀ now found, s.peek key now = some found ↔ found = value ∧ alive now
  contains : ∀ now, s.contains key now = true ↔ alive now
  /-- A conditional write is refused. -/
  insertUnlessLive : ∀ now other, (s.insertUnlessLive key other now).1 = false ↔ alive now
  /-- A sweep leaves the entry. -/
  sweep : ∀ time, key ∈ (s.sweep time).2.keys ↔ alive time
  /-- Otherwise the entry is among those that a sweep visits. -/
  visited : ∀ time, (∃ e ∈ (s.splitExpired time).1, e.key = key ∧ e.value = value) ↔ ¬alive time

theorem get_of_find? (h : s.find? key = some e) (now : Instant) :
    (s.get key now).1 = if e.hasExpired now then none else some e.value := by
  cases hx : e.hasExpired now with
  | true =>
    rw [get_of_expired h hx]
    rfl
  | false =>
    rw [get_of_live h hx]
    rfl

theorem insertUnlessLive_of_find? (h : s.find? key = some e) (other : α) (now : Instant) :
    (s.insertUnlessLive key other now).1 = e.hasExpired now := by
  rcases s.insertUnlessLive_cases key other now with ⟨rfl, -⟩ | ⟨e', he, hx, hi⟩ | ⟨hk, hx, hi⟩
  · rw [find?_empty_key] at h
    cases h
  · obtain rfl := Option.some.inj (h.symm.trans he)
    rw [hi, hx]
  · rw [hi, hx e h]

theorem mem_keys_sweep_of_find? (h : s.find? key = some e) (time : Instant) :
    key ∈ (s.sweep time).2.keys ↔ e.hasExpired time = false := by
  rw [← isSome_find?_iff, find?_sweep, h, Option.filter_some]
  cases e.hasExpired time <;> simp

theorem visited_iff_of_find? (h : s.find? key = some e) (time : Instant) :
    (∃ e' ∈ (s.splitExpired time).1, e'.key = key ∧ e'.value = e.value) ↔ e.hasExpired time = true := by
  obtain ⟨hmem, hkey⟩ := Entries.find?_eq_some_iff.1 h
  constructor
  · rintro ⟨e', he', hkey', -⟩
    obtain ⟨hmem', hx⟩ := List.mem_filter.1 he'
    obtain rfl := Entries.eq_of_key_eq hmem' hmem (hkey'.trans hkey.symm)
    exact hx
  · intro hx
    exact ⟨e, List.mem_filter.2 ⟨hmem, hx⟩, hkey, rfl⟩

/-- All that a segment answers about an entry goes by whether it has expired. -/
theorem livesWhile_of_find? {alive : Instant → Prop} (h : s.find? key = some e)
    (halive : ∀ now, e.hasExpired now = false ↔ alive now) : s.LivesWhile key e.value alive := by
  have hanswer {β : Type} (value found : β) (now : Instant) :
      (if e.hasExpired now then none else some value) = some found ↔ found = value ∧ alive now := by
    rw [← halive now]
    cases e.hasExpired now <;> simp [eq_comm]
  refine ⟨?_, ?_, ?_, ?_, ?_, ?_⟩
  · intro now found
    rw [get_of_find? h]
    exact hanswer e.value found now
  · intro now found
    rw [← hanswer e.value found now]
    unfold Segment.peek
    rw [live?_of_find? h]
    split <;> rfl
  · intro now
    rw [← halive now]
    unfold Segment.contains
    rw [live?_of_find? h]
    cases e.hasExpired now <;> simp
  · intro now other
    rw [insertUnlessLive_of_find? h, halive now]
  · intro time
    rw [mem_keys_sweep_of_find? h, halive time]
  · intro time
    rw [visited_iff_of_find? h, ← halive time, Bool.not_eq_false]

/-! ## Runs -/

/-- The record that a step writes with the segment's time to live, and its key. -/
def Step.timed? (st : Step α) : Option (String × α) :=
  match st.call, st.reply with
  | .insert key value, _ => if key = "" then none else some (key, value)
  | .insertUnlessLive key value, .told true => some (key, value)
  | _, _ => none

theorem Step.timed?_insertUnlessLive (s : Segment α) (now : Instant) (key : String) (value : α) :
    (⟨s, now, .insertUnlessLive key value⟩ : Step α).timed? =
      if (s.insertUnlessLive key value now).1 then some (key, value) else none := by
  unfold Step.timed? Step.reply
  dsimp only [Segment.call]
  cases (s.insertUnlessLive key value now).1 <;> rfl

/-- A write with the time to live of the segment uses its key, and its entry gets that expiry. -/
theorem Step.entry_of_timed {st : Step α} {value : α} (h : st.timed? = some (key, value)) :
    st.used? = some key ∧ ∀ expiresAt, st.call.entry? expiresAt = some ⟨key, value, expiresAt⟩ := by
  obtain ⟨s, now, c⟩ := st
  cases c with
  | insert key' value' =>
    have hboth : (if key' = "" then none else some (key', value')) = some (key, value) := h
    split at hboth
    · cases hboth
    · rename_i hk
      cases hboth
      exact ⟨if_neg hk, fun _ => rfl⟩
  | insertUnlessLive key' value' =>
    rw [Step.timed?_insertUnlessLive] at h
    rw [Step.used?_insertUnlessLive]
    split at h
    · rename_i hwritten
      cases h
      exact ⟨if_pos hwritten, fun _ => rfl⟩
    · cases h
  | get key' => cases h
  | contains key' => cases h
  | peek key' => cases h
  | insertUntil key' value' expiresAt => cases h
  | restore key' value' expiresAt => cases h
  | erase key' => cases h
  | clear => cases h
  | sweep time => cases h
  | withTtl ttl => cases h
  | withLimit limit => cases h

/-- The key that a step writes. -/
def Step.written? (st : Step α) : Option String :=
  match st.call with
  | .get _ => none
  | _ => st.used?

/-- A step that uses a key without writing it reads it. -/
theorem Step.entry?_of_not_written {st : Step α} (h : st.written? ≠ some key) (hused : st.used? = some key)
    (expiresAt : Option Instant) : st.call.entry? expiresAt = none := by
  unfold Step.written? at h
  split at h
  · rename_i hcall
    rw [hcall]
    rfl
  · exact absurd hused h

/-- Reads leave the last write under a key as it was. -/
theorem lastWrite?_append_of_reads {initial : Option Duration} {recent past : List (Step α)}
    (h : ∀ st ∈ recent, st.written? ≠ some key) :
    lastWrite? initial key (recent ++ past) = lastWrite? initial key past := by
  induction recent with
  | nil => rfl
  | cons st recent ih =>
    obtain ⟨hst, hrecent⟩ := List.forall_mem_cons.1 h
    rw [List.cons_append]
    by_cases hused : st.used? = some key
    · rw [lastWrite?, if_pos hused, Step.entry?_of_not_written hst hused, Option.none_or]
      exact ih hrecent
    · rw [lastWrite?_cons_of_ne hused]
      exact ih hrecent

section Runs

variable {settings : SegmentSettings} {cs : List (Instant × SegmentCall α)}
  {recent older : List (Step α)} {st : Step α} {value : α}

/-- An entry that is there is the last one that was written under its key. -/
theorem find?_calls_of_write (name : String)
    (htrace : (new name settings).trace cs = recent ++ st :: older) (hwrite : st.timed? = some (key, value))
    (hlast : ∀ st' ∈ recent, st'.written? ≠ some key)
    (hthere : key ∈ ((new name settings).calls cs).keys) :
    ((new name settings).calls cs).find? key =
      some ⟨key, value, expiryUnder (ttlInForce settings.ttl older) st.now⟩ := by
  obtain ⟨hused, hentry⟩ := Step.entry_of_timed hwrite
  obtain ⟨e, he⟩ := exists_find?_of_mem_keys hthere
  obtain ⟨hmem, hkey⟩ := Entries.find?_eq_some_iff.1 he
  have hwritten := (recency name settings cs).written e hmem
  rw [hkey, htrace, lastWrite?_append_of_reads hlast, lastWrite?, if_pos hused, hentry, Option.some_or]
    at hwritten
  rw [he, hwritten]

/-- **An entry lives by the time to live in force when it was written**, in every run from the empty segment: as
long as it is there and was not written again, it is live exactly until its whole milliseconds have passed. -/
theorem lives_exactly (name : String)
    (htrace : (new name settings).trace cs = recent ++ st :: older) (hwrite : st.timed? = some (key, value))
    (hlast : ∀ st' ∈ recent, st'.written? ≠ some key)
    (hthere : key ∈ ((new name settings).calls cs).keys) :
    ((new name settings).calls cs).LivesWhile key value (LivesAt (ttlInForce settings.ttl older) st.now) :=
  livesWhile_of_find? (find?_calls_of_write name htrace hwrite hlast hthere) (hasExpired_eq_false_iff rfl)

end Runs

/-- The longest time to live. -/
def longestTtl : Duration := ⟨maxWord * nanosPerSecond + 999999999⟩

/-- One record is written at the first instant under the longest time to live, which is cut off and then too
long to be given a sign, another later under one of less than two milliseconds, and that one is switched off. -/
def sampleWrites : List (Instant × SegmentCall Nat) :=
  [(.first, .insert "a" 1), (.epoch, .withTtl (some ⟨1999999⟩)), (.epoch, .insertUnlessLive "b" 2),
    (.epoch, .withTtl none), (.epoch, .get "a")]

theorem lives_exactly_sample :
    ∃ s recent st older recent' st' older', s = (new "s" ⟨0, some longestTtl⟩).calls sampleWrites ∧
      (new "s" ⟨0, some longestTtl⟩).trace sampleWrites = recent ++ st :: older ∧ st.timed? = some ("a", 1) ∧
      (∀ later ∈ recent, later.written? ≠ some "a") ∧ "a" ∈ s.keys ∧
      (new "s" ⟨0, some longestTtl⟩).trace sampleWrites = recent' ++ st' :: older' ∧
      st'.timed? = some ("b", 2) ∧
      (∀ later ∈ recent', later.written? ≠ some "b") ∧ "b" ∈ s.keys ∧
      s.LivesWhile "a" 1 (LivesAt (some longestTtl) .first) ∧ maxWord < wholeMillis (some longestTtl) ∧
      (Duration.ofMillis (Roster.ttlMillis (some longestTtl))).toDelta? = none ∧
      s.contains "a" ⟨Instant.lastNanos, by decide, by decide⟩ = true ∧
      s.LivesWhile "b" 2 (LivesAt (some ⟨1999999⟩) .epoch) ∧
      s.peek "b" ⟨999999, by decide, by decide⟩ = some 2 ∧
      s.contains "b" ⟨1000000, by decide, by decide⟩ = false := by
  let steps := (new "s" ⟨0, some longestTtl⟩).trace sampleWrites
  have ha : steps = steps.take 4 ++ steps[4] :: steps.drop 5 := rfl
  have hb : steps = steps.take 2 ++ steps[2] :: steps.drop 3 := rfl
  have hlasta : ∀ later ∈ steps.take 4, later.written? ≠ some "a" := by decide +kernel
  have hlastb : ∀ later ∈ steps.take 2, later.written? ≠ some "b" := by decide +kernel
  have hthere : "a" ∈ ((new "s" ⟨0, some longestTtl⟩).calls sampleWrites).keys ∧
    "b" ∈ ((new "s" ⟨0, some longestTtl⟩).calls sampleWrites).keys := by decide +kernel
  have hlongest := lives_exactly "s" ha rfl hlasta hthere.1
  have hshort := lives_exactly "s" hb rfl hlastb hthere.2
  refine ⟨_, _, _, _, _, _, _, rfl, ha, rfl, hlasta, hthere.1, hb, rfl, hlastb, hthere.2, hlongest, by decide,
    by decide, ?_, hshort, ?_, ?_⟩
  · exact (hlongest.contains _).2 (by decide)
  · exact (hshort.peek _ 2).2 ⟨rfl, by decide⟩
  · exact Bool.eq_false_iff.2 fun hlive => absurd ((hshort.contains _).1 hlive) (by decide)

end Segment

end Roster
