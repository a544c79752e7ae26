import Roster.Proofs.Segment.Sweeping

/-!
# Keys are independent of each other

Without a limit nothing makes room, and a segment is a family of entries that do not know of each other.

* `SegmentCall.leaves` — what a call leaves under one key, from what is there and from nothing else.
* `Segment.find?_call` — **a call of a segment without a limit does just that** under every key.
* `SegmentCall.concerns` — the calls that can matter for a key; `leaves_of_not_concerns`:
  the others leave what is there.
* `Segment.SameUnder` — two segments that hold the same under a key.  `calls_concerning`: **a run leaves under a
  key what the calls that concern it leave there**.
-/

set_option autoImplicit false

namespace Roster

variable {α : Type}

namespace SegmentCall

/-- What a call leaves under a key when nothing has to make room, from what is there; a write that has no expiry
of its own gets this one. -/
def leaves (key : String) (now : Instant) (expiresAt : Option Instant) (there : Option (Entry α)) :
    SegmentCall α → Option (Entry α)
  | .get k => if k = key then there.filter fun e => !e.hasExpired now else there
  | .insert k value => if k = key ∧ k ≠ "" then some ⟨k, value, expiresAt⟩ else there
  | .insertUntil k value expiresAt => if k = key ∧ k ≠ "" then some ⟨k, value, expiresAt⟩ else there
  | .insertUnlessLive k value =>
    if k = key ∧ k ≠ "" ∧ there.filter (fun e => !e.hasExpired now) = none then some ⟨k, value, expiresAt⟩
    else there
  | .restore k value expiresAt => if k = key ∧ k ≠ "" ∧ there = none then some ⟨k, value, expiresAt⟩ else there
  | .erase k => if k = key then none else there
  | .clear => none
  | .sweep time => there.filter fun e => !e.hasExpired time
  | .contains _ => there
  | .peek _ => there
  | .withTtl _ => there
  | .withLimit _ => there

/-- The key that a call is about, if it is about one. -/
def key? : SegmentCall α → Option String
  | .get key => some key
  | .contains key => some key
  | .peek key => some key
  | .insert key _ => some key
  | .insertUntil key _ _ => some key
  | .insertUnlessLive key _ => some key
  | .restore key _ _ => some key
  | .erase key => some key
  | .clear => none
  | .sweep _ => none
  | .withTtl _ => none
  | .withLimit _ => none

/-- The calls about a key, and those about the whole segment. -/
def concerns (key : String) (c : SegmentCall α) : Bool := c.key?.all fun k => k = key

/-- The calls after which there is a limit where there was none. -/
def limits : SegmentCall α → Bool
  | .withLimit limit => limit ≠ 0
  | _ => false

theorem leaves_of_not_concerns {key : String} {c : SegmentCall α} (h : c.concerns key = false) (now : Instant)
    (expiresAt : Option Instant) (there : Option (Entry α)) : c.leaves key now expiresAt there = there := by
  cases c <;> simp_all [concerns, key?, leaves]

theorem limits_of_not_concerns {key : String} {c : SegmentCall α} (h : c.concerns key = false) :
    c.limits = false := by
  cases c <;> simp_all [concerns, key?, limits]

end SegmentCall

namespace Segment

variable {s s' : Segment α} {now : Instant} {key : String}

/-! ## One call -/

theorem find?_get (s : Segment α) (k key : String) (now : Instant) :
    (s.get k now).2.find? key =
      if k = key then (s.find? key).filter fun e => !e.hasExpired now else s.find? key := by
  rcases s.get_cases k now with ⟨hfind, hg⟩ | ⟨e, hfind, hx, hg⟩ | ⟨e, hfind, hx, hg⟩
  · rw [hg]
    show s.find? key = _
    by_cases hkey : k = key
    · subst hkey
      simp [hfind]
    · simp [hkey]
  · rw [hg]
    show (s.without k).find? key = _
    rw [find?_without]
    by_cases hkey : k = key
    · subst hkey
      simp [hfind, Option.filter, hx]
    · simp [hkey]
  · rw [hg]
    show (s.toFront e (Entries.named_of_find? hfind)).find? key = _
    rw [find?_toFront, Entries.key_of_find? hfind]
    by_cases hkey : k = key
    · subst hkey
      simp [hfind, Option.filter, hx]
    · simp [hkey]

theorem find?_insertUntil (h : s.limit = 0) (k key : String) (value : α) (expiresAt : Option Instant) :
    (s.insertUntil k value expiresAt).find? key =
      if k = key ∧ k ≠ "" then some ⟨k, value, expiresAt⟩ else s.find? key := by
  by_cases hk : k = ""
  · rw [insertUntil, dif_pos hk, if_neg fun hne => hne.2 hk]
  · obtain ⟨size, hinsert⟩ := insertUntil_of_unlimited h hk value expiresAt
    rw [hinsert]
    show (s.toFront ⟨k, value, expiresAt⟩ hk).find? key = _
    simp [find?_toFront, hk]

theorem find?_insertUnlessLive (h : s.limit = 0) (k key : String) (value : α) (now : Instant) :
    (s.insertUnlessLive k value now).2.find? key =
      if k = key ∧ k ≠ "" ∧ s.live? key now = none then some ⟨k, value, s.expiryFrom now⟩ else s.find? key := by
  by_cases hk : k = ""
  · rw [insertUnlessLive, dif_pos hk, if_neg fun hne => hne.2.1 hk]
  · cases hlive : s.live? k now with
    | some e =>
      rw [insertUnlessLive_of_live hlive, if_neg]
      rintro ⟨rfl, -, hdead⟩
      simp [hlive] at hdead
    | none =>
      obtain ⟨size, hinsert⟩ := insertUnlessLive_of_unlimited h hlive hk value
      rw [hinsert]
      show ((s.without k).toFront ⟨k, value, s.expiryFrom now⟩ hk).find? key = _
      rw [find?_toFront, find?_without]
      by_cases hkey : k = key
      · subst hkey
        simp [hk, hlive]
      · simp [hkey]

theorem find?_restore (s : Segment α) (k key : String) (value : α) (expiresAt : Option Instant) :
    (s.restore k value expiresAt).2.find? key =
      if k = key ∧ k ≠ "" ∧ s.find? key = none then some ⟨k, value, expiresAt⟩ else s.find? key := by
  rcases s.restore_cases k value expiresAt with ⟨hidle, hr⟩ | ⟨hk, hfind, hr⟩
  · rw [hr, if_neg]
    rintro ⟨rfl, hk, hfind⟩
    rcases hidle with hempty | hpresent
    · exact hk hempty
    · simp [hfind] at hpresent
  · rw [hr]
    show (s.toFront ⟨k, value, expiresAt⟩ hk).find? key = _
    rw [find?_toFront]
    by_cases hkey : k = key
    · subst hkey
      simp [hk, hfind]
    · simp [hkey]

/-- **A call under one key**: from the entry there, whatever else is held. -/
theorem find?_call (h : s.limit = 0) {c : SegmentCall α} (hc : c.limits = false)
    (now : Instant) (key : String) :
    (s.call now c).2.find? key = c.leaves key now (s.expiryFrom now) (s.find? key) := by
  cases c with
  | get k => exact s.find?_get k key now
  | contains k => rfl
  | peek k => rfl
  | insert k value => exact find?_insertUntil h k key value _
  | insertUntil k value expiresAt => exact find?_insertUntil h k key value expiresAt
  | insertUnlessLive k value => exact find?_insertUnlessLive h k key value now
  | restore k value expiresAt => exact s.find?_restore k key value expiresAt
  | erase k => exact s.find?_erase k key
  | clear => rfl
  | sweep time => exact s.find?_sweep time key
  | withTtl ttl => rfl
  | withLimit limit =>
    have hzero : limit = 0 := by simpa [SegmentCall.limits] using hc
    rw [hzero]
    rfl

/-! ## Runs -/

/-- Two segments without a limit that hold the same under a key and give new entries the same time to live. -/
structure SameUnder (key : String) (s s' : Segment α) : Prop where
  find? : s.find? key = s'.find? key
  ttl : s.ttlMillis = s'.ttlMillis
  unlimited : s.limit = 0
  unlimited' : s'.limit = 0

theorem unlimited_call (h : s.limit = 0) {c : SegmentCall α} (hc : c.limits = false) (now : Instant) :
    (s.call now c).2.limit = 0 := by
  rw [limit_call]
  cases c with
  | withLimit limit => simpa [SegmentCall.limits] using hc
  | _ => exact h

namespace SameUnder

theorem refl (h : s.limit = 0) (key : String) : SameUnder key s s := ⟨rfl, rfl, h, h⟩

theorem expiryFrom (h : SameUnder key s s') (now : Instant) : s.expiryFrom now = s'.expiryFrom now := by
  simp only [Segment.expiryFrom, Segment.ttl, h.ttl]

theorem live? (h : SameUnder key s s') (now : Instant) : s.live? key now = s'.live? key now := by
  simp only [Segment.live?, h.find?]

/-- The same call of both. -/
theorem call (h : SameUnder key s s') {c : SegmentCall α} (hc : c.limits = false) (now : Instant) :
    SameUnder key (s.call now c).2 (s'.call now c).2 where
  find? := by
    rw [find?_call h.unlimited hc, find?_call h.unlimited' hc, h.expiryFrom, h.find?]
  ttl := by
    rw [ttlMillis_call, ttlMillis_call, h.ttl]
  unlimited := unlimited_call h.unlimited hc now
  unlimited' := unlimited_call h.unlimited' hc now

/-- A call of the first alone that does not concern the key. -/
theorem skip (h : SameUnder key s s') {c : SegmentCall α} (hc : c.concerns key = false) (now : Instant) :
    SameUnder key (s.call now c).2 s' := by
  have hlimits : c.limits = false := SegmentCall.limits_of_not_concerns hc
  refine ⟨?_, ?_, unlimited_call h.unlimited hlimits now, h.unlimited'⟩
  · rw [find?_call h.unlimited hlimits, SegmentCall.leaves_of_not_concerns hc]
    exact h.find?
  · rw [ttlMillis_call]
    cases c with
    | withTtl ttl => simp [SegmentCall.concerns, SegmentCall.key?] at hc
    | _ => exact h.ttl

end SameUnder

/-- **A run** leaves under a key what the calls of it that concern the key leave there. -/
theorem calls_concerning (h : SameUnder key s s') {cs : List (Instant × SegmentCall α)}
    (hcs : ∀ c ∈ cs, c.2.limits = false) :
    SameUnder key (s.calls cs) (s'.calls (cs.filter fun c => c.2.concerns key)) := by
  induction cs generalizing s s' with
  | nil => exact h
  | cons c cs ih =>
    have hc := hcs c List.mem_cons_self
    have hrest : ∀ c ∈ cs, c.2.limits = false := fun c hmem => hcs c (List.mem_cons_of_mem _ hmem)
    cases hconcerns : c.2.concerns key with
    | true =>
      simp only [List.filter_cons, hconcerns, if_true]
      exact ih (h.call hc c.1) hrest
    | false =>
      simp only [List.filter_cons, hconcerns, Bool.false_eq_true, if_false]
      exact ih (h.skip hconcerns c.1) hrest

end Segment

end Roster
