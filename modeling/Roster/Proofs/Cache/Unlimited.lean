import Roster.Proofs.Cache.Contents
import Roster.Proofs.Segment.Sweeping

/-!
# Writes to a cache without limits

Without a limit nothing makes room, so a write concerns one entry and no other.

* `Cache.Unlimited` — no segment has a limit.
* `Cache.slot?` — the entry of a kind under a key, expired or not.
* `Cache.Written` — another cache with one entry written: what is under every key, and the settings.
* `Cache.insert_written`, `insertUnlessLive_written` — **a write is such a change**, or none (`insert_idle`,
  `insertUnlessLive_idle`).
-/

set_option autoImplicit false

namespace Roster

namespace Segment

variable {α : Type} {s : Segment α} {key : String} {now : Instant}

/-- A segment with one entry written. -/
structure Written (e : Entry α) (s s' : Segment α) : Prop where
  find? : ∀ key, s'.find? key = if e.key = key then some e else s.find? key
  limit : s'.limit = s.limit
  ttl : s'.ttlMillis = s.ttlMillis

theorem insert_written (h : s.limit = 0) (hk : key ≠ "") (value : α) (now : Instant) :
    Written ⟨key, value, s.expiryFrom now⟩ s (s.insert key value now) := by
  obtain ⟨size, hinsert⟩ := insertUntil_of_unlimited h hk value (s.expiryFrom now)
  have hinsert : s.insert key value now = _ := hinsert
  rw [hinsert]
  exact ⟨s.find?_toFront ⟨key, value, s.expiryFrom now⟩ hk, rfl, rfl⟩

theorem insertUnlessLive_written (h : s.limit = 0) (hk : key ≠ "")
    (hdead : s.live? key now = none) (value : α) :
    (s.insertUnlessLive key value now).1 = true ∧
      Written ⟨key, value, s.expiryFrom now⟩ s (s.insertUnlessLive key value now).2 := by
  obtain ⟨size, hinsert⟩ := insertUnlessLive_of_unlimited h hdead hk value
  rw [hinsert]
  refine ⟨rfl, fun key' => ?_, rfl, rfl⟩
  show ((s.without key).toFront ⟨key, value, s.expiryFrom now⟩ hk).find? key' = _
  rw [find?_toFront, find?_without]
  by_cases hkey : key = key'
  · rw [if_pos hkey, if_pos hkey]
  · rw [if_neg hkey, if_neg hkey, if_neg hkey]

theorem insertUnlessLive_idle (h : key = "" ∨ (s.live? key now).isSome = true) (value : α) :
    s.insertUnlessLive key value now = (false, s) := by
  rcases h with hk | hlive
  · exact dif_pos hk
  · obtain ⟨e, he⟩ := Option.isSome_iff_exists.1 hlive
    exact insertUnlessLive_of_live he value

end Segment

namespace Cache

variable {c c' : Cache} {k : Kind} {key : String} {now : Instant}

/-- No segment has a limit. -/
def Unlimited (c : Cache) : Prop := ∀ k, (c.segment k).limit = 0

/-- The entry of a kind under a key, expired or not. -/
def slot? (c : Cache) (k : Kind) (key : String) : Option (Entry k.Record) := (c.segment k).find? key

/-- A cache with one entry written. -/
structure Written (k : Kind) (e : Entry k.Record) (c c' : Cache) : Prop where
  self : c'.slot? k e.key = some e
  other : ∀ j key, ¬(j = k ∧ key = e.key) → c'.slot? j key = c.slot? j key
  limit : ∀ j, (c'.segment j).limit = (c.segment j).limit
  ttl : ∀ j, (c'.segment j).ttlMillis = (c.segment j).ttlMillis
  persistent : c'.isPersistent = c.isPersistent

/-- A written entry has a key. -/
theorem Written.named {e : Entry k.Record} (h : Written k e c c') : e.key ≠ "" := Entries.named_of_find? h.self

theorem withSegment_segment (c : Cache) (k : Kind) : c.withSegment k (c.segment k) = c := by
  cases k <;> rfl

theorem written_withSegment {e : Entry k.Record} {s : Segment k.Record}
    (h : Segment.Written e (c.segment k) s) :
    Written k e c (c.withSegment k s) where
  self := by
    unfold slot?
    rw [segment_withSegment, h.find?, if_pos rfl]
  other j key hne := by
    unfold slot?
    by_cases hj : j = k
    · subst hj
      rw [segment_withSegment, h.find?, if_neg fun hkey => hne ⟨rfl, hkey.symm⟩]
    · rw [segment_withSegment_ne c s hj]
  limit j := by
    by_cases hj : j = k
    · subst hj
      rw [segment_withSegment, h.limit]
    · rw [segment_withSegment_ne c s hj]
  ttl j := by
    by_cases hj : j = k
    · subst hj
      rw [segment_withSegment, h.ttl]
    · rw [segment_withSegment_ne c s hj]
  persistent := isPersistent_withSegment c k s

/-- **A write** puts its entry under its key. -/
theorem insert_written (h : c.Unlimited) {e : Entity} (hk : e.key ≠ "") (r : e.Record) (now : Instant) :
    Written e.kind ⟨e.key, r, (c.segment e.kind).expiryFrom now⟩ c (c.insert e r now) :=
  written_withSegment (Segment.insert_written (h e.kind) hk r now)

/-- The empty key is not written. -/
theorem insert_idle {e : Entity} (hk : e.key = "") (r : e.Record) (now : Instant) : c.insert e r now = c := by
  have hinsert : (c.segment e.kind).insert e.key r now = c.segment e.kind := dif_pos hk
  unfold insert
  rw [hinsert, withSegment_segment]

/-- **A conditional write** puts its entry under a key that has no live one. -/
theorem insertUnlessLive_written (h : c.Unlimited) (hk : key ≠ "") (hdead : (c.segment k).live? key now = none)
    (r : k.Record) : (c.insertUnlessLive k key r now).1 = true ∧
      Written k ⟨key, r, (c.segment k).expiryFrom now⟩ c (c.insertUnlessLive k key r now).2 := by
  obtain ⟨hflag, hwritten⟩ := Segment.insertUnlessLive_written (h k) hk hdead r
  exact ⟨hflag, written_withSegment hwritten⟩

/-- It does nothing where there is a live one. -/
theorem insertUnlessLive_idle (h : key = "" ∨ ((c.segment k).live? key now).isSome = true) (r : k.Record) :
    c.insertUnlessLive k key r now = (false, c) := by
  unfold insertUnlessLive
  rw [Segment.insertUnlessLive_idle h]
  exact Prod.ext rfl (withSegment_segment c k)

end Cache

end Roster
