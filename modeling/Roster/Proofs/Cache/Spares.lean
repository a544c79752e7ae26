import Roster.Proofs.Segment.Sweeping
import Roster.Proofs.World.Reloaded

/-!
# What a cache keeps while records come in

Without a limit a record that comes in takes the place of the entry under its key and of no other.

* `Segment.Spares` — the entries that pass a test are still there, as they were and in their order.
* `Segment.spares_toFront`, `spares_insert`, `spares_insertUnlessLive`, `spares_restoreRows` —
  **a write spares** what it does not replace; a conditional write every live entry, and rows
  that are put back all that is there.
* `Entry.lasts` — a live entry at an instant, an empty role list apart.
* `Cache.Spares` — each segment without a limit spares those.  `Cache.spares_reload`: a
  reload does, from any store.
-/

set_option autoImplicit false

namespace Roster

namespace Segment

variable {α : Type} {p : Entry α → Bool} {s s' s'' : Segment α} {key : String} {now : Instant}

/-- The entries that pass a test are still there, as they were and in their order. -/
structure Spares (p : Entry α → Bool) (s s' : Segment α) : Prop where
  kept : (s.entries.list.filter p).Sublist s'.entries.list
  limit : s'.limit = s.limit

theorem Spares.refl (p : Entry α → Bool) (s : Segment α) : Spares p s s := ⟨List.filter_sublist, rfl⟩

theorem Spares.trans (h : Spares p s s') (h' : Spares p s' s'') : Spares p s s'' := by
  refine ⟨?_, h'.limit.trans h.limit⟩
  have hkept := h.kept.filter p
  rw [List.filter_filter] at hkept
  simp only [Bool.and_self] at hkept
  exact hkept.trans h'.kept

theorem Spares.mem (h : Spares p s s') {e : Entry α} (he : e ∈ s.entries.list) (hp : p e = true) :
    e ∈ s'.entries.list := h.kept.subset (List.mem_filter.2 ⟨he, hp⟩)

/-- What fails the test may leave. -/
theorem spares_without (hp : ∀ a, s.find? key = some a → p a = false) : Spares p s (s.without key) := by
  refine ⟨?_, rfl⟩
  have hkept : s.entries.list.filter p = (s.entries.list.filter fun a => a.key ≠ key).filter p := by
    rw [List.filter_filter]
    refine List.filter_congr ?_
    intro a ha
    by_cases hkey : a.key = key
    · have hfails := hp a (Entries.find?_eq_some_iff.2 ⟨ha, hkey⟩)
      simp [hfails]
    · simp [hkey]
  show (s.entries.list.filter p).Sublist (s.entries.without key).list
  rw [hkept, Entries.list_without]
  exact List.filter_sublist

/-- An entry comes to the front over one that fails the test. -/
theorem spares_toFront {e : Entry α} (h : e.key ≠ "") (hp : ∀ a, s.find? e.key = some a → p a = false) :
    Spares p s (s.toFront e h) :=
  ⟨(spares_without hp).kept.trans (List.sublist_cons_self _ _), rfl⟩

/-- **A write** spares what is under other keys. -/
theorem spares_insert (hlimit : s.limit = 0) (hp : ∀ a, s.find? key = some a → p a = false) (value : α)
    (now : Instant) : Spares p s (s.insert key value now) := by
  by_cases hk : key = ""
  · have hidle : s.insert key value now = s := dif_pos hk
    rw [hidle]
    exact .refl p s
  · obtain ⟨size, hinsert⟩ := insertUntil_of_unlimited hlimit hk value (s.expiryFrom now)
    have hinsert : s.insert key value now = _ := hinsert
    have hfront : Spares p s (s.toFront ⟨key, value, s.expiryFrom now⟩ hk) := spares_toFront hk hp
    rw [hinsert]
    exact ⟨hfront.kept, hfront.limit⟩

/-- **A write unless live** spares what is live. -/
theorem spares_insertUnlessLive (hlimit : s.limit = 0)
    (hp : ∀ a : Entry α, a.hasExpired now = true → p a = false)
    (key : String) (value : α) : Spares p s (s.insertUnlessLive key value now).2 := by
  by_cases hk : key = ""
  · rw [insertUnlessLive_idle (.inl hk)]
    exact .refl p s
  cases hlive : s.live? key now with
  | some e =>
    rw [insertUnlessLive_of_live hlive]
    exact .refl p s
  | none =>
    obtain ⟨size, hinsert⟩ := insertUnlessLive_of_unlimited hlimit hlive hk value
    have hout : Spares p s (s.without key) :=
      spares_without fun a ha => hp a (hasExpired_of_live?_none hlive ha)
    have hin : Spares p (s.without key) ((s.without key).toFront ⟨key, value, s.expiryFrom now⟩ hk) := by
      refine spares_toFront hk fun a ha => ?_
      rw [find?_without, if_pos rfl] at ha
      cases ha
    rw [hinsert]
    exact ⟨(hout.trans hin).kept, rfl⟩

/-- **Rows that are put back** come in before what is there. -/
theorem spares_restoreRows {k : Kind} (p : Entry k.Record → Bool) (s : Segment k.Record)
    (rows : List SavedEntry) :
    Spares p s (s.restoreRows rows).2 := by
  refine List.foldlRecOn (motive := fun acc : Nat × Segment k.Record => Spares p s acc.2) rows
    restoreRow (.refl p s) ?_
  intro acc hacc row _
  refine hacc.trans ⟨?_, ?_⟩
  · rw [list_restoreRow]
    exact List.filter_sublist.trans (List.sublist_append_right _ _)
  · rw [restoreRow_keeps]

end Segment

/-- A record that counts when it is found in the cache: any but an empty role list. -/
def Kind.counts : (k : Kind) → k.Record → Bool
  | .roles, l => !l.isEmpty
  | .member, _ => true
  | .group, _ => true
  | .channel, _ => true

/-- An entry is live at an instant, and its record counts. -/
def Entry.lasts {k : Kind} (time : Instant) (e : Entry k.Record) : Bool :=
  !e.hasExpired time && k.counts e.value

/-- What has expired before does not last. -/
theorem Entry.lasts_of_expired {k : Kind} {now time : Instant} (hle : now ≤ time) {e : Entry k.Record}
    (h : e.hasExpired now = true) : e.lasts time = false := by
  unfold lasts
  rw [hasExpired_mono hle h]
  rfl

namespace Cache

variable {time now : Instant} {c c' c'' : Cache} {k : Kind}

/-- In each segment without a limit the entries that last until an instant stay, as
they are and in their order. -/
def Spares (time : Instant) (c c' : Cache) : Prop :=
  ∀ k, (c.segment k).limit = 0 → Segment.Spares (Entry.lasts time) (c.segment k) (c'.segment k)

theorem Spares.refl (time : Instant) (c : Cache) : Spares time c c := fun _ _ => .refl _ _

theorem Spares.trans (h : Spares time c c') (h' : Spares time c' c'') : Spares time c c'' := by
  intro k hlimit
  have hfirst := h k hlimit
  exact hfirst.trans (h' k (hfirst.limit.trans hlimit))

theorem spares_withSegment {s : Segment k.Record}
    (h : (c.segment k).limit = 0 → Segment.Spares (Entry.lasts time) (c.segment k) s) :
    Spares time c (c.withSegment k s) := by
  intro j hlimit
  by_cases hj : j = k
  · subst hj
    rw [segment_withSegment]
    exact h hlimit
  · rw [segment_withSegment_ne c s hj]
    exact .refl _ _

/-- A record that is written unless a live one is there. -/
theorem spares_insertUnlessLive (hle : now ≤ time) (c : Cache) (key : String) (r : k.Record) :
    Spares time c (c.insertUnlessLive k key r now).2 := by
  refine spares_withSegment fun hlimit => ?_
  exact Segment.spares_insertUnlessLive hlimit (fun _ ha => Entry.lasts_of_expired hle ha) key r

/-- **A reload** puts what it brings before what is there, whatever the store answers. -/
theorem spares_reload {τ : Type} [Store τ] (time : Instant) (c : Cache) (st : τ) :
    Spares time c (c.reload st).2.1 := by
  unfold reload
  split
  · refine List.foldlRecOn (motive := fun acc : Reload × Cache × τ => Spares time c acc.2.1) Kind.all reloadKind
      (.refl time c) ?_
    intro acc hacc k _
    refine hacc.trans ?_
    unfold reloadKind
    dsimp only
    split
    · exact .refl time _
    · exact spares_withSegment fun _ => Segment.spares_restoreRows _ _ _
  · exact .refl time c

end Cache

end Roster
