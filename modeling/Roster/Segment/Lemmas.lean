import Roster.Segment.Basic

/-!
# Laws of a segment

What the operations on a segment do to a lookup, and to the number of entries.

* `Segment.find?_insertUntil_self`, `find?_erase`, `find?_sweep` — the lookup after a write and after the
  removals.
* `Segment.size_keepRecent_add_evictions`, `sweep_add_size` — an entry that leaves is counted.
* `Segment.size_withRoom_lt` — there is room for one more entry after room was made.
-/

set_option autoImplicit false

namespace Roster.Segment

variable {α : Type}

/-! ## Lookups -/

theorem find?_empty_key (s : Segment α) : s.find? "" = none := s.entries.find?_empty_key

theorem find?_without (s : Segment α) (key key' : String) :
    (s.without key).find? key' = if key = key' then none else s.find? key' :=
  s.entries.find?_without key key'

theorem find?_toFront (s : Segment α) (e : Entry α) (h : e.key ≠ "") (key : String) :
    (s.toFront e h).find? key = if e.key = key then some e else s.find? key :=
  s.entries.find?_toFront e h key

theorem find?_insertUntil_self (s : Segment α) {key : String} (h : key ≠ "") (value : α)
    (expiresAt : Option Instant) :
    (s.insertUntil key value expiresAt).find? key = some ⟨key, value, expiresAt⟩ := by
  unfold insertUntil
  rw [dif_neg h]
  split
  all_goals exact (find?_toFront _ _ h key).trans (if_pos rfl)

theorem find?_erase (s : Segment α) (key key' : String) :
    (s.erase key).2.find? key' = if key = key' then none else s.find? key' :=
  s.find?_without key key'

theorem find?_clear (s : Segment α) (key : String) : s.clear.find? key = none := rfl

theorem find?_sweep (s : Segment α) (time : Instant) (key : String) :
    (s.sweep time).2.find? key = (s.find? key).filter fun e => !e.hasExpired time :=
  s.entries.find?_keep _ key

/-- A read of the empty key is a miss. -/
theorem get_empty_key (s : Segment α) (now : Instant) : s.get "" now = (none, s.miss) := by
  unfold get
  split
  · rfl
  · rename_i e he
    simp [find?_empty_key] at he

/-! ## Counts -/

theorem entries_size_keepRecent (s : Segment α) (n : Nat) :
    (s.keepRecent n).entries.size = min n s.entries.size := List.length_take

/-- What has to make room is counted as evicted. -/
theorem size_keepRecent_add_evictions (s : Segment α) (n : Nat) :
    (s.keepRecent n).entries.size + (s.keepRecent n).evictions = s.entries.size + s.evictions := by
  rw [entries_size_keepRecent]
  show min n s.entries.size + (s.evictions + (s.entries.size - n)) = s.entries.size + s.evictions
  omega

theorem size_withRoom_lt {s : Segment α} (h : 0 < s.limit) : s.withRoom.entries.size < s.limit := by
  unfold withRoom
  split
  · rename_i hs
    exact hs.resolve_left (Nat.ne_of_gt h)
  · rw [entries_size_keepRecent]
    show min (s.limit - 1) s.entries.size < s.limit
    omega

theorem size_withLimit_le (s : Segment α) {limit : Nat} (h : 0 < limit) :
    (s.withLimit limit).entries.size ≤ limit := by
  unfold withLimit
  simp only [Nat.ne_of_gt h, if_false]
  show (keepRecent _ limit).entries.size ≤ limit
  rw [entries_size_keepRecent]
  exact Nat.min_le_left _ _

/-- A sweep splits the entries: what it removes and what it leaves make up the whole. -/
theorem sweep_add_size (s : Segment α) (time : Instant) :
    (s.sweep time).1 + (s.sweep time).2.size = s.entries.size := by
  show (s.entries.list.filter fun e => e.hasExpired time).length
      + (s.entries.list.filter fun e => !e.hasExpired time).length = s.entries.list.length
  rw [← List.countP_eq_length_filter, ← List.countP_eq_length_filter]
  have h := List.length_eq_countP_add_countP (fun e : Entry α => e.hasExpired time)
    (l := s.entries.list)
  simpa using h.symm

end Roster.Segment
