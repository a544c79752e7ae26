import Mathlib.Data.List.Basic
import Roster.Proofs.Backfill.Paging

/-!
# Where the pages of a group begin and end

Which pages a group of members is cut into, told page by page from the cap and the number of members alone.

* `BackfillSettings.limitAt`, `pageAt`, `cursorAt`, `pageCount` — the limit, the members and the cursor of a
  page, counted from zero, and how many pages there are.
* `BackfillSettings.firstOf` — the members that are paged through.
* `limitAt_eq`, `full_page`, `last_page` — where the paging goes on, and why it ends.
* `BackfillSettings.flatMap_pageAt` — **the pages put end to end** are these members.
* `Directory.behind_cursorAt` — behind the cursor of a page lies what the pages before it left.
-/

set_option autoImplicit false

namespace Roster

namespace BackfillSettings

variable (s : BackfillSettings) (ms : List Member)

/-- The most members that a page is asked for. -/
def limitAt (k : Nat) : Nat :=
  if s.memberCap = 0 then maxPageSize else min (s.memberCap - maxPageSize * k) maxPageSize

/-- The members of a page. -/
def pageAt (k : Nat) : List Member := (ms.drop (maxPageSize * k)).take (s.limitAt k)

/-- Where a page begins: at the start, or behind the last member of the page before. -/
def cursorAt : Nat → Option String
  | 0 => none
  | k + 1 => (s.pageAt ms k).getLast?.map Member.userId

/-- The number of pages of a group with so many members.  A group that has no more members than the cap ends
with a page that is short or empty. -/
def pageCount (n : Nat) : Nat :=
  if 0 < s.memberCap ∧ s.memberCap ≤ n then (s.memberCap + (maxPageSize - 1)) / maxPageSize
  else n / maxPageSize + 1

/-- The members that are paged through: all, or the first ones up to the cap. -/
def firstOf : List Member := if s.memberCap = 0 then ms else ms.take s.memberCap

theorem length_firstOf :
    (s.firstOf ms).length = if s.memberCap = 0 then ms.length else min s.memberCap ms.length := by
  unfold firstOf
  split
  · rfl
  · exact List.length_take

theorem pageCount_pos (n : Nat) : 0 < s.pageCount n := by
  unfold pageCount
  simp only [maxPageSize]
  split <;> omega

/-! ## One page after the other -/

variable {s} {ms} {k n : Nat}

/-- The limit of a page is what the cap leaves over.  Without a cap that is never short, for a list in memory
has fewer than 2 ^ 63 members. -/
theorem limitAt_eq (hn : s.memberCap = 0 → n < 2 ^ 63) (hk : k < s.pageCount n) :
    maxPageSize * k < s.cap ∧ s.limitAt k = min (s.cap - maxPageSize * k) maxPageSize := by
  unfold pageCount at hk
  unfold limitAt cap
  simp only [maxPageSize] at hk ⊢
  by_cases hcap : s.memberCap = 0
  · have hn := hn hcap
    simp only [hcap, Nat.lt_irrefl, false_and, if_false, if_true] at hk ⊢
    omega
  · rw [if_neg hcap, if_neg hcap]
    refine ⟨?_, rfl⟩
    split at hk <;> omega

/-- A page with another one behind it is full. -/
theorem full_page (hk : k + 1 < s.pageCount n) : s.limitAt k = maxPageSize ∧ maxPageSize * (k + 1) ≤ n := by
  unfold pageCount at hk
  unfold limitAt
  simp only [maxPageSize] at hk ⊢
  split at hk
  · rename_i hcap
    rw [if_neg (by omega)]
    omega
  · split <;> omega

/-- The last page is short, as the cap is not reached, or it reaches the cap. -/
theorem last_page (hk : k + 1 = s.pageCount n) :
    (s.memberCap = 0 ∨ n < s.memberCap) ∧ n < maxPageSize * k + s.limitAt k ∨
      maxPageSize * k + s.limitAt k = s.memberCap := by
  unfold pageCount at hk
  unfold limitAt
  simp only [maxPageSize] at hk ⊢
  split at hk
  · rename_i hcap
    rw [if_neg (by omega)]
    omega
  · split <;> omega

theorem length_pageAt (s : BackfillSettings) (ms : List Member) (k : Nat) :
    (s.pageAt ms k).length = min (s.limitAt k) (ms.length - maxPageSize * k) := by
  rw [pageAt, List.length_take, List.length_drop]

theorem limitAt_pos (hn : s.memberCap = 0 → n < 2 ^ 63) (hk : k < s.pageCount n) : 0 < s.limitAt k := by
  obtain ⟨hcap, hlimit⟩ := limitAt_eq hn hk
  rw [hlimit]
  exact Nat.lt_min.2 ⟨Nat.sub_pos_of_lt hcap, by decide⟩

/-- A last page that is not short reaches the cap. -/
theorem reaches_cap (hn : s.memberCap = 0 → ms.length < 2 ^ 63) (hk : k + 1 = s.pageCount ms.length)
    (hfull : ¬(s.pageAt ms k).length < s.limitAt k) : s.cap ≤ maxPageSize * k + (s.pageAt ms k).length := by
  have hpos := limitAt_pos hn (k := k) (by omega)
  have hlength := length_pageAt s ms k
  rcases last_page hk with ⟨-, hshort⟩ | hreached
  · omega
  · have hcap : s.cap = s.memberCap := if_neg (by omega)
    omega

/-- Pages that are full, put end to end. -/
theorem flatMap_full (hk : k < s.pageCount ms.length) :
    (List.range k).flatMap (s.pageAt ms) = ms.take (maxPageSize * k) := by
  induction k with
  | zero => simp
  | succ k ih =>
    have hlimit := (full_page hk).1
    rw [List.range_succ, List.flatMap_append, ih (by omega), List.flatMap_singleton, pageAt,
      hlimit, ← List.take_add, Nat.mul_succ]

/-- **The pages put end to end** are the members that are paged through. -/
theorem flatMap_pageAt (s : BackfillSettings) (ms : List Member) :
    (List.range (s.pageCount ms.length)).flatMap (s.pageAt ms) = s.firstOf ms := by
  obtain ⟨k, hk⟩ := Nat.exists_eq_add_of_lt (s.pageCount_pos ms.length)
  have hk : k + 1 = s.pageCount ms.length := by omega
  rw [← hk, List.range_succ, List.flatMap_append, flatMap_full (by omega), List.flatMap_singleton, pageAt,
    ← List.take_add]
  unfold firstOf
  rcases last_page hk with ⟨hcap, hshort⟩ | hreached
  · rw [List.take_of_length_le (by omega)]
    split
    · rfl
    · rename_i hne
      exact (List.take_of_length_le (by omega)).symm
  · rw [hreached]
    split
    · rename_i hcap
      have hlimit : s.limitAt k = maxPageSize := if_pos hcap
      simp only [maxPageSize] at hlimit hreached
      omega
    · rfl

-- A cap that is one beyond a page boundary: the third page is asked for a single member.
example :
    let s : BackfillSettings := { standard with memberCap := 2001 }
    s.pageCount 5000 = 3 ∧ (List.range 3).map s.limitAt = [1000, 1000, 1] ∧ s.pageCount 2000 = 3 := by
  decide

end BackfillSettings

/-- **Behind the cursor of a page** lies what the pages before it left. -/
theorem Directory.behind_cursorAt {d : Directory} {groupId : String} {s : BackfillSettings} {k : Nat}
    (h : d.Distinct groupId) (hk : k < s.pageCount (d.membersOf groupId).length) :
    d.behind groupId (s.cursorAt (d.membersOf groupId) k) = (d.membersOf groupId).drop (maxPageSize * k) := by
  induction k with
  | zero => exact Directory.behind_none
  | succ k ih =>
    obtain ⟨hlimit, hn⟩ := BackfillSettings.full_page hk
    have hsplit : d.behind groupId (s.cursorAt (d.membersOf groupId) k) =
        s.pageAt (d.membersOf groupId) k ++ (d.membersOf groupId).drop (maxPageSize * (k + 1)) := by
      rw [ih (by omega), BackfillSettings.pageAt, hlimit, Nat.mul_succ, ← List.drop_drop, List.take_append_drop]
    have hpage : s.pageAt (d.membersOf groupId) k ≠ [] := by
      apply List.ne_nil_of_length_pos
      rw [BackfillSettings.length_pageAt, hlimit]
      simp only [maxPageSize] at hn ⊢
      omega
    rw [BackfillSettings.cursorAt, List.getLast?_eq_some_getLast hpage]
    exact Directory.behind_getLast h hsplit hpage

end Roster
