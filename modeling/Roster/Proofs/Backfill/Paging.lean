import Roster.Proofs.Backfill.Plan

/-!
# Pages of members

A page starts behind the last user id of the page before it, so the pages of a group cover its members in order.

* `Directory.behind` — the members of a group behind a user id.
* `Directory.behind_getLast` — what lies behind the last member of a page is what the page left.
* `Directory.pageErrands_covers` — **every member up to the cap is in a page.**
* `Errand.Works`, `Directory.errands_work` — no errand of a healthy group is refused.
-/

set_option autoImplicit false

namespace Roster

namespace Directory

variable {d : Directory} {groupId : String} {after : Option String}

/-- No two members of a group have one user id. -/
def Distinct (d : Directory) (groupId : String) : Prop := ((d.membersOf groupId).map Member.userId).Nodup

/-- Memberships with distinct ids have distinct user ids within a group. -/
theorem distinct_of_nodup (h : (d.members.map Member.id).Nodup) (groupId : String) : d.Distinct groupId := by
  have hperm := List.mergeSort_perm (d.members.filter fun m => m.groupId = groupId)
    fun a b => decide (a.userId ≤ b.userId)
  have hids := (List.pairwise_map.1 h).filter fun m => m.groupId = groupId
  refine ((hperm.map Member.userId).nodup_iff).2 (List.pairwise_map.2 (hids.imp_of_mem ?_))
  intro a b ha hb hne huser
  refine hne ?_
  rw [Member.id, Member.id, of_decide_eq_true (List.mem_filter.1 ha).2,
    of_decide_eq_true (List.mem_filter.1 hb).2, huser]

/-- The members of a group behind a user id. -/
def behind (d : Directory) (groupId : String) (after : Option String) : List Member :=
  (d.membersOf groupId).filter fun m => after.all fun cursor => decide (cursor < m.userId)

theorem behind_none : d.behind groupId none = d.membersOf groupId := List.filter_eq_self.2 fun _ _ => rfl

theorem answer_members (hworks : groupId ∉ d.failingGroups) (limit : Nat) :
    d.answer (.members groupId after limit) = .ok ((d.behind groupId after).take (min limit maxPageSize)) :=
  if_neg hworks

/-- The members of a group ascend by their user ids. -/
theorem membersOf_ascending (h : d.Distinct groupId) :
    (d.membersOf groupId).Pairwise fun a b => a.userId < b.userId := by
  have hsorted : (d.membersOf groupId).Pairwise fun a b => decide (a.userId ≤ b.userId) = true := by
    refine List.pairwise_mergeSort (fun a b c hab hbc => ?_) (fun a b => ?_) _
    · exact decide_eq_true (String.le_trans (of_decide_eq_true hab) (of_decide_eq_true hbc))
    · rw [Bool.or_eq_true, decide_eq_true_iff, decide_eq_true_iff]
      exact String.le_total a.userId b.userId
  have hdistinct := List.pairwise_map.1 h
  refine (hsorted.and hdistinct).imp ?_
  rintro a b ⟨hle, hne⟩
  exact Std.lt_of_le_of_ne (of_decide_eq_true hle) hne

/-- **What lies behind the last member of a page** is what the page left. -/
theorem behind_getLast (h : d.Distinct groupId) {page rest : List Member}
    (hsplit : d.behind groupId after = page ++ rest) (hpage : page ≠ []) :
    d.behind groupId (some (page.getLast hpage).userId) = rest := by
  have hascending : (page ++ rest).Pairwise fun a b => a.userId < b.userId := by
    rw [← hsplit]
    exact (membersOf_ascending h).filter _
  obtain ⟨hinpage, -, hacross⟩ := List.pairwise_append.1 hascending
  have hlast : page.getLast hpage ∈ d.behind groupId after := by
    rw [hsplit]
    exact List.mem_append_left rest (List.getLast_mem hpage)
  have hcursor := (List.mem_filter.1 hlast).2
  -- The cursor only moves on, so it may as well be applied to what lies behind the one before.
  have hnarrow : d.behind groupId (some (page.getLast hpage).userId) =
      (page ++ rest).filter fun m => decide ((page.getLast hpage).userId < m.userId) := by
    rw [← hsplit, behind, behind, List.filter_filter]
    refine List.filter_congr fun m _ => ?_
    cases after with
    | none => exact (Bool.and_true _).symm
    | some cursor =>
      have hcursor : cursor < (page.getLast hpage).userId := of_decide_eq_true hcursor
      show decide _ = (decide _ && decide _)
      rw [Bool.eq_iff_iff, Bool.and_eq_true, decide_eq_true_iff, decide_eq_true_iff]
      exact ⟨fun hlt => ⟨hlt, String.lt_trans hcursor hlt⟩, And.left⟩
  have hbefore : ∀ m ∈ page, ¬(page.getLast hpage).userId < m.userId := by
    intro m hm hlt
    rw [← List.dropLast_append_getLast hpage, List.mem_append, List.mem_singleton] at hm
    rcases hm with hm | rfl
    · have hbelow := hinpage
      rw [← List.dropLast_append_getLast hpage, List.pairwise_append] at hbelow
      exact String.lt_irrefl _ (String.lt_trans hlt (hbelow.2.2 m hm _ List.mem_cons_self))
    · exact String.lt_irrefl _ hlt
  rw [hnarrow, List.filter_append, List.filter_eq_nil_iff.2 fun m hm => by simpa using hbefore m hm,
    List.nil_append]
  refine List.filter_eq_self.2 fun m hm => decide_eq_true ?_
  exact hacross _ (List.getLast_mem hpage) m hm

/-- A page is what lies behind its cursor, up to its limit. -/
theorem page_of_answer (hworks : groupId ∉ d.failingGroups) {n : Nat} {page : List Member}
    (hanswer : d.answer (.members groupId after (min n maxPageSize)) = .ok page) :
    page = (d.behind groupId after).take (min n maxPageSize) := by
  rw [answer_members hworks, Nat.min_assoc, Nat.min_self] at hanswer
  exact (Except.ok.inj hanswer).symm

/-- **Every member up to the cap is in a page.**  The induction follows the pages; each takes its members off
what lies behind the cursor. -/
theorem pageErrands_covers (hworks : groupId ∉ d.failingGroups) (h : d.Distinct groupId) (cap : Nat)
    (after : Option String) (fetched : Nat) : ∀ m ∈ (d.behind groupId after).take (cap - fetched),
      ∀ e ∈ memberErrands m, e ∈ d.pageErrands groupId cap after fetched := by
  fun_induction Directory.pageErrands d groupId cap after fetched with
  | case1 after fetched hcap limit asking err hanswer =>
    rw [answer_members hworks] at hanswer
    cases hanswer
  | case2 after fetched hcap limit asking hanswer =>
    have hnone : d.behind groupId after = [] := by
      have hpage := page_of_answer hworks hanswer
      have hpos : 0 < min (cap - fetched) maxPageSize := Nat.lt_min.2 ⟨Nat.sub_pos_of_lt hcap, by decide⟩
      rw [eq_comm, List.take_eq_nil_iff] at hpage
      exact hpage.resolve_left (Nat.pos_iff_ne_zero.1 hpos)
    rw [hnone, List.take_nil]
    exact fun m hm => absurd hm List.not_mem_nil
  | case3 after fetched hcap limit asking m rest hanswer page hshort =>
    have hpage : page = (d.behind groupId after).take limit := page_of_answer hworks hanswer
    have hall : d.behind groupId after = page := by
      rw [hpage, List.length_take] at hshort
      rw [hpage, List.take_of_length_le (by omega)]
    intro m' hm' e he
    rw [hall] at hm'
    exact List.mem_cons_of_mem _ (List.mem_flatMap.2 ⟨m', List.mem_of_mem_take hm', he⟩)
  | case4 after fetched hcap limit asking m rest hanswer page hfull ih =>
    have hpage : page = (d.behind groupId after).take limit := page_of_answer hworks hanswer
    have hsplit : d.behind groupId after = page ++ (d.behind groupId after).drop limit := by
      rw [hpage, List.take_append_drop]
    rw [behind_getLast h hsplit] at ih
    intro m' hm' e he
    rw [hsplit, List.take_append, List.mem_append, Nat.sub_sub] at hm'
    rcases hm' with hm' | hm'
    · exact List.mem_cons_of_mem _
        (List.mem_append_left _ (List.mem_flatMap.2 ⟨m', List.mem_of_mem_take hm', he⟩))
    · exact List.mem_cons_of_mem _ (List.mem_append_right _ (ih m' hm' e he))
  | case5 after fetched hcap =>
    rw [Nat.sub_eq_zero_of_le (Nat.le_of_not_lt hcap), List.take_zero]
    exact fun m hm => absurd hm List.not_mem_nil

end Directory

/-! ## Healthy groups -/

/-- An errand that the platform does not refuse. -/
def Errand.Works (d : Directory) : Errand → Prop
  | .record g => ∃ group, d.answer (.group g) = .ok group
  | .roles g => ∃ roles, d.answer (.roles g) = .ok roles
  | .ask q => (d.answer q).isOk = true
  | .cache _ _ _ => True
  | .note _ => True

namespace Directory

/-- A group that does not fail and has a record. -/
structure Healthy (d : Directory) (groupId : String) : Prop where
  works : groupId ∉ d.failingGroups
  known : ∃ group ∈ d.groups, group.id = groupId

variable {d : Directory} {groupId : String}

theorem memberErrands_work {m : Member} : ∀ e ∈ memberErrands m, e.Works d := by
  intro e he
  rw [memberErrands, List.mem_cons, List.mem_singleton] at he
  rcases he with rfl | rfl <;> trivial

theorem pageErrands_work (hworks : groupId ∉ d.failingGroups) (cap : Nat) (after : Option String)
    (fetched : Nat) :
    ∀ e ∈ d.pageErrands groupId cap after fetched, e.Works d := by
  intro e he
  rcases mem_pageErrands e he with ⟨after, limit, rfl⟩ | ⟨m, -, hm⟩
  · show (d.answer (.members groupId after limit)).isOk = true
    rw [answer_members hworks]
    rfl
  · exact memberErrands_work e hm

/-- **No errand of a healthy group is refused.** -/
theorem Healthy.errands_work (h : d.Healthy groupId) (settings : BackfillSettings) :
    ∀ e ∈ d.errands settings groupId, e.Works d := by
  have hrecord : (Errand.record groupId).Works d := by
    obtain ⟨group, hgroup, hid⟩ := h.known
    cases hfound : d.groups.find? fun g => g.id = groupId with
    | none => exact absurd (decide_eq_true hid) (List.find?_eq_none.1 hfound group hgroup)
    | some found => exact ⟨found, ofGroup_eq_ok.2 ⟨h.works, found_eq_ok.2 hfound⟩⟩
  have hroles : (Errand.roles groupId).Works d := ⟨_, ofGroup_eq_ok.2 ⟨h.works, rfl⟩⟩
  refine forall_mem_errands hrecord hroles ?_ (pageErrands_work h.works _ _ _)
  intro e he
  rcases mem_channelErrands e he with rfl | ⟨c, -, -, rfl⟩
  · have hanswer : d.answer (.channels groupId) = .ok _ := if_neg h.works
    show (d.answer (.channels groupId)).isOk = true
    rw [hanswer]
    rfl
  · trivial

end Directory

end Roster
