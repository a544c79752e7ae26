import Mathlib.Algebra.GroupWithZero.Nat
import Roster.Proofs.Backfill.Again
import Roster.Proofs.Backfill.Paging

/-!
# What a run fills in, whatever fails

* `Errand.refused`, `Backfill.refusals` — the errands that are refused; `Errand.act_errors`, `perform_errors`:
  **these and no others raise errors**.
* `Backfill.raised`, `raised_eq` — the errors of a run, group by group, and `runAll_counts`
  — what a run counts of them.
* `Backfill.refusedOf_groups` — a healthy group has no part in them, and one that fails always has.
* `Backfill.Filled` — all that there is of a group is cached, and the facts of its members are recorded.
* `Backfill.run_covers` — **a group that fails does not harm the others**.
-/

set_option autoImplicit false

namespace Roster

variable {ρ : Type} [Platform ρ] {d : Directory} {serving : ρ → Prop} {w : World ρ TableStore}

/-! ## Refused errands -/

/-- Whether an errand is refused when its turn comes: what it asks the platform for, or by a
store that takes no facts. -/
def Errand.refused (b : Backfill) (d : Directory) (w : World ρ TableStore) : Errand → Bool
  | .record g => !w.cache.groups.contains g w.now && !(d.answer (.group g)).isOk
  | .roles g => !Backfill.hasRoles w g && !(d.answer (.roles g)).isOk
  | .ask q => !(d.answer q).isOk
  | .cache _ _ _ => false
  | .note _ => b.recordsFacts && w.store.readOnly

omit [Platform ρ] in
/-- An errand that works is not refused, where facts can be written. -/
theorem Errand.Works.not_refused {b : Backfill} {e : Errand} (h : e.Works d)
    (hwritable : w.store.readOnly = false) :
    e.refused b d w = false := by
  cases e with
  | record g =>
    obtain ⟨group, hgroup⟩ := h
    rw [refused, hgroup]
    exact Bool.and_false _
  | roles g =>
    obtain ⟨roles, hroles⟩ := h
    rw [refused, hroles]
    exact Bool.and_false _
  | ask q => exact congrArg (!·) h
  | cache k key r => rfl
  | note m =>
    rw [refused, hwritable]
    exact Bool.and_false _

/-- **An errand raises an error exactly when it is refused.** -/
theorem Errand.act_errors (b : Backfill) (hs : d.Serves serving) (hw : w.Ready serving) (e : Errand) :
    (e.act b w).1.errors = (e.refused b d w).toNat := by
  have hcached (k : Kind) (n : Nat) : (BackfillReport.ofCached k n).errors = 0 := by
    cases k <;> rfl
  cases e with
  | record g =>
    rw [refused, Segment.contains]
    cases hlive : w.cache.groups.live? g w.now with
    | some e =>
      rw [act_record_idle b (Option.isSome_of_eq_some hlive)]
      rfl
    | none =>
      cases hanswer : d.answer (.group g) with
      | error err =>
        rw [act_record_refused b hs hw hlive hanswer]
        rfl
      | ok group =>
        rw [act_record_told b hs hw hlive hanswer]
        exact hcached .group _
  | roles g =>
    rw [refused]
    cases hlive : Backfill.hasRoles w g with
    | true =>
      rw [act_roles_idle b hlive]
      rfl
    | false =>
      cases hanswer : d.answer (.roles g) with
      | error err =>
        rw [act_roles_refused b hs hw hlive hanswer]
        rfl
      | ok roles =>
        rw [act_roles_told b hs hw hlive hanswer]
        rfl
  | ask q =>
    rw [act_ask b hs hw, refused]
    cases (d.answer q).isOk <;> rfl
  | cache k key r => exact hcached k _
  | note m =>
    rw [refused]
    cases hrecords : b.recordsFacts with
    | false =>
      rw [act_note_off b hrecords]
      rfl
    | true =>
      cases hrefused : w.store.readOnly with
      | true =>
        rw [act_note_refused b hrecords hrefused]
        rfl
      | false =>
        obtain ⟨store, hact, -⟩ := act_note_noted b (m := m) hrecords hrefused
        rw [hact]
        dsimp only [BackfillReport.ofFacts]
        split <;> rfl

namespace Backfill

variable (b : Backfill)

/-- How many errands are refused, each when its turn comes. -/
def refusals (d : Directory) : List Errand → World ρ TableStore → Nat
  | [], _ => 0
  | e :: es, w => (e.refused b d w).toNat + refusals d es (e.act b w).2

/-- Errands raise as many errors as are refused of them. -/
theorem perform_errors (hs : d.Serves serving) (hw : w.Ready serving) (es : List Errand) :
    (b.perform es w).1.errors = b.refusals d es w := by
  induction es generalizing w with
  | nil => rfl
  | cons e es ih =>
    show (e.act b w).1.errors + (b.perform es (e.act b w).2).1.errors = _
    rw [e.act_errors b hs hw, ih (e.act_grew b hs hw).2, refusals]

theorem refusals_eq_zero (hs : d.Serves serving) (hw : w.Ready serving) (hwritable : w.store.readOnly = false)
    {es : List Errand} (hworks : ∀ e ∈ es, e.Works d) : b.refusals d es w = 0 := by
  induction es generalizing w with
  | nil => rfl
  | cons e es ih =>
    obtain ⟨he, hes⟩ := List.forall_mem_cons.1 hworks
    obtain ⟨hgrew, hready⟩ := e.act_grew b hs hw
    rw [refusals, he.not_refused hwritable, ih hready (hgrew.store.readOnly.trans hwritable) hes]
    rfl

/-- An errand that is refused whatever comes before it is counted. -/
theorem refusals_pos {e : Errand} {es : List Errand} (he : e ∈ es)
    (hrefused : ∀ w : World ρ TableStore, e.refused b d w = true) (w : World ρ TableStore) :
    0 < b.refusals d es w := by
  induction es generalizing w with
  | nil => cases he
  | cons e' es ih =>
    rw [refusals]
    rcases List.mem_cons.1 he with rfl | he
    · rw [hrefused w]
      exact Nat.add_pos_left Nat.one_pos _
    · exact Nat.add_pos_right _ (ih he _)

/-- A group that fails has its list of channels refused, whatever is cached. -/
theorem refusals_of_failing (hchannels : b.settings.channels = true) {groupId : String}
    (hfails : groupId ∈ d.failingGroups) (w : World ρ TableStore) :
    0 < b.refusals d (d.errands b.settings groupId) w := by
  have hmem : Errand.ask (.channels groupId) ∈ d.errands b.settings groupId := by
    unfold Directory.errands
    rw [if_pos hchannels]
    exact List.mem_append_left _ (List.mem_append_right _ List.mem_cons_self)
  refine b.refusals_pos hmem (fun w => ?_) w
  have hanswer : d.answer (.channels groupId) = .error _ := if_pos hfails
  rw [Errand.refused, hanswer]
  rfl

/-! ## Errors group by group -/

/-- How many errors each group raises. -/
def raised : List String → BackfillReport × World ρ TableStore → List Nat
  | [], _ => []
  | groupId :: groupIds, acc =>
    ((b.runGroup acc groupId).1.errors - acc.1.errors) :: raised groupIds (b.runGroup acc groupId)

/-- How many errors each group of a run raises. -/
def raisedByRun (w : World ρ TableStore) : List Nat :=
  b.raised (b.groupIds w.reload.2) (w.reload.1.report, w.reload.2)

/-- How many errands of each group are refused. -/
def refusedOf (d : Directory) : List String → World ρ TableStore → List Nat
  | [], _ => []
  | groupId :: groupIds, w =>
    b.refusals d (d.errands b.settings groupId) w :: refusedOf d groupIds (b.visit d groupId w).2

theorem errors_visit (hs : d.Serves serving) (hw : w.Ready serving) (groupId : String) :
    (b.visit d groupId w).1.errors = b.refusals d (d.errands b.settings groupId) w :=
  b.perform_errors hs hw (d.errands b.settings groupId)

/-- **Each group raises as many errors as errands of it are refused.** -/
theorem raised_eq (hs : d.Serves serving) (hw : w.Ready serving) (groupIds : List String) (r : BackfillReport) :
    b.raised groupIds (r, w) = b.refusedOf d groupIds w := by
  induction groupIds generalizing r w with
  | nil => rfl
  | cons groupId groupIds ih =>
    rw [raised, refusedOf, b.runGroup_eq hs hw, ih (b.visit_grew hs hw groupId).2, ← b.errors_visit hs hw]
    exact congrArg (· :: _) (Nat.add_sub_cancel_left _ _)

theorem length_refusedOf (d : Directory) (groupIds : List String) (w : World ρ TableStore) :
    (b.refusedOf d groupIds w).length = groupIds.length := by
  induction groupIds generalizing w with
  | nil => rfl
  | cons groupId groupIds ih => exact congrArg (· + 1) (ih _)

/-- What walking groups counts. -/
structure Counted (groupIds : List String) (raised : List Nat) (r r' : BackfillReport) : Prop where
  processed : r'.groupsProcessed = r.groupsProcessed + groupIds.length
  failed : r'.groupsFailed = r.groupsFailed + raised.countP (0 < ·)
  errors : r'.errors = r.errors + raised.sum

/-- Each group adds its refused errands, and counts as failed when there are any. -/
theorem runAll_counts (hs : d.Serves serving) (hw : w.Ready serving) (groupIds : List String)
    (r : BackfillReport) :
    Counted groupIds (b.refusedOf d groupIds w) r (b.runAll groupIds (r, w)).1 := by
  induction groupIds generalizing r w with
  | nil => exact ⟨rfl, rfl, rfl⟩
  | cons groupId groupIds ih =>
    have hpart := b.perform_ofPart hs hw (d.errands b.settings groupId)
    have hready := (b.visit_grew hs hw groupId).2
    have herrs := b.errors_visit hs hw groupId
    obtain ⟨hprocessed, hfailed, herrors⟩ := ih hready (r + (b.visit d groupId w).1)
    rw [← b.runGroup_eq hs hw] at hprocessed hfailed herrors
    have hvisit : (b.visit d groupId w).1.groupsProcessed = 1 ∧
        (b.visit d groupId w).1.groupsFailed = if 0 < (b.visit d groupId w).1.errors then 1 else 0 := by
      constructor
      · show (b.perform (d.errands b.settings groupId) w).1.groupsProcessed + 1 = 1
        rw [hpart.processed]
      · show (b.perform (d.errands b.settings groupId) w).1.groupsFailed + _ = _
        rw [hpart.failed, Nat.zero_add]
        rfl
    refine ⟨?_, ?_, ?_⟩
    · refine hprocessed.trans ?_
      rw [BackfillReport.groupsProcessed_add, hvisit.1, List.length_cons]
      omega
    · refine hfailed.trans ?_
      rw [refusedOf, List.countP_cons, BackfillReport.groupsFailed_add, hvisit.2, herrs]
      simp only [decide_eq_true_iff]
      omega
    · refine herrors.trans ?_
      rw [refusedOf, List.sum_cons, BackfillReport.errors_add, herrs, Nat.add_assoc]

/-- Nothing is refused of a healthy group, wherever it stands in the list; of one that
fails something always is. -/
theorem refusedOf_groups (hs : d.Serves serving) (hw : w.Ready serving) (hwritable : w.store.readOnly = false)
    (hchannels : b.settings.channels = true) (groupIds : List String) :
    ∀ p ∈ groupIds.zip (b.refusedOf d groupIds w),
      (d.Healthy p.1 → p.2 = 0) ∧ (p.1 ∈ d.failingGroups → 0 < p.2) := by
  induction groupIds generalizing w with
  | nil => exact fun p hp => nomatch hp
  | cons groupId groupIds ih =>
    obtain ⟨hgrew, hready⟩ := b.visit_grew hs hw groupId
    intro p hp
    rw [refusedOf, List.zip_cons_cons, List.mem_cons] at hp
    rcases hp with rfl | hp
    · refine ⟨fun hhealthy => ?_, fun hfails => b.refusals_of_failing hchannels hfails w⟩
      exact b.refusals_eq_zero hs hw hwritable (hhealthy.errands_work b.settings)
    · exact ih hready (hgrew.store.readOnly.trans hwritable) p hp

/-! ## Runs -/

/-- The members of a group that are paged through: the first ones up to the cap. -/
def firstMembers (d : Directory) (groupId : String) : List Member := (d.membersOf groupId).take b.settings.cap

/-- All that there is of a group is cached, and the facts of its members are recorded. -/
structure Filled (d : Directory) (groupId : String) (w : World ρ TableStore) : Prop where
  group : groupId ∈ (w.cache.segment .group).keys
  roles : groupId ∈ (w.cache.segment .roles).keys
  channels : ∀ c ∈ d.channels, c.groupId = groupId → c.id ≠ "" → c.id ∈ (w.cache.segment .channel).keys
  members : ∀ m ∈ b.firstMembers d groupId, m.id.text ∈ (w.cache.segment .member).keys
  joins : ∀ m ∈ b.firstMembers d groupId, ∃ row, w.store.joins[m.id]? = some row
  memberRoles : ∀ m ∈ b.firstMembers d groupId, m.roleIds ≠ [] →
    ∃ row, w.store.roles[m.id]? = some row ∧ row.roleIds ≠ []

omit [Platform ρ] in
/-- A group of which nothing is left to do is filled in. -/
theorem filled_of_done (hsettings : b.settings.groups = true ∧ b.settings.roles = true ∧
      b.settings.channels = true ∧ b.settings.members = true)
    (hrecords : b.recordsFacts = true) (hwritable : w.store.readOnly = false) {groupId : String}
    (hid : groupId ≠ "") (hhealthy : d.Healthy groupId) (hdistinct : d.Distinct groupId)
    (hdone : ∀ e ∈ d.errands b.settings groupId, e.Done b d w) : b.Filled d groupId w := by
  obtain ⟨hgroups, hroles, hchannels, hmembers⟩ := hsettings
  have hplan : d.errands b.settings groupId =
      [.record groupId] ++ [.roles groupId] ++ d.channelErrands groupId ++
        d.pageErrands groupId b.settings.cap none 0 := by
    rw [Directory.errands, if_pos hgroups, if_pos hroles, if_pos hchannels, if_pos hmembers]
  have hworks := hhealthy.errands_work b.settings
  rw [hplan] at hdone hworks
  simp only [List.forall_mem_append, List.forall_mem_singleton] at hdone hworks
  obtain ⟨⟨⟨hrecord, hlist⟩, hcached⟩, hpaged⟩ := hdone
  obtain ⟨⟨⟨hknown, hlisted⟩, -⟩, -⟩ := hworks
  have hmember (m : Member) (hm : m ∈ b.firstMembers d groupId) :
      (Errand.note m).Done b d w ∧ (Errand.cache .member m.id.text m).Done b d w := by
    have hcovered := Directory.pageErrands_covers hhealthy.works hdistinct b.settings.cap none 0
    rw [Directory.behind_none, Nat.sub_zero] at hcovered
    exact ⟨hpaged _ (hcovered m hm _ List.mem_cons_self),
      hpaged _ (hcovered m hm _ (List.mem_cons_of_mem _ List.mem_cons_self))⟩
  have hfacts (m : Member) (hm : m ∈ b.firstMembers d groupId) :=
    TableStore.lacks_eq_false_iff.1 ((hmember m hm).1 hrecords hwritable)
  refine ⟨Segment.isSome_find?_iff.1 (hrecord hid hknown), Segment.isSome_find?_iff.1 (hlist hid hlisted),
    ?_, ?_, ?_, ?_⟩
  · intro c hc hgroup hne
    have hanswer : d.answer (.channels groupId) = .ok (d.channels.filter fun c => c.groupId = groupId) :=
      if_neg hhealthy.works
    rw [Directory.channelErrands, hanswer] at hcached
    have hin : Errand.cache .channel c.id c ∈
        (d.channels.filter fun c => c.groupId = groupId).map fun c => Errand.cache .channel c.id c :=
      List.mem_map.2 ⟨c, List.mem_filter.2 ⟨hc, decide_eq_true hgroup⟩, rfl⟩
    exact Segment.isSome_find?_iff.1 (hcached _ (List.mem_cons_of_mem _ hin) hne)
  · exact fun m hm => Segment.isSome_find?_iff.1 ((hmember m hm).2 (MemberId.text_ne_empty m.id))
  · exact fun m hm => Option.isSome_iff_exists.1 (hfacts m hm).1
  · intro m hm hroles
    have hrecorded := (hfacts m hm).2 hroles
    unfold TableStore.rolesOf at hrecorded
    cases hrow : w.store.roles[m.id]? with
    | none =>
      rw [hrow] at hrecorded
      exact absurd rfl hrecorded
    | some row =>
      rw [hrow] at hrecorded
      exact ⟨row, rfl, hrecorded⟩

/-- Without a cap on members all of them are paged through, as many as 64 bits can count. -/
theorem firstMembers_uncapped (hcap : b.settings.memberCap = 0) {groupId : String}
    (hlength : (d.membersOf groupId).length < 2 ^ 64) : b.firstMembers d groupId = d.membersOf groupId := by
  unfold firstMembers BackfillSettings.cap
  rw [if_pos hcap]
  exact List.take_of_length_le (by omega)

/-- **A group that fails does not harm the others.**  Every listed group is counted, and as failed when it
raised an error; the errors are those of the groups and of the reload, and those of a group are its refused
errands.  A group that fails raises some.  A healthy one raises none, and at the end all that there is of
it is cached and recorded. -/
theorem run_covers (hs : d.Serves serving) {w : World ρ TableStore} (hu : w.cache.Unlimited)
    (hp : serving w.platform) (hsettings : b.settings.groups = true ∧ b.settings.roles = true ∧
      b.settings.channels = true ∧ b.settings.members = true)
    (hrecords : b.recordsFacts = true) (hwritable : w.store.readOnly = false)
    (hids : ∀ groupId ∈ b.groupIds w, groupId ≠ "")
    (hdistinct : ∀ groupId ∈ b.groupIds w, d.Healthy groupId → d.Distinct groupId) :
    ((b.run w).1.groupsProcessed = (b.groupIds w).length ∧
      (b.raisedByRun w).length = (b.groupIds w).length ∧
      (b.run w).1.groupsFailed = (b.raisedByRun w).countP (0 < ·) ∧
      (b.run w).1.errors = w.reload.1.report.errors + (b.raisedByRun w).sum ∧
      b.raisedByRun w = b.refusedOf d (b.groupIds w) w.reload.2 ∧
      ∀ p ∈ (b.groupIds w).zip (b.raisedByRun w),
        (d.Healthy p.1 → p.2 = 0) ∧ (p.1 ∈ d.failingGroups → 0 < p.2)) ∧
    (∀ groupId ∈ b.groupIds w, d.Healthy groupId → b.Filled d groupId (b.run w).2) ∧
    (b.settings.memberCap = 0 → ∀ groupId, (d.membersOf groupId).length < 2 ^ 64 →
      b.firstMembers d groupId = d.membersOf groupId) := by
  have hready : w.reload.2.Ready serving := World.Ready.reloaded ⟨hu, hp⟩
  have hstart : w.reload.1.report.groupsProcessed = 0 ∧ w.reload.1.report.groupsFailed = 0 := by
    unfold Reload.report
    split <;> exact ⟨rfl, rfl⟩
  have hgroups : b.groupIds w.reload.2 = b.groupIds w := b.groupIds_grew w.reload_grew
  have hraised : b.raisedByRun w = b.refusedOf d (b.groupIds w) w.reload.2 := by
    rw [raisedByRun, hgroups, b.raised_eq hs hready]
  have hlast : b.upToLast w = b.runAll (b.groupIds w) (w.reload.1.report, w.reload.2) := by
    rw [upToLast, hgroups]
  obtain ⟨hprocessed, hfailed, herrors⟩ := b.runAll_counts hs hready (b.groupIds w) w.reload.1.report
  obtain ⟨hdone, hgrew, -, -⟩ := b.run_done hs (w := w) ⟨hu, hp⟩
  rw [← hlast] at hprocessed hfailed herrors
  rw [hstart.1, Nat.zero_add] at hprocessed
  rw [hstart.2, Nat.zero_add] at hfailed
  rw [hraised]
  refine ⟨⟨hprocessed, b.length_refusedOf d _ _, hfailed, herrors, rfl, ?_⟩, ?_,
    fun hcap _ hlength => b.firstMembers_uncapped hcap hlength⟩
  · exact b.refusedOf_groups hs hready (w.reload_grew.store.readOnly.trans hwritable) hsettings.2.2.1 _
  · intro groupId hmem hhealthy
    refine b.filled_of_done hsettings hrecords (hgrew.store.readOnly.trans hwritable)
      (hids groupId hmem) hhealthy (hdistinct groupId hmem hhealthy) fun e he => ?_
    exact hdone e (List.mem_flatMap.2 ⟨groupId, hmem, he⟩)

/-- The group that fails raises four errors and counts as failed; the other one is filled in. -/
theorem run_covers_sample :
    sampleFailing.Serves (fun p : DirectoryServer => p.directory = sampleFailing) ∧
      (World.unlimitedOver sampleFailing).cache.Unlimited ∧ sampleFailing.Healthy "g" ∧
      sampleFailing.Distinct "g" ∧
      sampleListed.raisedByRun (World.unlimitedOver sampleFailing) = [0, 4, 0] ∧
      (sampleListed.run (World.unlimitedOver sampleFailing)).1.groupsProcessed = 3 ∧
      (sampleListed.run (World.unlimitedOver sampleFailing)).1.groupsFailed = 1 ∧
      sampleListed.Filled sampleFailing "g" (sampleListed.run (World.unlimitedOver sampleFailing)).2 := by
  have hs := Directory.serves_server sampleFailing
  have hu := (World.ready_unlimitedOver sampleFailing).unlimited
  have hhealthy : sampleFailing.Healthy "g" := ⟨by decide, .new "g" "Group" "u", List.mem_cons_self, rfl⟩
  have hdistinct := Directory.distinct_of_nodup (d := sampleFailing) (by decide)
  have hids : ∀ groupId ∈ sampleListed.groupIds (World.unlimitedOver sampleFailing), groupId ≠ "" := by
    show ∀ groupId ∈ ["g", "h", "g"], groupId ≠ ""
    decide
  have hraised : sampleListed.raisedByRun (World.unlimitedOver sampleFailing) = [0, 4, 0] := by decide +kernel
  obtain ⟨⟨hprocessed, -, hfailed, -⟩, hfilled, -⟩ :=
    sampleListed.run_covers hs hu rfl ⟨rfl, rfl, rfl, rfl⟩ rfl rfl hids fun groupId _ _ => hdistinct groupId
  rw [hraised] at hfailed
  exact ⟨hs, hu, hhealthy, hdistinct "g", hraised, hprocessed, hfailed, hfilled "g" List.mem_cons_self hhealthy⟩

end Backfill

end Roster
