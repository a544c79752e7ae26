import Mathlib.Algebra.Group.Basic
import Roster.Proofs.Backfill.Coverage
import Roster.Proofs.Backfill.Places
import Roster.Proofs.Record.MemberKey

/-!
# The order of the groups

The visit of a group stays within the places that belong to the group, and no place belongs to two
groups.  So visits can be exchanged.

* `Directory.Belongs`, `errands_belong` — the places of a group: **all its errands take place there**.
* `Directory.belongs_apart` — no place belongs to two groups, if channels are told apart by their ids and no
  colon is in the ids of the groups.
* `World.Alike` — two worlds that agree everywhere.
* `Backfill.visit_after`, `visit_swap` — another group visited before makes no difference, and
  **two visits can be exchanged**.
* `Backfill.visits_perm`, `run_perm` — **the order of the groups does not matter**.
-/

set_option autoImplicit false

namespace Roster

namespace Directory

variable {d : Directory} {groupId groupId' : String} {p : Place}

/-- The places that belong to a group. -/
def Belongs (d : Directory) (groupId : String) : Place → Prop
  | .entry .group key => key = groupId
  | .entry .roles key => key = groupId
  | .entry .channel key => ∃ c ∈ d.channels, c.groupId = groupId ∧ c.id = key
  | .entry .member key => ∃ user, key = (MemberId.mk groupId user).text
  | .facts id => id.group = groupId

/-- No channel id is used in two groups. -/
def ChannelsApart (d : Directory) : Prop :=
  ∀ c ∈ d.channels, ∀ c' ∈ d.channels, c.id = c'.id → c.groupId = c'.groupId

/-- **All errands of a group take place where the group belongs.** -/
theorem errands_belong (d : Directory) (settings : BackfillSettings) (groupId : String) :
    ∀ e ∈ d.errands settings groupId, ∀ p, e.place? = some p → d.Belongs groupId p := by
  refine forall_mem_errands ?_ ?_ ?_ ?_
  · rintro p ⟨⟩
    rfl
  · rintro p ⟨⟩
    rfl
  · intro e he
    rcases mem_channelErrands e he with rfl | ⟨c, hc, hgroup, rfl⟩
    · exact fun p hp => nomatch hp
    · rintro p ⟨⟩
      exact ⟨c, hc, hgroup, rfl⟩
  · intro e he
    rcases mem_pageErrands e he with ⟨after, limit, rfl⟩ | ⟨m, hm, hmember⟩
    · exact fun p hp => nomatch hp
    · obtain ⟨-, hgroup⟩ := mem_membersOf.1 hm
      rw [memberErrands, List.mem_cons, List.mem_singleton] at hmember
      rcases hmember with rfl | rfl
      · rintro p ⟨⟩
        exact hgroup
      · rintro p ⟨⟩
        exact ⟨m.userId, congrArg (fun g => (MemberId.mk g m.userId).text) hgroup⟩

/-- **No place belongs to two groups.** -/
theorem belongs_apart (hchannels : d.ChannelsApart) (hplain : ':' ∉ groupId.toList)
    (hplain' : ':' ∉ groupId'.toList) (hne : groupId ≠ groupId') (h : d.Belongs groupId p) :
    ¬d.Belongs groupId' p := by
  intro h'
  refine hne ?_
  cases p with
  | facts id => exact Eq.trans (Eq.symm h) h'
  | entry k key =>
    cases k with
    | group => exact Eq.trans (Eq.symm h) h'
    | roles => exact Eq.trans (Eq.symm h) h'
    | channel =>
      obtain ⟨c, hc, rfl, rfl⟩ := h
      obtain ⟨c', hc', rfl, hid⟩ := h'
      exact hchannels c hc c' hc' hid.symm
    | member =>
      obtain ⟨user, rfl⟩ := h
      obtain ⟨user', htext⟩ := h'
      exact congrArg MemberId.group (MemberId.eq_of_text_eq htext hplain hplain')

end Directory

variable {ρ : Type} {serving : ρ → Prop} {w w' w'' : World ρ TableStore}

/-- Two worlds over the same platform that agree everywhere. -/
structure World.Alike (serving : ρ → Prop) (w w' : World ρ TableStore) : Prop where
  ready : w.Ready serving
  ready' : w'.Ready serving
  terms : w.SameTerms w'
  same : ∀ p, w.SameAt w' p

namespace World.Alike

theorem refl (hw : w.Ready serving) : w.Alike serving w := ⟨hw, hw, .refl w, .refl w⟩

theorem symm (h : w.Alike serving w') : w'.Alike serving w :=
  ⟨h.ready', h.ready, h.terms.symm, fun p => (h.same p).symm⟩

theorem trans (h : w.Alike serving w') (h' : w'.Alike serving w'') : w.Alike serving w'' :=
  ⟨h.ready, h'.ready', h.terms.trans h'.terms, fun p => (h.same p).trans (h'.same p)⟩

end World.Alike

namespace Backfill

variable [Platform ρ] {d : Directory} {p : Place} {groupId groupId' : String} (b : Backfill)

/-! ## Two visits -/

/-- A visit leaves the places of the other groups as they are. -/
theorem visit_frame (hs : d.Serves serving) (hw : w.Ready serving) (hp : ¬d.Belongs groupId p) :
    w.SameAt (b.visit d groupId w).2 p :=
  b.perform_frame hs hw fun e he hplace => hp (d.errands_belong b.settings groupId e he p hplace)

section Visits

variable (hs : d.Serves serving) (hprompt : Prompt serving)

include hs hprompt

theorem visit_sameTerms (hw : w.Ready serving) (groupId : String) : w.SameTerms (b.visit d groupId w).2 :=
  b.perform_sameTerms hs hprompt hw (d.errands b.settings groupId)

/-- A visit looks at the places of its group only. -/
theorem visit_local (hw : w.Ready serving) (hw' : w'.Ready serving) (hterms : w.SameTerms w') (groupId : String)
    (hsame : ∀ p, d.Belongs groupId p → w.SameAt w' p) :
    (b.visit d groupId w).1 = (b.visit d groupId w').1 ∧
      ∀ p, d.Belongs groupId p → (b.visit d groupId w).2.SameAt (b.visit d groupId w').2 p := by
  obtain ⟨hreport, hplaces⟩ :=
    b.perform_local hs hprompt (d.errands_belong b.settings groupId) hw hw' hterms hsame
  refine ⟨?_, hplaces⟩
  unfold visit
  dsimp only
  rw [hreport]

/-- A visit does the same in worlds that are alike. -/
theorem visit_alike (h : w.Alike serving w') (groupId : String) :
    (b.visit d groupId w).1 = (b.visit d groupId w').1 ∧
      (b.visit d groupId w).2.Alike serving (b.visit d groupId w').2 := by
  obtain ⟨hreport, hplaces⟩ := b.visit_local hs hprompt h.ready h.ready' h.terms groupId fun p _ => h.same p
  refine ⟨hreport, (b.visit_grew hs h.ready groupId).2, (b.visit_grew hs h.ready' groupId).2, ?_, ?_⟩
  · exact ((b.visit_sameTerms hs hprompt h.ready groupId).symm.trans h.terms).trans
      (b.visit_sameTerms hs hprompt h.ready' groupId)
  · intro p
    by_cases hp : d.Belongs groupId p
    · exact hplaces p hp
    · exact ((b.visit_frame hs h.ready hp).symm.trans (h.same p)).trans (b.visit_frame hs h.ready' hp)

/-- **Another group visited before makes no difference.** -/
theorem visit_after (h : w.Alike serving w') (hapart : ∀ p, d.Belongs groupId p → ¬d.Belongs groupId' p) :
    (b.visit d groupId w).1 = (b.visit d groupId (b.visit d groupId' w').2).1 ∧
      ∀ p, d.Belongs groupId p →
        (b.visit d groupId w).2.SameAt (b.visit d groupId (b.visit d groupId' w').2).2 p := by
  refine b.visit_local hs hprompt h.ready (b.visit_grew hs h.ready' groupId').2
    (h.terms.trans (b.visit_sameTerms hs hprompt h.ready' groupId')) groupId fun p hp => ?_
  exact (h.same p).trans (b.visit_frame hs h.ready' (hapart p hp))

/-- **Two visits can be exchanged.** -/
theorem visit_swap (h : w.Alike serving w') (hapart : ∀ p, d.Belongs groupId p → ¬d.Belongs groupId' p) :
    (b.visit d groupId w).1 = (b.visit d groupId (b.visit d groupId' w').2).1 ∧
      (b.visit d groupId' (b.visit d groupId w).2).1 = (b.visit d groupId' w').1 ∧
      (b.visit d groupId' (b.visit d groupId w).2).2.Alike serving
        (b.visit d groupId (b.visit d groupId' w').2).2 := by
  have hready := (b.visit_grew hs h.ready groupId).2
  have hready' := (b.visit_grew hs h.ready' groupId').2
  obtain ⟨hreport, hplaces⟩ := b.visit_after hs hprompt h hapart
  obtain ⟨hreport', hplaces'⟩ := b.visit_after hs hprompt h.symm fun p hp' hp => hapart p hp hp'
  refine ⟨hreport, hreport'.symm, (b.visit_grew hs hready groupId').2,
    (b.visit_grew hs hready' groupId).2, ?_, ?_⟩
  · have hthere :=
      (b.visit_sameTerms hs hprompt h.ready groupId).trans (b.visit_sameTerms hs hprompt hready groupId')
    have hback :=
      (b.visit_sameTerms hs hprompt h.ready' groupId').trans (b.visit_sameTerms hs hprompt hready' groupId)
    exact (hthere.symm.trans h.terms).trans hback
  · -- A place is written in one of the two visits, or in neither.
    intro p
    by_cases hp : d.Belongs groupId p
    · exact (b.visit_frame hs hready (hapart p hp)).symm.trans (hplaces p hp)
    · by_cases hp' : d.Belongs groupId' p
      · exact (hplaces' p hp').symm.trans (b.visit_frame hs hready' hp)
      · have hthere := (b.visit_frame hs h.ready hp).trans (b.visit_frame hs hready hp')
        have hback := (b.visit_frame hs h.ready' hp').trans (b.visit_frame hs hready' hp)
        exact (hthere.symm.trans (h.same p)).trans hback

/-! ## All visits -/

theorem visits_alike (h : w.Alike serving w') (groupIds : List String) :
    (b.visits d groupIds w).1 = (b.visits d groupIds w').1 ∧
      (b.visits d groupIds w).2.Alike serving (b.visits d groupIds w').2 := by
  induction groupIds generalizing w w' with
  | nil => exact ⟨rfl, h⟩
  | cons groupId groupIds ih =>
    obtain ⟨hreport, hvisited⟩ := b.visit_alike hs hprompt h groupId
    obtain ⟨hreports, hall⟩ := ih hvisited
    exact ⟨congrArg₂ (· + ·) hreport hreports, hall⟩

/-- **Visits in another order** report the same and leave worlds behind that are alike. -/
theorem visits_perm (hchannels : d.ChannelsApart) {groupIds groupIds' : List String}
    (hperm : groupIds.Perm groupIds') (hplain : ∀ groupId ∈ groupIds, ':' ∉ groupId.toList)
    (h : w.Alike serving w') :
    (b.visits d groupIds w).1 = (b.visits d groupIds' w').1 ∧
      (b.visits d groupIds w).2.Alike serving (b.visits d groupIds' w').2 := by
  induction hperm generalizing w w' with
  | nil => exact ⟨rfl, h⟩
  | cons groupId _ ih =>
    obtain ⟨hreport, hvisited⟩ := b.visit_alike hs hprompt h groupId
    obtain ⟨hreports, hall⟩ := ih (fun g hg => hplain g (List.mem_cons_of_mem groupId hg)) hvisited
    exact ⟨congrArg₂ (· + ·) hreport hreports, hall⟩
  | swap groupId groupId' groupIds =>
    by_cases heq : groupId' = groupId
    · subst heq
      exact b.visits_alike hs hprompt h _
    · have hapart (p : Place) (hp : d.Belongs groupId' p) : ¬d.Belongs groupId p :=
        Directory.belongs_apart hchannels (hplain _ List.mem_cons_self)
          (hplain _ (List.mem_cons_of_mem _ List.mem_cons_self)) heq hp
      obtain ⟨hfirst, hsecond, hvisited⟩ := b.visit_swap hs hprompt h hapart
      obtain ⟨hreports, hall⟩ := b.visits_alike hs hprompt hvisited groupIds
      refine ⟨?_, hall⟩
      show (b.visit d groupId' w).1 + ((b.visit d groupId (b.visit d groupId' w).2).1 + _) =
        (b.visit d groupId w').1 + ((b.visit d groupId' (b.visit d groupId w').2).1 + _)
      rw [hfirst, hsecond, hreports]
      exact add_left_comm _ _ _
  | trans hperm _ ih₁ ih₂ =>
    obtain ⟨hreport, hall⟩ := ih₁ hplain h
    obtain ⟨hreport', hall'⟩ := ih₂ (fun g hg => hplain g (hperm.mem_iff.2 hg)) (.refl h.ready')
    exact ⟨hreport.trans hreport', hall.trans hall'⟩

end Visits

/-! ## Runs -/

/-- The same backfill, for these groups. -/
def walking (b : Backfill) (groupIds : List String) : Backfill :=
  { b with settings := { b.settings with groupIds := some groupIds } }

theorem perform_walking (groupIds : List String) (es : List Errand) (w : World ρ TableStore) :
    (b.walking groupIds).perform es w = b.perform es w := by
  have hact (e : Errand) (w : World ρ TableStore) : e.act (b.walking groupIds) w = e.act b w := by
    cases e <;> rfl
  induction es generalizing w with
  | nil => rfl
  | cons e es ih => rw [perform, perform, hact, ih]

/-- The list of groups is read at the start of a run, and not by a visit. -/
theorem visits_walking (groupIds groupIds' : List String) (w : World ρ TableStore) :
    (b.walking groupIds).visits d groupIds' w = b.visits d groupIds' w := by
  have hvisit (groupId : String) (w : World ρ TableStore) :
      (b.walking groupIds).visit d groupId w = b.visit d groupId w := by
    unfold visit
    rw [perform_walking]
    rfl
  induction groupIds' generalizing w with
  | nil => rfl
  | cons groupId groupIds' ih => rw [visits, visits, hvisit, ih]

/-- **The order of the groups does not matter.**  Over a platform that answers at once a run reports the same,
whatever the order of the groups, and leaves the same entries in the cache and the same facts in the store. -/
theorem run_perm (hs : d.Serves serving) (hprompt : Prompt serving) (hchannels : d.ChannelsApart)
    {w : World ρ TableStore} (hu : w.cache.Unlimited) (hp : serving w.platform)
    {groupIds groupIds' : List String} (hperm : groupIds.Perm groupIds')
    (hplain : ∀ groupId ∈ groupIds, ':' ∉ groupId.toList) :
    let one := (b.walking groupIds).run w
    let other := (b.walking groupIds').run w
    one.1 = other.1 ∧
      (∀ k key, one.2.cache.slot? k key = other.2.cache.slot? k key) ∧
      ∀ id : MemberId, one.2.store.joins[id]? = other.2.store.joins[id]? ∧
        one.2.store.roles[id]? = other.2.store.roles[id]? := by
  intro one other
  have hready : w.reload.2.Ready serving := World.Ready.reloaded ⟨hu, hp⟩
  have hlast (ids : List String) : (b.walking ids).upToLast w =
      (w.reload.1.report + (b.visits d ids w.reload.2).1, (b.visits d ids w.reload.2).2) := by
    rw [(b.walking ids).upToLast_eq hs ⟨hu, hp⟩, b.visits_walking]
    rfl
  obtain ⟨hreport, hall⟩ := b.visits_perm hs hprompt hchannels hperm hplain (.refl hready)
  have hrun : one.1 = other.1 := by
    show ((b.walking groupIds).run w).1 = ((b.walking groupIds').run w).1
    rw [run_eq, run_eq, hlast, hlast, hreport, hall.terms.now]
  have hsame (p : Place) : one.2.SameAt other.2 p := by
    show ((b.walking groupIds).run w).2.SameAt ((b.walking groupIds').run w).2 p
    rw [run_eq, run_eq, hlast, hlast]
    exact hall.same p
  exact ⟨hrun, fun k key => hsame (.entry k key), fun id => hsame (.facts id)⟩

/-- A group that fails comes first or in between, and another one comes twice. -/
theorem run_perm_sample :
    sampleFailing.Serves (fun p : DirectoryServer => p.directory = sampleFailing) ∧
      Prompt (fun p : DirectoryServer => p.directory = sampleFailing) ∧ sampleFailing.ChannelsApart ∧
      (World.unlimitedOver sampleFailing).cache.Unlimited ∧
      ((sampleListed.walking ["g", "h", "g"]).run (World.unlimitedOver sampleFailing)).1 =
        ((sampleListed.walking ["h", "g", "g"]).run (World.unlimitedOver sampleFailing)).1 := by
  have hs := Directory.serves_server sampleFailing
  have hprompt : Prompt fun p : DirectoryServer => p.directory = sampleFailing := fun _ _ _ _ => rfl
  have hchannels : sampleFailing.ChannelsApart := by
    unfold Directory.ChannelsApart
    decide
  have hu := (World.ready_unlimitedOver sampleFailing).unlimited
  have hperm : List.Perm ["g", "h", "g"] ["h", "g", "g"] := .swap "h" "g" ["g"]
  obtain ⟨hreport, -, -⟩ := sampleListed.run_perm hs hprompt hchannels hu rfl hperm (by decide)
  exact ⟨hs, hprompt, hchannels, hu, hreport⟩

end Backfill

end Roster
