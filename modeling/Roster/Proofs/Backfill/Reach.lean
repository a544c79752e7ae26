import Roster.Proofs.Backfill.Trace
import Roster.Proofs.Cache.Memberships

/-!
# Which of the members that a pass caches can be reached

A pass caches a member under the text of its ids.  A read, and a change that makes the record stale, look under
the key of the ids, which is the same text, or empty when an id is missing.

* `Backfill.turnEntry` — the entry that a member is cached as when its turn comes.
* `Backfill.turns_split`, `cached_of_turn` — a member that counted as cached is there until it expires,
  **whatever comes in behind it**.
* `Backfill.Reached`, `fillMembers_reach` — **a member with both ids can be read and dropped by
  them**, and one without cannot.
* `Backfill.unnamed_member_out_of_reach` — a member that was cached and that its ids do not lead to.
-/

set_option autoImplicit false

namespace Roster

namespace Backfill

variable {ρ τ : Type} [Store τ] [Platform ρ] (b : Backfill) {known : JoinsRead}

/-! ## Turns -/

omit [Store τ] [Platform ρ] in
/-- The entry that a member is cached as when its turn comes. -/
def turnEntry (t : Member × World ρ τ) : Entry Member :=
  ⟨t.1.id.text, t.1, t.2.cache.members.expiryFrom t.2.now⟩

/-- A turn among others: what was done before it, and what is still to come. -/
theorem turns_split {steps : List PassStep} {acc : MemberTally × World ρ τ}
    {before after : List (Member × World ρ τ)} {t : Member × World ρ τ}
    (h : b.turns known steps acc = before ++ t :: after) :
    ∃ p rest, steps.foldl (b.passStep known) acc =
        rest.foldl (b.passStep known) (b.passStep known (p, t.2) (.take t.1)) ∧
      b.turns known rest (b.passStep known (p, t.2) (.take t.1)) = after := by
  induction steps generalizing acc before with
  | nil =>
    have hlength := congrArg List.length h
    simp [turns] at hlength
  | cons step steps ih =>
    cases step with
    | ask q => exact ih h
    | take m =>
      cases before with
      | nil =>
        obtain ⟨rfl, hafter⟩ := List.cons.inj h
        exact ⟨acc.1, steps, rfl, hafter⟩
      | cons first before => exact ih (List.cons.inj h).2

/-- A pass limits nothing. -/
theorem unlimited_turns {steps : List PassStep} {acc : MemberTally × World ρ τ}
    (h : acc.2.cache.members.limit = 0) :
    ∀ t ∈ b.turns known steps acc, t.2.cache.members.limit = 0 := by
  induction steps generalizing acc with
  | nil => exact List.forall_mem_nil _
  | cons step steps ih =>
    cases step with
    | ask q => exact ih h
    | take m =>
      obtain ⟨store, hstep⟩ := b.passStep_take known m acc
      refine List.forall_mem_cons.2 ⟨h, ih ?_⟩
      rw [hstep]
      exact Segment.unlimited_call h (c := .insertUnlessLive m.id.text m) rfl acc.2.now

/-- **A member that was cached** is there at an instant when it has not expired, if no member
comes in later than that. -/
theorem cached_of_turn {steps : List PassStep} {acc : MemberTally × World ρ τ}
    (hlimit : acc.2.cache.members.limit = 0) {before after : List (Member × World ρ τ)} {t : Member × World ρ τ}
    (hturns : b.turns known steps acc = before ++ t :: after) (hnew : isCached t = false) {time : Instant}
    (htime : ∀ t' ∈ after, t'.2.now ≤ time) (hlive : (turnEntry t).hasExpired time = false) :
    (steps.foldl (b.passStep known) acc).2.cache.slot? .member t.1.id.text = some (turnEntry t) := by
  have hmem : t ∈ b.turns known steps acc := by
    rw [hturns]
    exact List.mem_append_right _ List.mem_cons_self
  have hlimit : t.2.cache.members.limit = 0 := b.unlimited_turns hlimit t hmem
  obtain ⟨p, rest, hsteps, hrest⟩ := b.turns_split hturns
  rw [← hrest] at htime
  rw [hsteps]
  obtain ⟨store, hstep⟩ := b.passStep_take known t.1 (p, t.2)
  have hdead : t.2.cache.members.live? t.1.id.text t.2.now = none :=
    Option.isNone_iff_eq_none.1 (Option.isSome_eq_false_iff.1 hnew)
  obtain ⟨-, hwritten⟩ := Segment.insertUnlessLive_written hlimit t.1.id.text_ne_empty hdead t.1
  have hself : (b.passStep known (p, t.2) (.take t.1)).2.cache.slot? .member t.1.id.text =
      some (turnEntry t) := by
    rw [hstep]
    exact (hwritten.find? _).trans (if_pos rfl)
  have hlimit' : ((b.passStep known (p, t.2) (.take t.1)).2.cache.segment .member).limit = 0 := by
    rw [hstep]
    exact hwritten.limit.trans hlimit
  have hspares := b.spares_steps known rest _ htime .member hlimit'
  obtain ⟨hthere, hkey⟩ := Entries.find?_eq_some_iff.1 hself
  have hlasts : Entry.lasts (k := .member) time (turnEntry t) = true := by
    unfold Entry.lasts
    rw [hlive]
    rfl
  exact Entries.find?_eq_some_iff.2 ⟨hspares.mem hthere hlasts, hkey⟩

/-! ## Members that were cached -/

/-- Where a member that was cached is found at an instant. -/
structure Reached (m : Member) (e : Entry Member) (time : Instant) (w : World ρ τ) : Prop where
  stored : w.cache.slot? .member m.id.text = some e
  /-- A read by its ids returns it, unless one is missing. -/
  read : w.cache.membership m.id time = if m.id.Named then some m else none
  /-- A change of it drops it, unless an id is missing. -/
  dropped : ∀ event : Change, event.subject = .member m.id →
    (w.forget event).cache.slot? .member m.id.text = if m.id.Named then none else some e

omit [Store τ] [Platform ρ] in
theorem reached_of_slot {w : World ρ τ} {m : Member} {e : Entry Member} {time : Instant}
    (h : w.cache.slot? .member m.id.text = some e) (hvalue : e.value = m) (hlive : e.hasExpired time = false) :
    Reached m e time w where
  stored := h
  read := by
    split
    · rename_i hnamed
      have hfind : w.cache.members.find? m.id.text = some e := h
      rw [Cache.membership_eq, hnamed.key_eq, Segment.peek, Segment.live?_of_find? hfind, hlive, ← hvalue]
      rfl
    · rename_i hunnamed
      exact Cache.membership_of_unnamed hunnamed w.cache time
  dropped event hsubject := by
    have herase : (w.forget event).cache.slot? .member m.id.text =
        if m.id.key = m.id.text then none else w.cache.members.find? m.id.text := by
      unfold World.forget
      rw [hsubject]
      exact w.cache.members.find?_erase m.id.key m.id.text
    rw [herase]
    split
    · rename_i hkey
      have hnamed : m.id.Named := by
        by_contra hunnamed
        exact m.id.text_ne_empty (hkey.symm.trans (MemberId.key_of_unnamed hunnamed))
      rw [if_pos hnamed]
    · rename_i hkey
      rw [if_neg fun hnamed => hkey hnamed.key_eq]
      exact h

/-- **What a pass caches**, whatever the platform answers: it takes in the members that the pages bring, and
counts those that had no live entry when their turn came.  Each of these is there for as long as it has not
expired, and is read and dropped by its ids if both are there. -/
theorem fillMembers_reach (groupId : String) {w : World ρ τ} (hlimit : w.cache.members.limit = 0) :
    (b.memberTurns groupId w).map Prod.fst =
        (b.memberAsks groupId w).flatMap (fun a => (World.exchange a).members) ∧
      (b.fillMembers groupId w).1.fetched = (b.memberTurns groupId w).length ∧
      (b.fillMembers groupId w).1.cached = (b.memberTurns groupId w).countP (fun t => !isCached t) ∧
      ∀ before t after, b.memberTurns groupId w = before ++ t :: after → isCached t = false →
        ∀ time, (∀ t' ∈ after, t'.2.now ≤ time) → (turnEntry t).hasExpired time = false →
          Reached t.1 (turnEntry t) time (b.fillMembers groupId w).2 := by
  obtain ⟨pages, errors, htrace⟩ := b.fillMembers_trace groupId w
  obtain ⟨hcounts, -⟩ := b.readJoins_start groupId w
  obtain ⟨store, hread⟩ := b.readJoins_keeps groupId w
  obtain ⟨-, hfetched, hcached, -⟩ := b.tallied_steps (b.readJoins groupId w).1 (b.memberSteps groupId w)
    (b.readJoins groupId w).2
  rw [hcounts] at hfetched hcached
  have hmembers :=
    (b.map_fst_turns (b.readJoins groupId w).1 (b.memberSteps groupId w) (b.readJoins groupId w).2).trans
      (b.members_stepsFrom (b.readJoins groupId w).1 groupId none (b.readJoins groupId w).2.1
        (b.readJoins groupId w).2.2)
  rw [htrace]
  refine ⟨hmembers, hfetched.trans (Nat.zero_add _), hcached.trans (Nat.zero_add _), ?_⟩
  intro before t after hturns hnew time htime hlive
  have hlimit : (b.readJoins groupId w).2.2.cache.members.limit = 0 := by
    rw [hread]
    exact hlimit
  exact reached_of_slot (b.cached_of_turn hlimit hturns hnew htime hlive) rfl hlive

/-- A directory of one member. -/
def aloneDirectory (user : String) : Directory := { Directory.empty with members := [.new "g" user "User"] }

/-- A world over it without limits. -/
def sampleAlone (user : String) : World DirectoryServer TableStore :=
  { World.overDirectory (aloneDirectory user) with cache := Cache.unboundedMembers }

/-- A pass that records no facts. -/
def sampleSilent : Backfill := ⟨.standard, false⟩

/-- The member is the only one that is taken in. -/
theorem memberTurns_sampleAlone (user : String) : sampleSilent.memberTurns "g" (sampleAlone user) =
    [(.new "g" user "User", ((sampleAlone user).ask (.members "g" none maxPageSize)).2)] := by
  have hask : (sampleAlone user).ask (.members "g" none maxPageSize) =
      (.ok [.new "g" user "User"], ((sampleAlone user).ask (.members "g" none maxPageSize)).2) := by
    refine Prod.ext ?_ rfl
    show (aloneDirectory user).ofGroup "g" (.ok ((aloneDirectory user).page "g" none maxPageSize)) = _
    simp [aloneDirectory, Directory.ofGroup, Directory.page, Directory.membersOf, Directory.empty, Member.new]
  have hsteps : sampleSilent.memberSteps "g" (sampleAlone user) =
      .ask (.members "g" none maxPageSize) :: [.take (.new "g" user "User")] := by
    have hpage := sampleSilent.stepsFrom_page none (p := .zero) (by decide) (List.cons_ne_nil _ _) hask
    have hshort : [Member.new "g" user "User"].length < sampleSilent.pageLimit .zero := by
      rw [List.length_singleton]
      decide
    rw [if_pos hshort] at hpage
    exact hpage
  unfold memberTurns
  rw [hsteps]
  rfl

/-- A member with both ids is read after a pass has cached it. -/
theorem fillMembers_reach_sample :
    (sampleAlone "u").cache.members.limit = 0 ∧ (sampleSilent.fillMembers "g" (sampleAlone "u")).1.cached = 1 ∧
      (sampleSilent.fillMembers "g" (sampleAlone "u")).2.cache.membership ⟨"g", "u"⟩ .epoch =
        some (.new "g" "u" "User") := by
  obtain ⟨-, -, hcached, hreached⟩ := sampleSilent.fillMembers_reach "g" (w := sampleAlone "u") rfl
  rw [memberTurns_sampleAlone] at hcached hreached
  refine ⟨rfl, hcached, ?_⟩
  exact (hreached [] _ [] rfl rfl .epoch (List.forall_mem_nil _) rfl).read

/-- A member without a user id is cached where its ids do not lead. -/
theorem unnamed_member_out_of_reach :
    ¬∀ (b : Backfill) (groupId : String) (w : World DirectoryServer TableStore), w.cache.members.limit = 0 →
      ∀ before t after, b.memberTurns groupId w = before ++ t :: after → isCached t = false →
        ∀ time, (∀ t' ∈ after, t'.2.now ≤ time) → (turnEntry t).hasExpired time = false →
          (b.fillMembers groupId w).2.cache.membership t.1.id time = some t.1 := by
  intro hall
  have hread := hall sampleSilent "g" (sampleAlone "") rfl [] _ [] (memberTurns_sampleAlone "") rfl .epoch
    (List.forall_mem_nil _) rfl
  rw [Cache.membership_of_unnamed (by decide)] at hread
  cases hread

end Backfill

end Roster
