import Mathlib.Logic.Relation
import Roster.Proofs.Backfill.Again
import Roster.Proofs.Backfill.Invariants
import Roster.Proofs.Backfill.Pass
import Roster.Proofs.Store.FirstSeen
import Roster.Proofs.World.Reloaded

/-!
# First-seen facts in a run

Backfills, passes over members and touches come one after the other over one store, each with whatever
an earlier one has left there.

* `ClockAdvances` — a platform that the clock does not go back with.
* `Logged.Reported` — a member that a platform has told of.
* `World.Seen` — what becomes of the facts of a world.  `Seen.noting`: **a backfill keeps to it**, step by step.
* `FactStep` — what may come next in a run: a backfill, a pass over members, one member of a pass that runs
  beside others, a touch, or something that leaves the facts alone.
* `FactStep.seen`, `World.seen_run` — **a step, and a run, make rows where there are
  none and stamp the others**.
* `World.first_seen_lasting` — **what was recorded first lasts**, at any two points of a run.
-/

set_option autoImplicit false

namespace Roster

open Relation (ReflTransGen)

/-- The clock does not go back while a platform answers. -/
def ClockAdvances (ρ : Type) [Platform ρ] : Prop :=
  ∀ (q : Request) (now : Instant) (p : ρ), now ≤ (Platform.ask q now p).2.1

variable {ρ : Type}

/-- A platform has told of a member. -/
def Logged.Reported (p : Logged ρ) (m : Member) : Prop := p.ToldSince 0 .member m.id.text m

namespace World

/-- A later world: its facts are what becomes of those of the first one while reported members are seen. -/
structure Seen (w₀ w : World (Logged ρ) TableStore) : Prop where
  clock : w₀.now ≤ w.now
  log : w₀.platform.exchanges <+: w.platform.exchanges
  store : w₀.store.Seen w.platform.Reported w₀.now w.now w.store

variable {w₀ w w' : World (Logged ρ) TableStore}

theorem Seen.refl (w : World (Logged ρ) TableStore) : w.Seen w :=
  ⟨w.now.le_refl, List.prefix_rfl, .refl w.store⟩

theorem Seen.trans (h : w₀.Seen w) (h' : w.Seen w') : w₀.Seen w' where
  clock := Instant.le_trans h.clock h'.clock
  log := h.log.trans h'.log
  store := by
    have hbefore : w₀.store.Seen w'.platform.Reported w₀.now w'.now w.store :=
      h.store.mono (fun m hm => hm.later h'.log) w₀.now.le_refl h'.clock
    exact hbefore.trans (h'.store.mono (fun m hm => hm) h.clock w'.now.le_refl)

/-- Something that leaves the facts alone. -/
theorem Seen.of_same (hclock : w.now ≤ w'.now) (hlog : w.platform.exchanges <+: w'.platform.exchanges)
    (hjoins : w'.store.joins = w.store.joins) (hroles : w'.store.roles = w.store.roles) : w.Seen w' :=
  ⟨hclock, hlog, .of_same hjoins hroles⟩

/-- An operation of the store. -/
theorem seen_useStore {α : Type} {f : TableStore → Outcome TableStore α}
    (hf : w.store.Seen w.platform.Reported w.now w.now (f w.store).2) : w.Seen (w.useStore f).2 :=
  ⟨w.now.le_refl, List.prefix_rfl, hf⟩

theorem seen_reload (w : World (Logged ρ) TableStore) : w.Seen w.reload.2 := by
  obtain ⟨-, -, -, hstore⟩ := Cache.reload_grew w.cache w.store
  exact .of_same w.now.le_refl List.prefix_rfl (congrArg TableStore.joins hstore)
    (congrArg TableStore.roles hstore)

/-- Both facts of one member are touched. -/
theorem seen_keepFreshMember (groupId : String) (acc : Nat × World (Logged ρ) TableStore) (user : String) :
    acc.2.Seen (Backfill.keepFreshMember groupId acc user).2 := by
  have htouch : acc.2.Seen (acc.2.useStore (touchFacts ⟨groupId, user⟩ acc.2.now)).2 :=
    seen_useStore (TableStore.seen_touchFacts acc.2.now ⟨groupId, user⟩ acc.2.store)
  unfold Backfill.keepFreshMember
  dsimp only
  split <;> rename_i hused <;> exact Backfill.of_step htouch hused

theorem seen_keepFresh (b : Backfill) (groupId : String) (users : List String)
    (w : World (Logged ρ) TableStore) : w.Seen (b.keepFresh groupId users w).2 := by
  unfold Backfill.keepFresh
  split
  · refine List.foldlRecOn (motive := fun acc : Nat × World (Logged ρ) TableStore => w.Seen acc.2) users
      (Backfill.keepFreshMember groupId) (.refl w) ?_
    intro acc hacc user _
    exact hacc.trans (seen_keepFreshMember groupId acc user)
  · exact .refl w

variable [Platform ρ]

theorem seen_ask (hclock : ClockAdvances ρ) (w : World (Logged ρ) TableStore) (q : Request) :
    w.Seen (w.ask q).2 :=
  .of_same (hclock q w.now w.platform.platform) (List.prefix_append _ _) rfl rfl

/-- Each step of a backfill keeps to what becomes of the facts of an earlier world. -/
theorem Seen.noting (hclock : ClockAdvances ρ) (w₀ : World (Logged ρ) TableStore) :
    Backfill.Noting (fun w => w₀.Seen w) fun p k key r => p.ToldSince 0 k key r where
  ask w q h := h.trans (seen_ask hclock w q)
  told _ _ _ _ hask _ _ _ hbrings _ := Logged.toldSince_ask (Nat.zero_le _) hask hbrings
  remember w _ _ h _ := h.trans (.of_same w.now.le_refl List.prefix_rfl rfl rfl)
  insertUnlessLive w _ _ _ h _ := h.trans (.of_same w.now.le_refl List.prefix_rfl rfl rfl)
  joinsOf w _ h := h.trans (.of_same w.now.le_refl List.prefix_rfl rfl rfl)
  noteFacts w m known h hm := by
    have hreported : w.platform.Reported m := hm
    exact h.trans (seen_useStore (TableStore.seen_noteFacts w.now w.now hreported known w.store))

end World

/-! ## Runs -/

/-- What may come next where facts are only observed. -/
inductive FactStep [Platform ρ] : World (Logged ρ) TableStore → World (Logged ρ) TableStore → Prop
  | run (b : Backfill) (w : World (Logged ρ) TableStore) : FactStep w (b.run w).2
  | fillMembers (b : Backfill) (groupId : String) (w : World (Logged ρ) TableStore) :
    FactStep w (b.fillMembers groupId w).2
  /-- One member of a pass that runs beside others, with what the pass has read of
  the join times at any time. -/
  | takeMember (b : Backfill) (known : Backfill.JoinsRead) (p : MemberTally) (m : Member)
    (w : World (Logged ρ) TableStore) (hm : w.platform.Reported m) : FactStep w (b.takeMember known (p, w) m).2
  | keepFresh (b : Backfill) (groupId : String) (users : List String) (w : World (Logged ρ) TableStore) :
    FactStep w (b.keepFresh groupId users w).2
  | recordFirstJoin (id : MemberId) (joinedAt : Timestamp) (w : World (Logged ρ) TableStore) :
    FactStep w (w.useStore (Store.recordFirstJoin w.now id joinedAt)).2
  | touchJoin (id : MemberId) (w : World (Logged ρ) TableStore) :
    FactStep w (w.useStore (Store.touchJoin w.now id)).2
  | touchRoles (id : MemberId) (w : World (Logged ρ) TableStore) :
    FactStep w (w.useStore (Store.touchRoles w.now id)).2
  /-- Anything that leaves the facts alone: time passes, the platform changes its
  mind, its answers are logged. -/
  | meanwhile (w w' : World (Logged ρ) TableStore) (hclock : w.now ≤ w'.now)
    (hlog : w.platform.exchanges <+: w'.platform.exchanges) (hjoins : w'.store.joins = w.store.joins)
    (hroles : w'.store.roles = w.store.roles) : FactStep w w'

variable [Platform ρ] {w₀ w w' : World (Logged ρ) TableStore}

/-- **A step makes rows where there are none and stamps the others.** -/
theorem FactStep.seen (hclock : ClockAdvances ρ) (h : FactStep w w') : w.Seen w' := by
  have hnoting := World.Seen.noting hclock w
  cases h with
  | run b => exact hnoting.run b w.seen_reload
  | fillMembers b groupId => exact hnoting.fillMembers b (.refl w) groupId
  | takeMember b known p m _ hm => exact hnoting.takeMember b (.refl w) known hm p
  | keepFresh b groupId users => exact World.seen_keepFresh b groupId users w
  | recordFirstJoin id joinedAt =>
    exact World.seen_useStore (TableStore.seen_recordFirstJoin w.now id joinedAt w.store)
  | touchJoin id => exact World.seen_useStore (TableStore.seen_touchJoin w.now id w.store)
  | touchRoles id => exact World.seen_useStore (TableStore.seen_touchRoles w.now id w.store)
  | meanwhile _ _ hnow hlog hjoins hroles => exact .of_same hnow hlog hjoins hroles

/-- **So does a run.**  The induction is on its last step. -/
theorem World.seen_run (hclock : ClockAdvances ρ) (h : ReflTransGen FactStep w w') : w.Seen w' := by
  induction h with
  | refl => exact .refl w
  | tail _ hstep ih => exact ih.trans (hstep.seen hclock)

/-- **What was recorded first lasts.**  Between two points of a run each row stays, with the join time that it
was made with, and with its roles and their time as soon as it has roles.  Roles change only from none to those
of a member that was reported.  The stamp of a row goes on from where the run has put it, or from where it was
if that is not ahead of the clock. -/
theorem World.first_seen_lasting (hclock : ClockAdvances ρ) (hbefore : ReflTransGen FactStep w₀ w)
    (hafter : ReflTransGen FactStep w w') (id : MemberId) :
    (∀ row : JoinFact, w.store.joins[id]? = some row → ∃ row', w'.store.joins[id]? = some row' ∧
      row'.joinedAt = row.joinedAt ∧
      (w₀.store.joins[id]? ≠ some row ∨ row.lastTouched ≤ w.now → row.lastTouched ≤ row'.lastTouched)) ∧
    (∀ row : RolesFact, w.store.roles[id]? = some row → ∃ row', w'.store.roles[id]? = some row' ∧
      (row.roleIds ≠ [] → row'.roleIds = row.roleIds ∧ row'.observedAt = row.observedAt) ∧
      (w₀.store.roles[id]? ≠ some row ∨ row.lastTouched ≤ w.now → row.lastTouched ≤ row'.lastTouched)) ∧
    ∀ row' : RolesFact, w'.store.roles[id]? = some row' →
      w.store.roles[id]?.map RolesFact.roleIds = some row'.roleIds ∨
        w.store.rolesOf id = [] ∧ row'.roleIds ≠ [] ∧
          ∃ m, w'.platform.Reported m ∧ m.id = id ∧ m.roleIds = row'.roleIds := by
  have hstart := (seen_run hclock hbefore).store
  have hrun := (seen_run hclock hafter).store
  refine ⟨?_, ?_, ?_⟩
  · intro row hrow
    have hjoin := hrun.joins id
    have hmade := hstart.joins id
    rw [hrow] at hjoin hmade
    obtain ⟨row', hrow', htime, hstamp⟩ := hjoin.lasts
    exact ⟨row', hrow', htime, fun hold => hstamp (hold.elim hmade.timely fun hle => hle)⟩
  · intro row hrow
    have hroles := hrun.roles id
    have hmade := hstart.roles id
    rw [hrow] at hroles hmade
    obtain ⟨row', hrow', hsame, hstamp⟩ := hroles.lasts
    exact ⟨row', hrow', hsame, fun hold => hstamp (hold.elim hmade.timely fun hle => hle)⟩
  · intro row' hrow'
    have hroles := hrun.roles id
    rw [hrow'] at hroles
    exact hroles.changed

/-- A platform that reports one member, who has a role and joined at an instant. -/
def Directory.sampleJoined (joinedAt : Instant) : Directory :=
  { Directory.empty with
    members := [{ Member.new "g" "u" "User" with joinedAt := some (.ofInstant joinedAt), roleIds := ["r"] }] }

/-- Everything is filled in for the group. -/
def Backfill.sampleGroup : Backfill := ⟨{ BackfillSettings.standard with groupIds := some ["g"] }, true⟩

/-- A join time is recorded at the epoch, over a platform that will report another one. -/
def World.sampleRecorded : World (Logged DirectoryServer) TableStore :=
  ((Backfill.loggedOver (.sampleJoined Backfill.sampleDay)).useStore
    (Store.recordFirstJoin .epoch ⟨"g", "u"⟩ (.ofInstant .epoch))).2

/-- A day later a backfill walks the group, and after it comes one more pass over the members. -/
def World.sampleReported : World (Logged DirectoryServer) TableStore :=
  (Backfill.sampleGroup.fillMembers "g"
    (Backfill.sampleGroup.run { sampleRecorded with now := Backfill.sampleDay }).2).2

/-- The platform tells twice of the member that it joined on that day.  The join time that was recorded first
outlasts both, and its row is stamped. -/
theorem World.first_seen_lasting_sample :
    ClockAdvances DirectoryServer ∧
      ReflTransGen FactStep (Backfill.loggedOver (.sampleJoined Backfill.sampleDay)) sampleRecorded ∧
      ReflTransGen FactStep sampleRecorded sampleReported ∧
      sampleRecorded.store.joins[MemberId.mk "g" "u"]? = some ⟨.ofInstant .epoch, .epoch⟩ ∧
      sampleReported.platform.exchanges.map Exchange.request = [.group "g", .roles "g", .channels "g",
        .members "g" none 1000, .members "g" none 1000] ∧
      sampleReported.store.roles[MemberId.mk "g" "u"]? = some ⟨["r"], Backfill.sampleDay, Backfill.sampleDay⟩ ∧
      ∃ row', sampleReported.store.joins[MemberId.mk "g" "u"]? = some row' ∧ row'.joinedAt = .ofInstant .epoch ∧
        .epoch ≤ row'.lastTouched := by
  have hclock : ClockAdvances DirectoryServer := fun _ now _ => now.le_refl
  have hrecord : ReflTransGen FactStep (Backfill.loggedOver (.sampleJoined Backfill.sampleDay))
      sampleRecorded :=
    .single (.recordFirstJoin _ _ _)
  have hlater : FactStep sampleRecorded { sampleRecorded with now := Backfill.sampleDay } :=
    .meanwhile _ _ (by decide) List.prefix_rfl rfl rfl
  have hreports : ReflTransGen FactStep sampleRecorded sampleReported :=
    .tail (.tail (.single hlater) (.run _ _)) (.fillMembers _ _ _)
  have hrow : sampleRecorded.store.joins[MemberId.mk "g" "u"]? = some ⟨.ofInstant .epoch, .epoch⟩ := by
    decide +kernel
  obtain ⟨hjoins, -, -⟩ := World.first_seen_lasting hclock hrecord hreports ⟨"g", "u"⟩
  obtain ⟨row', hrow', htime, hstamp⟩ := hjoins _ hrow
  exact ⟨hclock, hrecord, hreports, hrow, by decide +kernel, by decide +kernel, row', hrow', htime,
    hstamp (.inr (by decide))⟩

end Roster
