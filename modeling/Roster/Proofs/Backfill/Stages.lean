import Roster.Proofs.Backfill.FirstSeen
import Roster.Proofs.Backfill.Trace

/-!
# The stages of a backfill

A backfill goes through the steps that are switched on, group after group, and each step asks the platform for
what it lacks.  What is live in the cache is neither fetched nor disturbed.

* `GroupStep`, `BackfillSettings.stepsOf` — the steps for one group.  `GroupStep.perform`, `asks`: what a
  step does, and what it asks for.
* `Backfill.stages` — steps one after the other, each with the world that it meets; `run_stages`: **a run goes
  through all of them**, whether or not they fail.
* `GroupStep.requests_asks`, `exchanges_perform` — what a step asks for, and that it asks for nothing else.
* `GroupStep.spares_perform` — **a step spares** what lasts until an instant that the clock does not go beyond.
* `Backfill.Sparing`, `run_sparing` — **a run asks for what is not live, and disturbs nothing that is**.
-/

set_option autoImplicit false

namespace Roster

/-- A step of a backfill. -/
inductive GroupStep where
  | record (groupId : String)
  | roles (groupId : String)
  | channels (groupId : String)
  | members (groupId : String)
deriving DecidableEq, Repr

/-- The steps for a group: those that are switched on. -/
def BackfillSettings.stepsOf (s : BackfillSettings) (groupId : String) : List GroupStep :=
  (if s.groups then [.record groupId] else []) ++ (if s.roles then [.roles groupId] else []) ++
    (if s.channels then [.channels groupId] else []) ++ if s.members then [.members groupId] else []

/-- There is always a first page to ask for. -/
theorem BackfillSettings.cap_pos (s : BackfillSettings) : 0 < s.cap := by
  unfold cap
  split
  · decide
  · omega

theorem ClockAdvances.logged {ρ : Type} [Platform ρ] (h : ClockAdvances ρ) : ClockAdvances (Logged ρ) :=
  fun q now p => h q now p.platform

variable {ρ τ : Type} [Store τ] [Platform ρ] (b : Backfill)

namespace GroupStep

/-- The world after a step. -/
def perform (b : Backfill) : GroupStep → World ρ τ → World ρ τ
  | .record groupId, w => (Backfill.fillRecord groupId (0, w)).2
  | .roles groupId, w => (Backfill.fillRoles groupId (0, w)).2
  | .channels groupId, w => (Backfill.fillChannels groupId (0, w)).2
  | .members groupId, w => (b.fillMembers groupId w).2

/-- What a step asks for, each request with the world that it is put to. -/
def asks (b : Backfill) : GroupStep → World ρ τ → List (Request × World ρ τ)
  | .record groupId, w => if w.cache.groups.contains groupId w.now then [] else [(.group groupId, w)]
  | .roles groupId, w => if Backfill.hasRoles w groupId then [] else [(.roles groupId, w)]
  | .channels groupId, w => [(.channels groupId, w)]
  | .members groupId, w => b.memberAsks groupId w

/-! ## What a step asks for -/

/-- The requests of a step: the record of a group unless a live one is cached, its role list unless a live one
with roles is, its channels, or its members page by page. -/
def Requests (b : Backfill) (w : World ρ τ) : GroupStep → List Request → Prop
  | .record groupId, qs => qs = if w.cache.groups.contains groupId w.now then [] else [.group groupId]
  | .roles groupId, qs => qs = if Backfill.hasRoles w groupId then [] else [.roles groupId]
  | .channels groupId, qs => qs = [.channels groupId]
  | .members groupId, qs => ∃ rest, qs = .members groupId none (min b.settings.cap maxPageSize) :: rest ∧
      ∀ q ∈ rest, ∃ user limit, q = .members groupId (some user) limit

theorem requests_asks (step : GroupStep) (w : World ρ τ) :
    step.Requests b w ((step.asks b w).map Prod.fst) := by
  cases step with
  | record groupId =>
    show (if w.cache.groups.contains groupId w.now then [] else [(Request.group groupId, w)]).map Prod.fst = _
    split <;> rfl
  | roles groupId =>
    show (if Backfill.hasRoles w groupId then [] else [(Request.roles groupId, w)]).map Prod.fst = _
    split <;> rfl
  | channels groupId => rfl
  | members groupId =>
    obtain ⟨hcounts, -⟩ := b.readJoins_start groupId w
    have hfetched : (b.readJoins groupId w).2.1.fetched = 0 := congrArg MemberTally.fetched hcounts
    have hcap : (b.readJoins groupId w).2.1.fetched < b.settings.cap := by
      rw [hfetched]
      exact b.settings.cap_pos
    obtain ⟨rest, hrequests, hrest⟩ := b.requests_stepsFrom (b.readJoins groupId w).1 groupId none
      (b.readJoins groupId w).2.1 (b.readJoins groupId w).2.2
    refine ⟨rest, ?_, hrest⟩
    rw [if_pos hcap, Backfill.pageLimit, hfetched] at hrequests
    exact (b.map_fst_asksOf _ _ _).trans hrequests

end GroupStep

/-! ## What a step does -/

/-- A world after a request, with some of the answer in the cache, where what lasts is spared. -/
def World.Took (q : Request) (w w' : World ρ τ) : Prop :=
  ∃ cache, w' = { (w.ask q).2 with cache } ∧
    ∀ time, w.now ≤ time → (w.ask q).2.now ≤ time → w.cache.Spares time cache

namespace Backfill

variable {groupId : String} {w w' : World ρ τ}

omit [Store τ] in
/-- A request changes no cache. -/
theorem took_ask {q : Request} {answer : Except PlatformError q.Answer} (hask : w.ask q = (answer, w')) :
    w.Took q w' := by
  have hw' : w' = (w.ask q).2 := by rw [hask]
  rw [hw']
  exact ⟨w.cache, rfl, fun time _ _ => .refl time w.cache⟩

omit [Store τ] in
/-- What is cached of the answer takes the place of no live entry. -/
theorem took_cacheIfAbsent {q : Request} (h : w.Took q w') (k : Kind) (key : String) (r : k.Record) :
    w.Took q (cacheIfAbsent k key r w').2 := by
  obtain ⟨cache, rfl, hspares⟩ := h
  rw [cacheIfAbsent_eq]
  refine ⟨(cache.insertUnlessLive k key r (w.ask q).2.now).2, rfl, fun time hnow hlater => ?_⟩
  exact (hspares time hnow hlater).trans (Cache.spares_insertUnlessLive hlater cache key r)

omit [Store τ] in
/-- A record of a group is cached unless a live one has come in. -/
theorem took_record (h : w.cache.groups.contains groupId w.now = false) :
    w.Took (.group groupId) (fillRecord groupId (0, w)).2 := by
  unfold fillRecord
  dsimp only
  rw [if_neg (by simp [h])]
  split
  · rename_i hask
    exact took_ask hask
  · rename_i group w' hask
    exact took_cacheIfAbsent (took_ask hask) .group groupId group

omit [Store τ] in
/-- A role list is written over one that is not live or is empty, whatever the clock shows by then. -/
theorem took_roles (h : hasRoles w groupId = false) : w.Took (.roles groupId) (fillRoles groupId (0, w)).2 := by
  unfold fillRoles
  dsimp only
  rw [if_neg (by simp [h])]
  split
  · rename_i hask
    exact took_ask hask
  · rename_i roles w' hask
    have hw' : w' = (w.ask (.roles groupId)).2 := by rw [hask]
    rw [hw']
    refine ⟨_, rfl, fun time hnow _ => ?_⟩
    refine Cache.spares_withSegment (k := .roles) fun hlimit => Segment.spares_insert hlimit ?_ _ _
    intro a hfind
    have hfind : w.cache.roles.find? groupId = some a := hfind
    unfold hasRoles Segment.peek at h
    rw [Segment.live?_of_find? hfind] at h
    cases hx : a.hasExpired w.now with
    | true => exact Entry.lasts_of_expired hnow hx
    | false =>
      have hempty : a.value.isEmpty = true := by simpa [hx] using h
      simp [Entry.lasts, Kind.counts, hempty]

omit [Store τ] in
/-- Channels are cached unless live ones are there. -/
theorem took_channels (groupId : String) (w : World ρ τ) :
    w.Took (.channels groupId) (fillChannels groupId (0, w)).2 := by
  unfold fillChannels
  dsimp only
  split
  · rename_i hask
    exact took_ask hask
  · rename_i channels w' hask
    refine List.foldlRecOn (motive := fun acc : Nat × World ρ τ => w.Took (.channels groupId) acc.2)
      channels takeChannel (took_ask hask) ?_
    intro acc hacc c _
    exact took_cacheIfAbsent hacc .channel c.id c

/-- Where the clock does not go back, steps of a pass end no earlier than they were answered. -/
theorem clock_steps (hclock : ClockAdvances ρ) (known : JoinsRead) (steps : List PassStep)
    (acc : MemberTally × World ρ τ) :
    acc.2.now ≤ (steps.foldl (b.passStep known) acc).2.now ∧
      ∀ a ∈ b.asksOf known steps acc, World.answeredAt a ≤ (steps.foldl (b.passStep known) acc).2.now := by
  induction steps generalizing acc with
  | nil => exact ⟨acc.2.now.le_refl, List.forall_mem_nil _⟩
  | cons step steps ih =>
    rw [List.foldl_cons]
    cases step with
    | ask q =>
      obtain ⟨hnow, hasks⟩ := ih (b.passStep known acc (.ask q))
      exact ⟨Instant.le_trans (hclock q acc.2.now acc.2.platform) hnow, List.forall_mem_cons.2 ⟨hnow, hasks⟩⟩
    | take m =>
      obtain ⟨store, hstep⟩ := b.passStep_take known m acc
      have hsame : (b.passStep known acc (.take m)).2.now = acc.2.now := by rw [hstep]
      rw [← hsame]
      exact ih (b.passStep known acc (.take m))

end Backfill

namespace GroupStep

/-- **Everything that a step can do** but paging: nothing, or one request. -/
theorem perform_cases (step : GroupStep) (w : World ρ τ) :
    (step.asks b w = [] ∧ step.perform b w = w) ∨
    (∃ q, step.asks b w = [(q, w)] ∧ w.Took q (step.perform b w)) ∨
    ∃ groupId, step = .members groupId := by
  cases step with
  | record groupId =>
    cases hlive : w.cache.groups.contains groupId w.now with
    | true =>
      refine .inl ⟨if_pos hlive, ?_⟩
      show (Backfill.fillRecord groupId (0, w)).2 = w
      unfold Backfill.fillRecord
      dsimp only
      rw [if_pos hlive]
    | false => exact .inr (.inl ⟨_, if_neg (by simp [hlive]), Backfill.took_record hlive⟩)
  | roles groupId =>
    cases hlive : Backfill.hasRoles w groupId with
    | true =>
      refine .inl ⟨if_pos hlive, ?_⟩
      show (Backfill.fillRoles groupId (0, w)).2 = w
      unfold Backfill.fillRoles
      dsimp only
      rw [if_pos hlive]
    | false => exact .inr (.inl ⟨_, if_neg (by simp [hlive]), Backfill.took_roles hlive⟩)
  | channels groupId => exact .inr (.inl ⟨_, rfl, Backfill.took_channels groupId w⟩)
  | members groupId => exact .inr (.inr ⟨groupId, rfl⟩)

/-- Paging for members performs the steps of a pass. -/
theorem perform_members (groupId : String) (w : World ρ τ) :
    (members groupId).perform b w =
      ((b.memberSteps groupId w).foldl (b.passStep (b.readJoins groupId w).1) (b.readJoins groupId w).2).2 := by
  obtain ⟨pages, errors, htrace⟩ := b.fillMembers_trace groupId w
  show (b.fillMembers groupId w).2 = _
  rw [htrace]

/-- **A step asks for that and nothing else.** -/
theorem exchanges_perform (step : GroupStep) (w : World (Logged ρ) τ) :
    (step.perform b w).platform.exchanges = w.platform.exchanges ++ (step.asks b w).map World.exchange := by
  rcases perform_cases b step w with ⟨hasks, hstep⟩ | ⟨q, hasks, cache, hstep, -⟩ | ⟨groupId, rfl⟩
  · rw [hasks, hstep]
    exact (List.append_nil _).symm
  · rw [hasks, hstep]
    exact Logged.exchanges_ask q
  · obtain ⟨-, hplatform⟩ := b.readJoins_start groupId w
    rw [perform_members, ← hplatform]
    exact b.exchanges_asksOf _ _ _

/-- **A step spares** what lasts until an instant that the clock does not go beyond. -/
theorem spares_perform {time : Instant} (step : GroupStep) {w : World ρ τ} (hnow : w.now ≤ time)
    (hasks : ∀ a ∈ step.asks b w, World.answeredAt a ≤ time) :
    w.cache.Spares time (step.perform b w).cache ∧ (step.perform b w).now ≤ time := by
  rcases perform_cases b step w with ⟨-, hstep⟩ | ⟨q, hask, cache, hstep, hspares⟩ | ⟨groupId, rfl⟩
  · rw [hstep]
    exact ⟨.refl time w.cache, hnow⟩
  · rw [hask] at hasks
    have hanswered : (w.ask q).2.now ≤ time := hasks (q, w) (List.mem_singleton_self _)
    rw [hstep]
    exact ⟨hspares time hnow hanswered, hanswered⟩
  · obtain ⟨store, hread⟩ := b.readJoins_keeps groupId w
    have hstart : (b.readJoins groupId w).2.2.now ≤ time := by
      rw [hread]
      exact hnow
    obtain ⟨hturns, hend⟩ := b.now_steps _ _ _ hstart hasks
    have hspares := b.spares_steps _ _ _ hturns
    rw [perform_members]
    refine ⟨?_, hend⟩
    rw [hread] at hspares
    exact hspares

/-- Where the clock does not go back, a step ends no earlier than it was answered. -/
theorem now_perform (hclock : ClockAdvances ρ) (step : GroupStep) (w : World ρ τ) :
    w.now ≤ (step.perform b w).now ∧ ∀ a ∈ step.asks b w, World.answeredAt a ≤ (step.perform b w).now := by
  rcases perform_cases b step w with ⟨hask, hstep⟩ | ⟨q, hask, cache, hstep, -⟩ | ⟨groupId, rfl⟩
  · rw [hask, hstep]
    exact ⟨w.now.le_refl, List.forall_mem_nil _⟩
  · rw [hask, hstep]
    refine ⟨hclock q w.now w.platform, ?_⟩
    intro a ha
    rw [List.mem_singleton.1 ha]
    exact (w.ask q).2.now.le_refl
  · obtain ⟨store, hread⟩ := b.readJoins_keeps groupId w
    have hsame : (b.readJoins groupId w).2.2.now = w.now := by rw [hread]
    rw [perform_members, ← hsame]
    exact b.clock_steps hclock _ _ _

end GroupStep

/-! ## One step after the other -/

namespace Backfill

/-- Steps one after the other, each with the world that it meets. -/
def stages : List GroupStep → World ρ τ → List (GroupStep × World ρ τ)
  | [], _ => []
  | step :: steps, w => (step, w) :: stages steps (step.perform b w)

/-- The requests of steps, each with the world that it is put to. -/
def stageAsks (steps : List GroupStep) (w : World ρ τ) : List (Request × World ρ τ) :=
  (b.stages steps w).flatMap fun v => v.1.asks b v.2

/-- The world after steps. -/
def performAll (steps : List GroupStep) (w : World ρ τ) : World ρ τ :=
  steps.foldl (fun w step => step.perform b w) w

theorem map_fst_stages (steps : List GroupStep) (w : World ρ τ) : (b.stages steps w).map Prod.fst = steps := by
  induction steps generalizing w with
  | nil => rfl
  | cons step steps ih => exact congrArg (step :: ·) (ih _)

theorem exchanges_performAll (steps : List GroupStep) (w : World (Logged ρ) τ) :
    (b.performAll steps w).platform.exchanges =
      w.platform.exchanges ++ (b.stageAsks steps w).map World.exchange := by
  induction steps generalizing w with
  | nil => exact (List.append_nil _).symm
  | cons step steps ih =>
    have hrest := ih (step.perform b w)
    rw [GroupStep.exchanges_perform, List.append_assoc, ← List.map_append] at hrest
    exact hrest

theorem spares_performAll {time : Instant} (steps : List GroupStep) {w : World ρ τ} (hnow : w.now ≤ time)
    (hasks : ∀ a ∈ b.stageAsks steps w, World.answeredAt a ≤ time) :
    w.cache.Spares time (b.performAll steps w).cache := by
  induction steps generalizing w with
  | nil => exact .refl time w.cache
  | cons step steps ih =>
    obtain ⟨hfirst, hrest⟩ := List.forall_mem_append.1 hasks
    obtain ⟨hspares, hlater⟩ := step.spares_perform b hnow hfirst
    exact hspares.trans (ih hlater hrest)

theorem now_performAll (hclock : ClockAdvances ρ) (steps : List GroupStep) (w : World ρ τ) :
    w.now ≤ (b.performAll steps w).now ∧
      ∀ a ∈ b.stageAsks steps w, World.answeredAt a ≤ (b.performAll steps w).now := by
  induction steps generalizing w with
  | nil => exact ⟨w.now.le_refl, List.forall_mem_nil _⟩
  | cons step steps ih =>
    obtain ⟨hstep, hanswered⟩ := step.now_perform b hclock w
    obtain ⟨hrest, hasks⟩ := ih (step.perform b w)
    refine ⟨Instant.le_trans hstep hrest, List.forall_mem_append.2 ⟨?_, hasks⟩⟩
    intro a ha
    exact Instant.le_trans (hanswered a ha) hrest

/-! ## A run -/

/-- A part of a visit that is switched on or off. -/
theorem world_step (on : Bool) (s : GroupStep) {f : BackfillReport × World ρ τ → BackfillReport × World ρ τ}
    (hf : ∀ acc, (f acc).2 = s.perform b acc.2) (acc : BackfillReport × World ρ τ) :
    (step on f acc).2 = b.performAll (if on then [s] else []) acc.2 := by
  cases on with
  | true => exact hf acc
  | false => rfl

/-- A visit of a group performs the steps that are switched on, whether or not one of them fails. -/
theorem world_fillGroup (groupId : String) (acc : BackfillReport × World ρ τ) :
    (b.fillGroup groupId acc).2 = b.performAll (b.settings.stepsOf groupId) acc.2 := by
  have hrecord (acc : BackfillReport × World ρ τ) :
      (fillRecord groupId acc).2 = (GroupStep.record groupId).perform b acc.2 :=
    congrArg (fun acc => acc.2) (fillRecord_add groupId acc.1 acc.2)
  have hroles (acc : BackfillReport × World ρ τ) :
      (fillRoles groupId acc).2 = (GroupStep.roles groupId).perform b acc.2 :=
    congrArg (fun acc => acc.2) (fillRoles_add groupId acc.1 acc.2)
  have hchannels (acc : BackfillReport × World ρ τ) :
      (fillChannels groupId acc).2 = (GroupStep.channels groupId).perform b acc.2 :=
    congrArg (fun acc => acc.2) (fillChannels_add groupId acc.1 acc.2)
  unfold fillGroup BackfillSettings.stepsOf performAll
  rw [List.foldl_append, List.foldl_append, List.foldl_append]
  dsimp only
  rw [b.world_step b.settings.members (.members groupId) fun _ => rfl, b.world_step _ _ hchannels,
    b.world_step _ _ hroles, b.world_step _ _ hrecord]
  rfl

/-- **A run goes through the steps of all groups**, once it has reloaded the cache. -/
theorem run_stages (w : World ρ τ) :
    (b.run w).2 = b.performAll ((b.groupIds w).flatMap b.settings.stepsOf) w.reload.2 := by
  have hall (groupIds : List String) (acc : BackfillReport × World ρ τ) :
      (groupIds.foldl b.runGroup acc).2 = b.performAll (groupIds.flatMap b.settings.stepsOf) acc.2 := by
    induction groupIds generalizing acc with
    | nil => rfl
    | cons groupId groupIds ih =>
      rw [List.foldl_cons, ih, List.flatMap_cons, performAll, performAll, List.foldl_append]
      exact congrArg (b.performAll (groupIds.flatMap b.settings.stepsOf)) (b.world_fillGroup groupId acc)
  exact hall (b.groupIds w) _

/-- What a run asks for, and what it leaves alone. -/
structure Sparing (w : World (Logged ρ) τ) (stages : List (GroupStep × World (Logged ρ) τ)) : Prop where
  /-- It goes through the steps that are switched on, group after group, and skips none. -/
  steps : stages.map Prod.fst = (b.groupIds w).flatMap b.settings.stepsOf
  /-- Each step asks for what is not live when its turn comes. -/
  requests : ∀ v ∈ stages, v.1.Requests b v.2 ((v.1.asks b v.2).map Prod.fst)
  /-- The platform is asked for nothing else. -/
  log : (b.run w).2.platform.exchanges =
    w.platform.exchanges ++ (stages.flatMap fun v => v.1.asks b v.2).map World.exchange
  /-- What lasts until an instant that the clock does not go beyond stays as it is and in its order. -/
  spares : ∀ time, w.now ≤ time → (∀ v ∈ stages, ∀ a ∈ v.1.asks b v.2, World.answeredAt a ≤ time) →
    w.cache.Spares time (b.run w).2.cache
  /-- So does what lasts until the end, where the clock does not go back. -/
  sparesAtEnd : ClockAdvances ρ → w.cache.Spares (b.run w).2.now (b.run w).2.cache

/-- **A run asks for what is not live, and disturbs nothing that is**, whatever the
platform and the store answer. -/
theorem run_sparing (w : World (Logged ρ) τ) :
    b.Sparing w (b.stages ((b.groupIds w).flatMap b.settings.stepsOf) w.reload.2) := by
  have hreload (time : Instant) : w.cache.Spares time w.reload.2.cache :=
    Cache.spares_reload time w.cache w.store
  constructor
  · exact b.map_fst_stages _ _
  · intro v _
    exact GroupStep.requests_asks b v.1 v.2
  · rw [run_stages]
    exact b.exchanges_performAll _ w.reload.2
  · intro time hnow hasks
    rw [run_stages]
    refine (hreload time).trans (b.spares_performAll _ hnow ?_)
    intro a ha
    obtain ⟨v, hv, ha⟩ := List.mem_flatMap.1 ha
    exact hasks v hv a ha
  · intro hclock
    rw [run_stages]
    obtain ⟨hnow, hasks⟩ :=
      b.now_performAll hclock.logged ((b.groupIds w).flatMap b.settings.stepsOf) w.reload.2
    exact (hreload _).trans (b.spares_performAll _ hnow hasks)

/-- A cache without a limit on groups.  It has the record of the group that is walked, and
a role list without roles. -/
def sampleCached : World (Logged DirectoryServer) TableStore :=
  let cache := Cache.new { CacheSettings.standard with groups := ⟨0, some (.ofSeconds 3600)⟩ } true false .zero
  let cache := cache.insert (.group "g") (.new "g" "Cached" "u") .epoch
  let cache := cache.insert (.roles "g") (.fetched "g" [] .epoch) .epoch
  { loggedOver (.sampleJoined sampleDay) with cache }

/-- The record is live and is not asked for, the empty role list is.  The cached record outlasts the run with
the expiry that it had, over a platform that knows no such group. -/
theorem run_sparing_sample :
    ClockAdvances DirectoryServer ∧
      sampleGroup.Sparing sampleCached
        (sampleGroup.stages ((sampleGroup.groupIds sampleCached).flatMap sampleGroup.settings.stepsOf)
          sampleCached.reload.2) ∧
      (sampleGroup.run sampleCached).2.platform.exchanges.map Exchange.request =
        [.roles "g", .channels "g", .members "g" none 1000] ∧
      sampleCached.cache.groups.keys = ["g"] ∧
      ∀ e ∈ sampleCached.cache.groups.entries.list,
        e ∈ (sampleGroup.run sampleCached).2.cache.groups.entries.list := by
  have hclock : ClockAdvances DirectoryServer := fun _ now _ => now.le_refl
  have hsparing := sampleGroup.run_sparing sampleCached
  have hgroups := hsparing.sparesAtEnd hclock .group rfl
  have hlasts : ∀ e ∈ sampleCached.cache.groups.entries.list,
      e.lasts (k := .group) (sampleGroup.run sampleCached).2.now = true := by
    decide +kernel
  exact ⟨hclock, hsparing, by decide +kernel, by decide +kernel, fun e he => hgroups.mem he (hlasts e he)⟩

end Backfill

end Roster
