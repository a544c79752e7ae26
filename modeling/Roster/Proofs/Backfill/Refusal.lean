import Roster.Proofs.Backfill.Counts
import Roster.Proofs.Backfill.Steps
import Roster.Proofs.Store.Facts

/-!
# A store that refuses writes does not disturb a backfill

A backfill notes down facts about members while it fills the cache.  Here a run whose store refuses
every write goes along another run with the same settings, whose store may do what it likes and
which may record facts or not.

* `World.withStore`, `World.withWrites` — a world with another store, or with its store
  switched to accept or refuse.
* `MemberTally.withoutFacts`, `BackfillReport.withoutFacts` — the counts that have nothing to do with facts.
* `TallyRefused`, `ReportRefused` — the refused run has counted no facts, and agrees with the other run in
  everything but the store and the counts of facts and errors.
* `TallyRefused.pages`, `ReportRefused.fillGroup` — it stays so along every page of
  members, and along every group.
* `Backfill.caches_alike` — **recorded, refused or left out, facts do not influence what a backfill caches**,
  and a store that refuses writes stays as it is.
-/

set_option autoImplicit false

namespace Roster

variable {ρ : Type}

/-- A world with another store. -/
def World.withStore {τ τ' : Type} (w : World ρ τ) (store : τ') : World ρ τ' :=
  ⟨w.now, w.platform, store, w.cache, w.observed, w.session⟩

/-- A world whose store accepts writes or refuses them. -/
def World.withWrites (w : World ρ TableStore) (accepted : Bool) : World ρ TableStore :=
  w.withStore { w.store with readOnly := !accepted }

/-- The counts of a pass that have nothing to do with facts. -/
def MemberTally.withoutFacts (p : MemberTally) : MemberTally :=
  { p with factsCreated := 0, factsTouched := 0, errors := 0 }

/-- The counts of a run that have nothing to do with facts.  An error may be one of the store. -/
def BackfillReport.withoutFacts (r : BackfillReport) : BackfillReport :=
  { r with groupsFailed := 0, factsCreated := 0, factsTouched := 0, errors := 0 }

namespace Backfill

variable {s : TableStore} {b b' : Backfill} {known known' : JoinsRead}

/-! ## Facts of one member -/

/-- Refused facts change no count but that of the errors. -/
theorem recordMember_readOnly (hs : s.readOnly = true) (b : Backfill) (known : JoinsRead) (m : Member)
    (p : MemberTally) (w : World ρ TableStore) :
    ∃ errors, b.recordMember known m p (w.withStore s) = ({ p with errors }, w.withStore s) := by
  unfold recordMember
  split
  · have hused : (w.withStore s).useStore
        (noteFacts m (known.has m.userId) (w.withStore s).now (w.withStore s).now) =
        (.error TableStore.refusal, w.withStore s) := by
      unfold World.useStore
      rw [show (w.withStore s).store = s from rfl, noteFacts_readOnly hs]
      rfl
    rw [hused]
    exact ⟨p.errors + 1, rfl⟩
  · exact ⟨p.errors, rfl⟩

/-- Recorded facts change the store and the counts of facts and errors, and nothing else. -/
theorem recordMember_keeps (b : Backfill) (known : JoinsRead) (m : Member) (p : MemberTally)
    (w : World ρ TableStore) : (b.recordMember known m p w).2.withStore s = w.withStore s ∧
      (b.recordMember known m p w).1.withoutFacts = p.withoutFacts := by
  unfold recordMember
  split
  · split <;> rename_i hused <;> refine ⟨?_, rfl⟩ <;> rw [← congrArg Prod.snd hused] <;> rfl
  · exact ⟨rfl, rfl⟩

/-! ## Steps that do not look at the store -/

section Storeless

variable {τ τ' : Type} (w : World ρ τ) (store : τ')

theorem ask_withStore [Platform ρ] (q : Request) :
    (w.withStore store).ask q = ((w.ask q).1, (w.ask q).2.withStore store) := rfl

theorem remember_withStore (e : Entity) (r : e.Record) :
    (w.withStore store).remember e r = (w.remember e r).withStore store := rfl

theorem cacheIfAbsent_withStore (k : Kind) (key : String) (r : k.Record) :
    cacheIfAbsent k key r (w.withStore store) =
      ((cacheIfAbsent k key r w).1, (cacheIfAbsent k key r w).2.withStore store) := by
  rw [cacheIfAbsent_eq, cacheIfAbsent_eq]
  rfl

end Storeless

/-! ## A page after the other -/

/-- What a refused pass has in common with another one. -/
structure TallyRefused (s : TableStore) (x y : MemberTally × World ρ TableStore) : Prop where
  world : x.2 = y.2.withStore s
  counts : x.1.withoutFacts = y.1.withoutFacts
  created : x.1.factsCreated = 0
  touched : x.1.factsTouched = 0

namespace TallyRefused

variable {x y : MemberTally × World ρ TableStore}

theorem fetched (h : TallyRefused s x y) : x.1.fetched = y.1.fetched := by
  have hfetched := congrArg MemberTally.fetched h.counts
  exact hfetched

theorem recordMember (hs : s.readOnly = true) (h : TallyRefused s x y) (m : Member) :
    TallyRefused s (b.recordMember known m x.1 x.2) (b'.recordMember known' m y.1 y.2) := by
  obtain ⟨errors, hrefused⟩ := recordMember_readOnly hs b known m x.1 y.2
  obtain ⟨hworld, hcounts⟩ := recordMember_keeps (s := s) b' known' m y.1 y.2
  rw [h.world, hrefused]
  exact ⟨hworld.symm, h.counts.trans hcounts.symm, h.created, h.touched⟩

theorem cacheMember (h : TallyRefused s x y) (m : Member) :
    TallyRefused s (cacheMember m x.1 x.2) (cacheMember m y.1 y.2) := by
  rw [cacheMember_eq, cacheMember_eq, h.world, cacheIfAbsent_withStore]
  refine ⟨rfl, ?_, h.created, h.touched⟩
  have hcounts := congrArg
    (fun p : MemberTally => { p with cached := p.cached + (cacheIfAbsent .member m.id.text m y.2).1 }) h.counts
  exact hcounts

theorem takePage (hs : s.readOnly = true) (b : Backfill) (known : JoinsRead) {page : List Member}
    {w w' : World ρ TableStore} {tally : MemberTally} (htake : b'.takePage known' page w = (tally, w')) :
      ∃ tally', b.takePage known page (w.withStore s) = (tally', w'.withStore s) ∧
        TallyRefused s (tally', w'.withStore s) (tally, w') := by
  have hall : ∀ (x y : MemberTally × World ρ TableStore), TallyRefused s x y →
      TallyRefused s (page.foldl (b.takeMember known) x) (page.foldl (b'.takeMember known') y) := by
    clear htake
    induction page with
    | nil => exact fun _ _ hxy => hxy
    | cons m page ih => exact fun _ _ hxy => ih _ _ ((hxy.recordMember hs m).cacheMember m)
  have hpage : TallyRefused s (b.takePage known page (w.withStore s)) (tally, w') := by
    rw [← htake]
    exact hall _ _ ⟨rfl, rfl, rfl, rfl⟩
  exact ⟨(b.takePage known page (w.withStore s)).1, Prod.ext rfl hpage.world, rfl, hpage.counts, hpage.created,
    hpage.touched⟩

theorem addPage (h : TallyRefused s x y) {tally tally' : MemberTally} {w w' : World ρ TableStore}
    (hpage : TallyRefused s (tally, w) (tally', w')) (page : List Member) :
    TallyRefused s (Backfill.addPage x.1 page tally, w) (Backfill.addPage y.1 page tally', w') where
  world := hpage.world
  counts := by
    have hpages := congrArg MemberTally.pages h.counts
    have hcached := congrArg MemberTally.cached h.counts
    have hnew := congrArg MemberTally.cached hpage.counts
    simp only [MemberTally.withoutFacts] at hpages hcached hnew
    simp only [MemberTally.withoutFacts, Backfill.addPage, hpages, h.fetched, hcached, hnew]
  created := by
    show x.1.factsCreated + tally.factsCreated = 0
    rw [h.created, hpage.created]
  touched := by
    show x.1.factsTouched + tally.factsTouched = 0
    rw [h.touched, hpage.touched]

variable [Platform ρ]

/-- The induction follows the pages of the other pass.  The refused one asks the same,
so it reads the same pages. -/
theorem pages (hs : s.readOnly = true) (hsettings : b.settings = b'.settings) (groupId : String)
    (after : Option String) (p' : MemberTally) (w' : World ρ TableStore) (p : MemberTally)
    (h : TallyRefused s (p, w'.withStore s) (p', w')) :
    TallyRefused s (b.pages groupId known after p (w'.withStore s)) (b'.pages groupId known' after p' w') := by
  have hmore {p p' : MemberTally} (hfetched : p.fetched = p'.fetched) (hcap : p'.fetched < b'.settings.cap) :
      p.fetched < b.settings.cap := by
    rw [hsettings, hfetched]
    exact hcap
  have hasks {p p' : MemberTally} (hfetched : p.fetched = p'.fetched) : b.pageLimit p = b'.pageLimit p' := by
    unfold pageLimit
    rw [hsettings, hfetched]
  have hasked {q : Request} {w w₁ : World ρ TableStore} {answer : Except PlatformError q.Answer}
      (hask : w.ask q = (answer, w₁)) : (w.withStore s).ask q = (answer, w₁.withStore s) := by
    rw [ask_withStore, hask]
  fun_induction Backfill.pages b' groupId known' after p' w' generalizing p with
  | case1 after p' w' hcap limit err w₁ hask =>
    have hlimit : b.pageLimit p = limit := hasks h.fetched
    rw [pages_error b (hmore h.fetched hcap) (by rw [hlimit]; exact hasked hask)]
    exact ⟨rfl, h.counts, h.created, h.touched⟩
  | case2 after p' w' hcap limit w₁ hask =>
    have hlimit : b.pageLimit p = limit := hasks h.fetched
    rw [pages_empty b (hmore h.fetched hcap) (by rw [hlimit]; exact hasked hask)]
    refine ⟨rfl, ?_, h.created, h.touched⟩
    have hcounts := congrArg (fun p : MemberTally => { p with pages := p.pages + 1 }) h.counts
    exact hcounts
  | case3 after p' w' hcap limit m rest w₁ hask page tally w₂ htake p₁ hshort =>
    have hlimit : b.pageLimit p = limit := hasks h.fetched
    obtain ⟨tally', htake', hpage⟩ := takePage hs b known htake
    rw [pages_page b (hmore h.fetched hcap) (List.cons_ne_nil m rest) (by rw [hlimit]; exact hasked hask),
      if_pos (by rw [hlimit]; exact hshort), htake']
    exact h.addPage hpage page
  | case4 after p' w' hcap limit m rest w₁ hask page tally w₂ htake p₁ hfull ih =>
    have hlimit : b.pageLimit p = limit := hasks h.fetched
    obtain ⟨tally', htake', hpage⟩ := takePage hs b known htake
    rw [pages_page b (hmore h.fetched hcap) (List.cons_ne_nil m rest) (by rw [hlimit]; exact hasked hask),
      if_neg (by rw [hlimit]; exact hfull), htake']
    exact ih _ (h.addPage hpage page)
  | case5 after p' w' hcap =>
    have hcapped : ¬p.fetched < b.settings.cap := by
      rw [hsettings, show p.fetched = p'.fetched from h.fetched]
      exact hcap
    rw [pages_capped b hcapped]
    exact h

theorem fillMembers (hs : s.readOnly = true) (hsettings : b.settings = b'.settings) (groupId : String)
    (w : World ρ TableStore) :
    TallyRefused s (b.fillMembers groupId (w.withStore s)) (b'.fillMembers groupId w) := by
  unfold Backfill.fillMembers
  rw [readJoins_eq, readJoins_eq]
  exact pages hs hsettings groupId none .zero w .zero ⟨rfl, rfl, rfl, rfl⟩

end TallyRefused

/-! ## A group after the other -/

/-- What a refused run has in common with another one. -/
structure ReportRefused (s : TableStore) (x y : BackfillReport × World ρ TableStore) : Prop where
  world : x.2 = y.2.withStore s
  counts : x.1.withoutFacts = y.1.withoutFacts
  created : x.1.factsCreated = 0
  touched : x.1.factsTouched = 0

/-- A step that neither looks at the store nor counts facts. -/
structure Storeless (f : BackfillReport × World ρ TableStore → BackfillReport × World ρ TableStore) : Prop where
  adds : ∀ r w, f (r, w) = (r + (f (0, w)).1, (f (0, w)).2)
  store : ∀ w s, f (0, w.withStore s) = ((f (0, w)).1, (f (0, w)).2.withStore s)
  facts : ∀ w, (f (0, w)).1.factsCreated = 0 ∧ (f (0, w)).1.factsTouched = 0

variable [Platform ρ]

theorem storeless_fillRecord (groupId : String) :
    Storeless (fillRecord groupId : BackfillReport × World ρ TableStore → _) where
  adds := fillRecord_add groupId
  store w s := by
    unfold fillRecord
    dsimp only
    by_cases hcached : w.cache.groups.contains groupId w.now = true
    · have hcached' : (w.withStore s).cache.groups.contains groupId (w.withStore s).now = true := hcached
      rw [if_pos hcached, if_pos hcached']
    · have hcached' : ¬(w.withStore s).cache.groups.contains groupId (w.withStore s).now = true := hcached
      rw [if_neg hcached, if_neg hcached', ask_withStore]
      rcases w.ask (.group groupId) with ⟨answer, w'⟩
      cases answer with
      | error err => rfl
      | ok group =>
        dsimp only
        rw [cacheIfAbsent_withStore]
  facts w := by
    unfold fillRecord
    dsimp only
    split
    · exact ⟨rfl, rfl⟩
    · split <;> exact ⟨rfl, rfl⟩

theorem storeless_fillRoles (groupId : String) :
    Storeless (fillRoles groupId : BackfillReport × World ρ TableStore → _) where
  adds := fillRoles_add groupId
  store w s := by
    unfold fillRoles
    dsimp only
    by_cases hcached : hasRoles w groupId = true
    · have hcached' : hasRoles (w.withStore s) groupId = true := hcached
      rw [if_pos hcached, if_pos hcached']
    · have hcached' : ¬hasRoles (w.withStore s) groupId = true := hcached
      rw [if_neg hcached, if_neg hcached', ask_withStore]
      rcases w.ask (.roles groupId) with ⟨answer, w'⟩
      cases answer <;> rfl
  facts w := by
    unfold fillRoles
    dsimp only
    split
    · exact ⟨rfl, rfl⟩
    · split <;> exact ⟨rfl, rfl⟩

omit [Platform ρ] in
theorem takeChannels_withStore (channels : List Channel) (n : Nat) (w : World ρ TableStore) (s : TableStore) :
    channels.foldl takeChannel (n, w.withStore s) =
      ((channels.foldl takeChannel (n, w)).1, (channels.foldl takeChannel (n, w)).2.withStore s) := by
  induction channels generalizing n w with
  | nil => rfl
  | cons c channels ih =>
    have htaken : takeChannel (n, w.withStore s) c =
        ((takeChannel (n, w) c).1, (takeChannel (n, w) c).2.withStore s) := by
      unfold takeChannel
      dsimp only
      rw [cacheIfAbsent_withStore]
    rw [List.foldl_cons, htaken, ih]
    rfl

theorem storeless_fillChannels (groupId : String) :
    Storeless (fillChannels groupId : BackfillReport × World ρ TableStore → _) where
  adds := fillChannels_add groupId
  store w s := by
    unfold fillChannels
    dsimp only
    rw [ask_withStore]
    rcases w.ask (.channels groupId) with ⟨answer, w'⟩
    cases answer with
    | error err => rfl
    | ok channels =>
      dsimp only
      rw [takeChannels_withStore]
  facts w := by
    unfold fillChannels
    dsimp only
    split <;> exact ⟨rfl, rfl⟩

namespace ReportRefused

variable {x y : BackfillReport × World ρ TableStore}

omit [Platform ρ] in
/-- Counts that both runs add leave them in step, as long as there are no facts among them. -/
theorem add (h : ReportRefused s x y) {δ δ' : BackfillReport} {w w' : World ρ TableStore}
    (hadd : ReportRefused s (δ, w) (δ', w')) : ReportRefused s (x.1 + δ, w) (y.1 + δ', w') where
  world := hadd.world
  counts := by
    have hsum (r r' : BackfillReport) : (r + r').withoutFacts = r.withoutFacts + r'.withoutFacts := rfl
    show (x.1 + δ).withoutFacts = (y.1 + δ').withoutFacts
    rw [hsum, hsum, h.counts, show δ.withoutFacts = δ'.withoutFacts from hadd.counts]
  created := by
    show x.1.factsCreated + δ.factsCreated = 0
    rw [h.created, show δ.factsCreated = 0 from hadd.created]
  touched := by
    show x.1.factsTouched + δ.factsTouched = 0
    rw [h.touched, show δ.factsTouched = 0 from hadd.touched]

omit [Platform ρ] in
theorem storeless {f : BackfillReport × World ρ TableStore → BackfillReport × World ρ TableStore}
    (hf : Storeless f) (h : ReportRefused s x y) (on : Bool) : ReportRefused s (step on f x) (step on f y) := by
  cases on with
  | false => exact h
  | true =>
    show ReportRefused s (f (x.1, x.2)) (f (y.1, y.2))
    rw [hf.adds, hf.adds y.1, h.world, hf.store]
    exact h.add ⟨rfl, rfl, (hf.facts y.2).1, (hf.facts y.2).2⟩

theorem members (hs : s.readOnly = true) (hsettings : b.settings = b'.settings) (h : ReportRefused s x y)
    (groupId : String) : ReportRefused s
      ((x.1.addTally (b.fillMembers groupId x.2).1), (b.fillMembers groupId x.2).2)
      ((y.1.addTally (b'.fillMembers groupId y.2).1), (b'.fillMembers groupId y.2).2) := by
  have htally := TallyRefused.fillMembers hs hsettings groupId y.2
  rw [BackfillReport.addTally_eq, BackfillReport.addTally_eq, h.world]
  refine h.add ⟨htally.world, ?_, ?_, ?_⟩
  · have hcached := congrArg (fun p : MemberTally => { BackfillReport.zero with membersCached := 0 + p.cached })
      htally.counts
    exact hcached
  · exact (Nat.zero_add _).trans htally.created
  · exact (Nat.zero_add _).trans htally.touched

theorem fillGroup (hs : s.readOnly = true) (hsettings : b.settings = b'.settings) (h : ReportRefused s x y)
    (groupId : String) : ReportRefused s (b.fillGroup groupId x) (b'.fillGroup groupId y) := by
  have h₁ := h.storeless (storeless_fillRecord groupId) b.settings.groups
  have h₂ := h₁.storeless (storeless_fillRoles groupId) b.settings.roles
  have h₃ := h₂.storeless (storeless_fillChannels groupId) b.settings.channels
  unfold Backfill.fillGroup
  rw [← hsettings]
  cases b.settings.members with
  | false => exact h₃
  | true => exact h₃.members hs hsettings groupId

theorem runGroup (hs : s.readOnly = true) (hsettings : b.settings = b'.settings) (h : ReportRefused s x y)
    (groupId : String) : ReportRefused s (b.runGroup x groupId) (b'.runGroup y groupId) := by
  have hgroup := h.fillGroup hs hsettings groupId
  refine ⟨hgroup.world, ?_, hgroup.created, hgroup.touched⟩
  have hprocessed := congrArg (fun r : BackfillReport => { r with groupsProcessed := r.groupsProcessed + 1 })
    hgroup.counts
  exact hprocessed

theorem runAll (hs : s.readOnly = true) (hsettings : b.settings = b'.settings) (h : ReportRefused s x y)
    (groupIds : List String) : ReportRefused s (b.runAll groupIds x) (b'.runAll groupIds y) := by
  induction groupIds generalizing x y with
  | nil => exact h
  | cons groupId groupIds ih => exact ih (h.runGroup hs hsettings groupId)

omit [Platform ρ] in
/-- Both reload the same rows. -/
theorem reload_withStore {w : World ρ TableStore} (hrows : s.cacheRows = w.store.cacheRows) :
    (w.withStore s).reload = (w.reload.1, w.reload.2.withStore s) := by
  have hreload (c : Cache) {s s' : TableStore} (h : s.cacheRows = s'.cacheRows) :
      c.reload s = ((c.reload s').1, (c.reload s').2.1, s) := by
    obtain ⟨rows, joins, roles, retention, readOnly⟩ := s
    obtain ⟨rows', joins', roles', retention', readOnly'⟩ := s'
    obtain rfl : rows = rows' := h
    unfold Cache.reload
    split <;> rfl
  unfold World.reload
  rw [show (w.withStore s).cache.reload (w.withStore s).store = w.cache.reload s from rfl,
    hreload w.cache hrows]
  rfl

theorem run (hs : s.readOnly = true) (hsettings : b.settings = b'.settings) {w : World ρ TableStore}
    (hrows : s.cacheRows = w.store.cacheRows) : ReportRefused s (b.run (w.withStore s)) (b'.run w) := by
  have hlast : ReportRefused s (b.upToLast (w.withStore s)) (b'.upToLast w) := by
    have hgroups : b.groupIds (w.reload.2.withStore s) = b'.groupIds w.reload.2 := by
      unfold Backfill.groupIds
      rw [hsettings]
      rfl
    have hstart : ReportRefused s (w.reload.1.report, w.reload.2.withStore s)
        (w.reload.1.report, w.reload.2) := by
      refine ⟨rfl, rfl, ?_, ?_⟩ <;> unfold Reload.report <;> split <;> rfl
    unfold Backfill.upToLast
    rw [reload_withStore hrows, hgroups]
    exact hstart.runAll hs hsettings _
  have hnow : (b.upToLast (w.withStore s)).2.now = (b'.upToLast w).2.now := by
    rw [hlast.world]
    rfl
  have hcounts := congrArg (fun r : BackfillReport => { r with elapsed := (b'.upToLast w).2.now.since w.now })
    hlast.counts
  rw [run_eq, run_eq, hnow]
  exact ⟨hlast.world, hcounts, hlast.created, hlast.touched⟩

end ReportRefused

/-! ## Members one by one -/

/-- A member that is fetched again is counted and cached whatever becomes of its facts. -/
theorem refreshMember_withStore (hs : s.readOnly = true) (b b' : Backfill) (groupId : String)
    (seen : Instant) (n : Nat) (w : World ρ TableStore) (user : String) :
    b.refreshMember groupId seen (n, w.withStore s) user =
      ((b'.refreshMember groupId seen (n, w) user).1,
        (b'.refreshMember groupId seen (n, w) user).2.withStore s) := by
  unfold refreshMember
  dsimp only
  rw [ask_withStore]
  rcases w.ask (.member ⟨groupId, user⟩) with ⟨answer, w'⟩
  cases answer with
  | error err => rfl
  | ok m =>
    have hrefused : (if b.recordsFacts then
        ((w'.withStore s).useStore (replaceFacts m seen (w'.withStore s).now)).2 else w'.withStore s) =
          w'.withStore s := by
      split
      · unfold World.useStore
        dsimp only
        rw [show (w'.withStore s).store = s from rfl, replaceFacts_readOnly hs]
        rfl
      · rfl
    have hkept : (if b'.recordsFacts then
        (w'.useStore (replaceFacts m seen w'.now)).2 else w').withStore s = w'.withStore s := by
      split <;> rfl
    dsimp only
    rw [hrefused, ← remember_withStore, hkept]

theorem refresh_withStore (hs : s.readOnly = true) (b b' : Backfill) (groupId : String) (users : List String)
    (w : World ρ TableStore) : b.refresh groupId users (w.withStore s) =
      ((b'.refresh groupId users w).1, (b'.refresh groupId users w).2.withStore s) := by
  have hall (n : Nat) (w₁ : World ρ TableStore) :
      users.foldl (b.refreshMember groupId w.now) (n, w₁.withStore s) =
        ((users.foldl (b'.refreshMember groupId w.now) (n, w₁)).1,
          (users.foldl (b'.refreshMember groupId w.now) (n, w₁)).2.withStore s) := by
    induction users generalizing n w₁ with
    | nil => rfl
    | cons user users ih =>
      rw [List.foldl_cons, List.foldl_cons, refreshMember_withStore hs b b']
      exact ih _ _
  exact hall 0 w

/-! ## Three ways to treat facts -/

/-- Three outcomes of one call from a world: facts were recorded, refused by the store, or left out.  They
are the same in everything that `counts` tells and in all that a world has beside its store, and the store
that refused is unchanged. -/
structure Indifferent {α β : Type} (counts : α → β) (w : World ρ TableStore)
    (recorded refused absent : α × World ρ TableStore) : Prop where
  worlds : refused.2.withStore () = recorded.2.withStore () ∧ absent.2.withStore () = recorded.2.withStore ()
  counts : counts refused.1 = counts recorded.1 ∧ counts absent.1 = counts recorded.1
  store : refused.2.store = (w.withWrites false).store

omit [Platform ρ] in
/-- It is enough to compare the refused outcome with the two others. -/
theorem indifferent_of_refused {α β : Type} {counts : α → β} {w : World ρ TableStore}
    {recorded refused absent : α × World ρ TableStore}
    (hrecorded : refused.2 = recorded.2.withStore (w.withWrites false).store)
    (habsent : refused.2 = absent.2.withStore (w.withWrites false).store)
    (hcounts : counts refused.1 = counts recorded.1) (hcounts' : counts refused.1 = counts absent.1) :
    Indifferent counts w recorded refused absent where
  worlds := by
    have hsame : refused.2.withStore () = recorded.2.withStore () := by
      rw [hrecorded]
      rfl
    have hsame' : refused.2.withStore () = absent.2.withStore () := by
      rw [habsent]
      rfl
    exact ⟨hsame, hsame'.symm.trans hsame⟩
  counts := ⟨hcounts, hcounts'.symm.trans hcounts⟩
  store := by
    rw [hrecorded]
    rfl

/-- **Facts do not influence what is cached.**  A run, a pass over the members of a group and a refresh
leave the same cache, clock and platform, whether their facts are recorded, refused by the store or
left out.  They count the same but for facts and errors, and where the store refuses, it stays as it is
and no facts are counted. -/
theorem caches_alike (settings : BackfillSettings) (w : World ρ TableStore) :
    let recording : Backfill := ⟨settings, true⟩
    let silent : Backfill := ⟨settings, false⟩
    (Indifferent BackfillReport.withoutFacts w (recording.run (w.withWrites true))
        (recording.run (w.withWrites false)) (silent.run w) ∧
      (recording.run (w.withWrites false)).1.factsCreated = 0 ∧
      (recording.run (w.withWrites false)).1.factsTouched = 0) ∧
    (∀ groupId, Indifferent MemberTally.withoutFacts w (recording.fillMembers groupId (w.withWrites true))
        (recording.fillMembers groupId (w.withWrites false)) (silent.fillMembers groupId w) ∧
      (recording.fillMembers groupId (w.withWrites false)).1.factsCreated = 0 ∧
      (recording.fillMembers groupId (w.withWrites false)).1.factsTouched = 0) ∧
    ∀ groupId users, Indifferent (fun refreshed : Nat => refreshed) w
      (recording.refresh groupId users (w.withWrites true))
      (recording.refresh groupId users (w.withWrites false)) (silent.refresh groupId users w) := by
  intro recording silent
  have hs : (w.withWrites false).store.readOnly = true := rfl
  have hsettings : recording.settings = silent.settings := rfl
  refine ⟨?_, fun groupId => ?_, fun groupId users => ?_⟩
  · have hrecorded : ReportRefused (w.withWrites false).store (recording.run (w.withWrites false))
        (recording.run (w.withWrites true)) := .run (w := w.withWrites true) hs rfl rfl
    have habsent : ReportRefused (w.withWrites false).store (recording.run (w.withWrites false))
        (silent.run w) :=
      .run (w := w) hs hsettings rfl
    exact ⟨indifferent_of_refused hrecorded.world habsent.world hrecorded.counts habsent.counts,
      hrecorded.created, hrecorded.touched⟩
  · have hrecorded : TallyRefused (w.withWrites false).store
        (recording.fillMembers groupId (w.withWrites false))
        (recording.fillMembers groupId (w.withWrites true)) := .fillMembers hs rfl groupId (w.withWrites true)
    have habsent : TallyRefused (w.withWrites false).store (recording.fillMembers groupId (w.withWrites false))
        (silent.fillMembers groupId w) := .fillMembers hs hsettings groupId w
    exact ⟨indifferent_of_refused hrecorded.world habsent.world hrecorded.counts habsent.counts,
      hrecorded.created, hrecorded.touched⟩
  · have hrecorded := refresh_withStore hs recording recording groupId users (w.withWrites true)
    have habsent := refresh_withStore hs recording silent groupId users w
    have hcount := congrArg Prod.fst hrecorded
    have hcount' := congrArg Prod.fst habsent
    exact indifferent_of_refused (congrArg Prod.snd hrecorded) (congrArg Prod.snd habsent) hcount hcount'

end Backfill

end Roster
