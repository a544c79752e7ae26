import Roster.Proofs.Backfill.PagePlan
import Roster.Proofs.Platform

/-!
# A pass over the members of a group

A pass asks for one page after the other and takes in the members of each, one after the other.

* `PassStep`, `Backfill.passStep` — a request for a page, or one member that is taken in, with its counts.
* `Backfill.pageSteps`, `passSteps` — the steps of a page, and of a whole pass over a list of members.
* `Backfill.turns` — the members that are taken in, each with the world that it met.
* `Backfill.took` — what taking in one member does to the counts; `tallied_steps`: and a list of steps.
* `Backfill.fillMembers_steps` — **paging through a group performs the steps of its members**.
* `Backfill.MemberPass`, `fillMembers_pass` — **what a pass asks, takes in and reports**.
-/

set_option autoImplicit false

namespace Roster

/-- A segment takes a conditional write exactly when it has no live entry under the key. -/
theorem Segment.insertUnlessLive_fst {α : Type} (s : Segment α) {key : String} (hk : key ≠ "") (value : α)
    (now : Instant) : (s.insertUnlessLive key value now).1 = (s.live? key now).isNone := by
  cases hlive : s.live? key now with
  | some e =>
    rw [insertUnlessLive_of_live hlive]
    rfl
  | none =>
    rcases s.insertUnlessLive_cases key value now with ⟨hempty, -⟩ | ⟨e, hfind, hx, -⟩ | ⟨_, -, hi⟩
    · exact absurd hempty hk
    · rw [hasExpired_of_live?_none hlive hfind] at hx
      cases hx
    · rw [hi]
      rfl

/-- A platform with a log serves what it serves without one. -/
theorem Directory.Serves.logged {ρ : Type} [Platform ρ] {d : Directory} {serving : ρ → Prop}
    (h : d.Serves serving) :
    d.Serves fun p : Logged ρ => serving p.platform where
  answer q now p hp := h.answer q now p.platform hp
  keep q now p hp := h.keep q now p.platform hp

namespace MemberTally

instance : Add MemberTally where
  add p q := ⟨p.pages + q.pages, p.fetched + q.fetched, p.cached + q.cached, p.factsCreated + q.factsCreated,
    p.factsTouched + q.factsTouched, p.errors + q.errors⟩

theorem add_def (p q : MemberTally) : p + q =
    ⟨p.pages + q.pages, p.fetched + q.fetched, p.cached + q.cached, p.factsCreated + q.factsCreated,
      p.factsTouched + q.factsTouched, p.errors + q.errors⟩ := rfl

theorem add_assoc (p q r : MemberTally) : p + q + r = p + (q + r) := by
  simp only [add_def, Nat.add_assoc]

theorem zero_add (p : MemberTally) : zero + p = p := by
  simp only [add_def, zero, Nat.zero_add]

/-- The facts that were created, touched or refused. -/
def facts (p : MemberTally) : Nat := p.factsCreated + p.factsTouched + p.errors

theorem facts_add (p q : MemberTally) : (p + q).facts = p.facts + q.facts := by
  simp only [facts, add_def]
  omega

/-- What the facts of one member count as. -/
def ofNoted : Except Error Bool → MemberTally
  | .ok true => { zero with factsCreated := 1 }
  | .ok false => { zero with factsTouched := 1 }
  | .error _ => { zero with errors := 1 }

end MemberTally

/-- A step of a pass over members. -/
inductive PassStep where
  | ask (q : Request)
  | take (m : Member)

/-- What a step asks for. -/
def PassStep.request? : PassStep → Option Request
  | .ask q => some q
  | .take _ => none

/-- Whom a step takes in. -/
def PassStep.member? : PassStep → Option Member
  | .ask _ => none
  | .take m => some m

namespace Backfill

variable {ρ τ : Type} [Store τ] (b : Backfill) (known : JoinsRead)

/-! ## Taking in a member -/

/-- Whether a member has a live entry under its key. -/
def isCached (t : Member × World ρ τ) : Bool := (t.2.cache.members.live? t.1.id.text t.2.now).isSome

/-- What recording the facts of a member counts, and the world after it. -/
def noted (m : Member) (w : World ρ τ) : MemberTally × World ρ τ :=
  if b.recordsFacts then
    (.ofNoted (w.useStore (noteFacts m (known.has m.userId) w.now w.now)).1,
      (w.useStore (noteFacts m (known.has m.userId) w.now w.now)).2)
  else (.zero, w)

theorem recordMember_add (m : Member) (p : MemberTally) (w : World ρ τ) :
    b.recordMember known m p w = (p + (b.noted known m w).1, (b.noted known m w).2) := by
  unfold recordMember noted
  split
  · split <;> rename_i hused <;> rw [hused] <;> rfl
  · rfl

/-- Only the store sees it. -/
theorem noted_keeps (m : Member) (w : World ρ τ) : ∃ store, (b.noted known m w).2 = { w with store } := by
  unfold noted
  split
  · exact ⟨_, rfl⟩
  · exact ⟨w.store, rfl⟩

theorem noted_counts (m : Member) (w : World ρ τ) : ∃ created touched errors,
    (b.noted known m w).1 = ⟨0, 0, 0, created, touched, errors⟩ ∧
      (b.recordsFacts = true → created + touched + errors = 1) := by
  unfold noted
  split
  · dsimp only
    unfold MemberTally.ofNoted
    split <;> exact ⟨_, _, _, rfl, fun _ => rfl⟩
  · rename_i hoff
    exact ⟨0, 0, 0, rfl, fun hon => absurd hon hoff⟩

/-- What taking in a member counts: one entry unless it is cached, and one fact. -/
def takenIn (m : Member) (w : World ρ τ) : MemberTally :=
  { (b.noted known m w).1 with pages := 0, fetched := 0, cached := (!isCached (m, w)).toNat }

theorem takeMember_add (m : Member) (p : MemberTally) (w : World ρ τ) :
    b.takeMember known (p, w) m = (p + b.takenIn known m w, (b.takeMember known (.zero, w) m).2) := by
  obtain ⟨store, hstore⟩ := b.noted_keeps known m w
  obtain ⟨created, touched, errors, hcounts, -⟩ := b.noted_counts known m w
  unfold takeMember takenIn
  dsimp only
  rw [recordMember_add, recordMember_add, cacheMember_eq, cacheMember_eq, cacheIfAbsent_eq, hstore, hcounts]
  refine Prod.ext ?_ rfl
  show (⟨_, _, p.cached + 0 + (w.cache.members.insertUnlessLive m.id.text m w.now).1.toNat,
    _, _, _⟩ : MemberTally) = _
  rw [Segment.insertUnlessLive_fst _ m.id.text_ne_empty, ← Option.not_isSome]
  rfl

theorem facts_takenIn (h : b.recordsFacts = true) (m : Member) (w : World ρ τ) :
    (b.takenIn known m w).facts = 1 := by
  obtain ⟨created, touched, errors, hcounts, hone⟩ := b.noted_counts known m w
  unfold takenIn
  rw [hcounts]
  exact hone h

/-- The members of a page add what they would count on their own. -/
theorem foldl_takeMember_add (page : List Member) (p : MemberTally) (w : World ρ τ) :
    page.foldl (b.takeMember known) (p, w) =
      (p + (b.takePage known page w).1, (b.takePage known page w).2) := by
  induction page generalizing p w with
  | nil => rfl
  | cons m page ih =>
    have hpage : b.takePage known (m :: page) w =
        page.foldl (b.takeMember known) (b.takeMember known (.zero, w) m) := rfl
    rw [hpage, List.foldl_cons, b.takeMember_add known m p, b.takeMember_add known m .zero, ih, ih,
      MemberTally.zero_add, MemberTally.add_assoc]

theorem takePage_cons (m : Member) (page : List Member) (w : World ρ τ) :
    b.takePage known (m :: page) w =
      (b.takenIn known m w + (b.takePage known page (b.takeMember known (.zero, w) m).2).1,
        (b.takePage known page (b.takeMember known (.zero, w) m).2).2) := by
  have hpage : b.takePage known (m :: page) w =
      page.foldl (b.takeMember known) (b.takeMember known (.zero, w) m) := rfl
  rw [hpage, b.takeMember_add known m .zero, foldl_takeMember_add, MemberTally.zero_add]

theorem platform_takePage (page : List Member) (w : World ρ τ) :
    (b.takePage known page w).2.platform = w.platform := by
  induction page generalizing w with
  | nil => rfl
  | cons m page ih =>
    rw [takePage_cons]
    exact (ih _).trans (b.platform_takeMember known m .zero w)

variable [Platform ρ]

/-! ## Steps -/

/-- Perform a step. -/
def passStep (acc : MemberTally × World ρ τ) : PassStep → MemberTally × World ρ τ
  | .ask q => ({ acc.1 with pages := acc.1.pages + 1 }, (acc.2.ask q).2)
  | .take m =>
    let (p, w) := b.takeMember known acc m
    ({ p with fetched := p.fetched + 1 }, w)

/-- The steps of a page: it is asked for, and its members are taken in one after the other. -/
def pageSteps (groupId : String) (ms : List Member) (k : Nat) : List PassStep :=
  .ask (.members groupId (b.settings.cursorAt ms k) (b.settings.limitAt k)) ::
    (b.settings.pageAt ms k).map PassStep.take

/-- The steps of a pass over the members of a group: one page after the other. -/
def passSteps (groupId : String) (ms : List Member) : List PassStep :=
  (List.range (b.settings.pageCount ms.length)).flatMap (b.pageSteps groupId ms)

theorem foldl_take (page : List Member) (p : MemberTally) (w : World ρ τ) :
    (page.map PassStep.take).foldl (b.passStep known) (p, w) =
      ({ p + (b.takePage known page w).1 with pages := p.pages, fetched := p.fetched + page.length },
        (b.takePage known page w).2) := by
  induction page generalizing p w with
  | nil => rfl
  | cons m page ih =>
    have hstep : b.passStep known (p, w) (.take m) =
        ({ p + b.takenIn known m w with fetched := p.fetched + 1 }, (b.takeMember known (.zero, w) m).2) := by
      rw [passStep, takeMember_add]
      rfl
    rw [List.map_cons, List.foldl_cons, hstep, ih, takePage_cons, ← MemberTally.add_assoc, List.length_cons,
      Nat.add_comm page.length, ← Nat.add_assoc]
    rfl

/-- A page is asked for and added to the counts. -/
theorem foldl_askedPage (q : Request) (page : List Member) (p : MemberTally) (w : World ρ τ) :
    (PassStep.ask q :: page.map PassStep.take).foldl (b.passStep known) (p, w) =
      (addPage p page (b.takePage known page (w.ask q).2).1, (b.takePage known page (w.ask q).2).2) := by
  rw [List.foldl_cons, passStep, foldl_take]
  rfl

theorem foldl_pageSteps (groupId : String) (ms : List Member) (k : Nat) (p : MemberTally) (w : World ρ τ) :
    let w' := (w.ask (.members groupId (b.settings.cursorAt ms k) (b.settings.limitAt k))).2
    (b.pageSteps groupId ms k).foldl (b.passStep known) (p, w) =
      (addPage p (b.settings.pageAt ms k) (b.takePage known (b.settings.pageAt ms k) w').1,
        (b.takePage known (b.settings.pageAt ms k) w').2) :=
  b.foldl_askedPage known _ (b.settings.pageAt ms k) p w

section Served

variable {d : Directory} {serving : ρ → Prop} {groupId : String}

/-- The answer to the request for a page. -/
theorem answer_pageAt {s : BackfillSettings} {k : Nat} (hworks : groupId ∉ d.failingGroups)
    (hdistinct : d.Distinct groupId) (hk : k < s.pageCount (d.membersOf groupId).length) :
    d.answer (.members groupId (s.cursorAt (d.membersOf groupId) k) (s.limitAt k)) =
      .ok (s.pageAt (d.membersOf groupId) k) := by
  have hlimit : min (s.limitAt k) maxPageSize = s.limitAt k := by
    unfold BackfillSettings.limitAt
    split <;> omega
  rw [Directory.answer_members hworks, Directory.behind_cursorAt hdistinct hk, hlimit]
  rfl

/-- One page: it is the last one when it is short. -/
theorem pages_pageSteps (hs : d.Serves serving) (hworks : groupId ∉ d.failingGroups)
    (hdistinct : d.Distinct groupId) (hn : b.settings.memberCap = 0 → (d.membersOf groupId).length < 2 ^ 63)
    {k : Nat} (hk : k < b.settings.pageCount (d.membersOf groupId).length) {p : MemberTally} {w : World ρ τ}
    (hw : serving w.platform) (hfetched : p.fetched = maxPageSize * k) :
    let acc := (b.pageSteps groupId (d.membersOf groupId) k).foldl (b.passStep known) (p, w)
    b.pages groupId known (b.settings.cursorAt (d.membersOf groupId) k) p w =
      if (b.settings.pageAt (d.membersOf groupId) k).length < b.settings.limitAt k then acc
      else b.pages groupId known (b.settings.cursorAt (d.membersOf groupId) (k + 1)) acc.1 acc.2 := by
  obtain ⟨hcap, hlimit⟩ := BackfillSettings.limitAt_eq hn hk
  have hpageLimit : b.pageLimit p = b.settings.limitAt k := by rw [pageLimit, hfetched, hlimit]
  have hask : w.ask (.members groupId (b.settings.cursorAt (d.membersOf groupId) k) (b.pageLimit p)) =
      (.ok (b.settings.pageAt (d.membersOf groupId) k),
        (w.ask (.members groupId (b.settings.cursorAt (d.membersOf groupId) k) (b.settings.limitAt k))).2) := by
    rw [hpageLimit]
    refine Prod.ext ?_ rfl
    exact (hs.answer _ w.now w.platform hw).trans (answer_pageAt hworks hdistinct hk)
  rw [← hfetched] at hcap
  intro acc
  have hacc := b.foldl_pageSteps known groupId (d.membersOf groupId) k p w
  by_cases hpage : b.settings.pageAt (d.membersOf groupId) k = []
  · have hpos := BackfillSettings.limitAt_pos hn hk
    rw [hpage] at hask hacc
    rw [hpage, List.length_nil, if_pos hpos, b.pages_empty hcap hask]
    exact hacc.symm
  · rw [b.pages_page hcap hpage hask, hpageLimit, BackfillSettings.cursorAt,
      List.getLast?_eq_some_getLast hpage]
    rw [show acc = _ from hacc]
    rfl

/-- **Paging from some page on** performs the steps of that page and of those behind it. -/
theorem pages_steps (hs : d.Serves serving) (hworks : groupId ∉ d.failingGroups)
    (hdistinct : d.Distinct groupId) (hn : b.settings.memberCap = 0 → (d.membersOf groupId).length < 2 ^ 63)
    (n k : Nat) (hk : k + (n + 1) = b.settings.pageCount (d.membersOf groupId).length) (p : MemberTally)
    (w : World ρ τ) (hw : serving w.platform) (hfetched : p.fetched = maxPageSize * k) :
    b.pages groupId known (b.settings.cursorAt (d.membersOf groupId) k) p w =
      ((List.range' k (n + 1)).flatMap (b.pageSteps groupId (d.membersOf groupId))).foldl
        (b.passStep known) (p, w) := by
  induction n generalizing k p w with
  | zero =>
    rw [b.pages_pageSteps known hs hworks hdistinct hn (by omega) hw hfetched, List.range'_one,
      List.flatMap_singleton, foldl_pageSteps]
    split
    · rfl
    · rename_i hfull
      apply b.pages_capped
      show ¬p.fetched + (b.settings.pageAt (d.membersOf groupId) k).length < b.settings.cap
      rw [hfetched]
      exact Nat.not_lt.2 (BackfillSettings.reaches_cap hn hk hfull)
  | succ n ih =>
    obtain ⟨hlimit, hlong⟩ :=
      BackfillSettings.full_page (s := b.settings) (k := k) (by omega) (n := (d.membersOf groupId).length)
    have hlength : (b.settings.pageAt (d.membersOf groupId) k).length = maxPageSize := by
      rw [BackfillSettings.length_pageAt, hlimit]
      simp only [maxPageSize] at hlong ⊢
      omega
    rw [b.pages_pageSteps known hs hworks hdistinct hn (by omega) hw hfetched, if_neg (by omega),
      List.range'_succ, List.flatMap_cons, List.foldl_append]
    have hacc := b.foldl_pageSteps known groupId (d.membersOf groupId) k p w
    apply ih (k + 1) (by omega)
    · rw [hacc]
      rw [platform_takePage]
      exact hs.keep _ w.now w.platform hw
    · rw [hacc]
      show p.fetched + (b.settings.pageAt (d.membersOf groupId) k).length = _
      rw [hfetched, hlength, Nat.mul_succ]

end Served

/-! ## Turns and counts -/

/-- The members that steps take in, each with the world that it meets when its turn comes. -/
def turns : List PassStep → MemberTally × World ρ τ → List (Member × World ρ τ)
  | [], _ => []
  | .ask q :: steps, acc => turns steps (b.passStep known acc (.ask q))
  | .take m :: steps, acc => (m, acc.2) :: turns steps (b.passStep known acc (.take m))

theorem map_fst_turns (steps : List PassStep) (acc : MemberTally × World ρ τ) :
    (b.turns known steps acc).map Prod.fst = steps.filterMap PassStep.member? := by
  induction steps generalizing acc with
  | nil => rfl
  | cons step steps ih =>
    cases step with
    | ask q => exact ih _
    | take m => exact congrArg (m :: ·) (ih _)

/-- What steps do to the counts of a pass. -/
structure Tallied (asked : Nat) (turns : List (Member × World ρ τ)) (p p' : MemberTally) : Prop where
  pages : p'.pages = p.pages + asked
  fetched : p'.fetched = p.fetched + turns.length
  cached : p'.cached = p.cached + turns.countP fun t => !isCached t
  facts : b.recordsFacts = true → p'.facts = p.facts + turns.length

omit [Store τ] [Platform ρ] in
theorem Tallied.ask {asked : Nat} {turns : List (Member × World ρ τ)} {p p' : MemberTally}
    (h : b.Tallied asked turns { p with pages := p.pages + 1 } p') : b.Tallied (asked + 1) turns p p' where
  pages := by rw [h.pages, Nat.add_assoc, Nat.add_comm 1]
  fetched := h.fetched
  cached := h.cached
  facts := h.facts

omit [Platform ρ] in
theorem Tallied.take {asked : Nat} {turns : List (Member × World ρ τ)} {p p' : MemberTally} {m : Member}
    {w : World ρ τ}
    (h : b.Tallied asked turns { p + b.takenIn known m w with fetched := p.fetched + 1 } p') :
    b.Tallied asked ((m, w) :: turns) p p' where
  pages := h.pages
  fetched := by
    have hfetched : p'.fetched = p.fetched + 1 + turns.length := h.fetched
    rw [hfetched, List.length_cons]
    omega
  cached := by
    have hcached : p'.cached = p.cached + (!isCached (m, w)).toNat + turns.countP fun t => !isCached t :=
      h.cached
    rw [hcached, List.countP_cons, Nat.add_assoc, Nat.add_comm (Bool.toNat _)]
    cases isCached (m, w) <;> rfl
  facts hon := by
    have hfacts : p'.facts = (p + b.takenIn known m w).facts + turns.length := h.facts hon
    rw [hfacts, MemberTally.facts_add, b.facts_takenIn known hon, List.length_cons]
    omega

/-- **Steps count** their requests, the members they take in, those that were not cached, and the facts. -/
theorem tallied_steps (steps : List PassStep) (acc : MemberTally × World ρ τ) :
    b.Tallied (steps.filterMap PassStep.request?).length (b.turns known steps acc) acc.1
      (steps.foldl (b.passStep known) acc).1 := by
  induction steps generalizing acc with
  | nil => exact ⟨rfl, rfl, rfl, fun _ => rfl⟩
  | cons step steps ih =>
    cases step with
    | ask q => exact Tallied.ask b (ih (b.passStep known acc (.ask q)))
    | take m =>
      obtain ⟨p, w⟩ := acc
      have hstep : (b.passStep known (p, w) (.take m)).1 =
          { p + b.takenIn known m w with fetched := p.fetched + 1 } := by
        rw [passStep, takeMember_add]
        rfl
      have hrest := ih (b.passStep known (p, w) (.take m))
      rw [hstep] at hrest
      exact Tallied.take b known hrest

/-- The platform is asked what the steps ask for, and answers out of the directory. -/
theorem exchanges_steps {d : Directory} {serving : ρ → Prop} (hs : d.Serves serving) (steps : List PassStep)
    (acc : MemberTally × World (Logged ρ) τ) (hw : serving acc.2.platform.platform) :
    (steps.foldl (b.passStep known) acc).2.platform.exchanges =
      acc.2.platform.exchanges ++ (steps.filterMap PassStep.request?).map fun q => ⟨q, d.answer q⟩ := by
  induction steps generalizing acc with
  | nil => exact (List.append_nil _).symm
  | cons step steps ih =>
    rw [List.foldl_cons]
    cases step with
    | ask q =>
      have hanswer : (Platform.ask q acc.2.now acc.2.platform).1 = d.answer q :=
        hs.answer q acc.2.now acc.2.platform.platform hw
      have hlog : (b.passStep known acc (.ask q)).2.platform.exchanges =
          acc.2.platform.exchanges ++ [⟨q, d.answer q⟩] := by
        rw [← hanswer]
        exact Logged.exchanges_ask q
      rw [ih _ (hs.keep q acc.2.now acc.2.platform.platform hw), hlog, List.append_assoc]
      rfl
    | take m =>
      have hplatform : (b.passStep known acc (.take m)).2.platform = acc.2.platform :=
        b.platform_takeMember known m acc.1 acc.2
      rw [ih _ (hplatform ▸ hw), hplatform]
      rfl

omit [Platform ρ] in
theorem requests_passSteps (groupId : String) (ms : List Member) :
    (b.passSteps groupId ms).filterMap PassStep.request? =
      (List.range (b.settings.pageCount ms.length)).map fun k =>
        .members groupId (b.settings.cursorAt ms k) (b.settings.limitAt k) := by
  have hpage (k : Nat) : (b.pageSteps groupId ms k).filterMap PassStep.request? =
      [.members groupId (b.settings.cursorAt ms k) (b.settings.limitAt k)] := by
    simp [pageSteps, List.filterMap_map, PassStep.request?, Function.comp_def]
  rw [passSteps, List.filterMap_flatMap, List.map_eq_flatMap]
  simp only [hpage]

theorem members_passSteps (groupId : String) (ms : List Member) :
    (b.passSteps groupId ms).filterMap PassStep.member? = b.settings.firstOf ms := by
  have hpage (k : Nat) : (b.pageSteps groupId ms k).filterMap PassStep.member? = b.settings.pageAt ms k := by
    rw [pageSteps, List.filterMap_cons_none rfl, List.filterMap_map]
    exact List.filterMap_some
  rw [passSteps, List.filterMap_flatMap]
  simp only [hpage]
  exact BackfillSettings.flatMap_pageAt b.settings ms

/-! ## A whole pass -/

omit [Platform ρ] in
/-- A pass starts with no counts but for a reading of the joins that failed, and has
asked the platform nothing. -/
theorem readJoins_start (groupId : String) (w : World ρ τ) :
    (b.readJoins groupId w).2.1 = { MemberTally.zero with errors := (b.readJoins groupId w).2.1.errors } ∧
      (b.readJoins groupId w).2.2.platform = w.platform := by
  unfold readJoins
  split
  · split <;> rename_i hused <;> refine ⟨rfl, ?_⟩
    all_goals exact (congrArg (fun used => used.2.platform) hused).symm
  · exact ⟨rfl, rfl⟩

variable {d : Directory} {serving : ρ → Prop} {groupId : String}

/-- **Paging through the members of a group** performs the steps of its pages. -/
theorem fillMembers_steps (hs : d.Serves serving) (hworks : groupId ∉ d.failingGroups)
    (hdistinct : d.Distinct groupId) (hn : b.settings.memberCap = 0 → (d.membersOf groupId).length < 2 ^ 63)
    {w : World ρ τ} (hw : serving w.platform) :
    b.fillMembers groupId w =
      (b.passSteps groupId (d.membersOf groupId)).foldl (b.passStep (b.readJoins groupId w).1)
        (b.readJoins groupId w).2 := by
  obtain ⟨hcounts, hplatform⟩ := b.readJoins_start groupId w
  obtain ⟨n, hcount⟩ := Nat.exists_eq_add_of_lt (b.settings.pageCount_pos (d.membersOf groupId).length)
  rw [Nat.zero_add] at hcount
  have hfetched : (b.readJoins groupId w).2.1.fetched = 0 := congrArg MemberTally.fetched hcounts
  rw [passSteps, List.range_eq_range', hcount]
  exact b.pages_steps (b.readJoins groupId w).1 hs hworks hdistinct hn n 0 (by omega)
    (b.readJoins groupId w).2.1
    (b.readJoins groupId w).2.2 (hplatform ▸ hw) hfetched

/-- What a pass over the members of a group asks, takes in and reports. -/
structure MemberPass (d : Directory) (groupId : String) (w : World (Logged ρ) τ)
    (turns : List (Member × World (Logged ρ) τ)) : Prop where
  /-- It asks for one page after the other, each with its cursor and its limit. -/
  requests : (b.fillMembers groupId w).2.platform.exchanges =
    w.platform.exchanges ++ (List.range (b.settings.pageCount (d.membersOf groupId).length)).map fun k =>
      ⟨.members groupId (b.settings.cursorAt (d.membersOf groupId) k) (b.settings.limitAt k),
        .ok (b.settings.pageAt (d.membersOf groupId) k)⟩
  /-- It takes in the first members up to the cap, each of them once. -/
  members : turns.map Prod.fst = b.settings.firstOf (d.membersOf groupId)
  /-- It takes them in by their user ids. -/
  ascending : turns.Pairwise fun t t' => t.1.userId < t'.1.userId
  pages : (b.fillMembers groupId w).1.pages = b.settings.pageCount (d.membersOf groupId).length
  fetched : (b.fillMembers groupId w).1.fetched =
    if b.settings.memberCap = 0 then (d.membersOf groupId).length
    else min b.settings.memberCap (d.membersOf groupId).length
  /-- It caches those that had no live entry when their turn came. -/
  cached : (b.fillMembers groupId w).1.cached = turns.countP fun t => !isCached t
  /-- It records, touches or fails to record one fact of each; the other errors are
  those of reading the joins. -/
  facts : b.recordsFacts = true →
    (b.fillMembers groupId w).1.facts = (b.fillMembers groupId w).1.fetched + (b.readJoins groupId w).2.1.errors

/-- **A pass over the members of a group** that does not fail covers exactly the members it should,
whatever is cached and recorded.  A list of members in memory has fewer than 2 ^ 63 of them, which
only counts without a cap. -/
theorem fillMembers_pass (hs : d.Serves serving) (hworks : groupId ∉ d.failingGroups)
    (hdistinct : d.Distinct groupId) (hn : b.settings.memberCap = 0 → (d.membersOf groupId).length < 2 ^ 63)
    {w : World (Logged ρ) τ} (hw : serving w.platform.platform) :
    b.fillMembers groupId w =
      (b.passSteps groupId (d.membersOf groupId)).foldl (b.passStep (b.readJoins groupId w).1)
        (b.readJoins groupId w).2 ∧
    b.MemberPass d groupId w
      (b.turns (b.readJoins groupId w).1 (b.passSteps groupId (d.membersOf groupId))
        (b.readJoins groupId w).2) := by
  have hsteps := b.fillMembers_steps hs.logged hworks hdistinct hn (w := w) hw
  refine ⟨hsteps, ?_⟩
  obtain ⟨hcounts, hplatform⟩ := b.readJoins_start groupId w
  have hmembers := b.map_fst_turns (b.readJoins groupId w).1 (b.passSteps groupId (d.membersOf groupId))
    (b.readJoins groupId w).2
  rw [members_passSteps] at hmembers
  have hlength := congrArg List.length hmembers
  rw [List.length_map, BackfillSettings.length_firstOf] at hlength
  obtain ⟨hpages, hfetched, hcached, hfacts⟩ := b.tallied_steps (b.readJoins groupId w).1
    (b.passSteps groupId (d.membersOf groupId)) (b.readJoins groupId w).2
  rw [← hsteps, requests_passSteps, List.length_map, List.length_range, hcounts] at hpages
  rw [← hsteps, hcounts] at hfetched hcached hfacts
  have hfetched : (b.fillMembers groupId w).1.fetched = _ := hfetched.trans (Nat.zero_add _)
  refine ⟨?_, hmembers, ?_, hpages.trans (Nat.zero_add _), hfetched.trans hlength,
    hcached.trans (Nat.zero_add _), ?_⟩
  · rw [hsteps, b.exchanges_steps _ hs _ _ (hplatform ▸ hw), hplatform, requests_passSteps, List.map_map]
    refine congrArg (w.platform.exchanges ++ ·) (List.map_congr_left fun k hk => ?_)
    exact congrArg (Exchange.mk _) (answer_pageAt hworks hdistinct (List.mem_range.1 hk))
  · have hascending := Directory.membersOf_ascending hdistinct
    have hfirst : (b.settings.firstOf (d.membersOf groupId)).Pairwise fun m m' => m.userId < m'.userId := by
      unfold BackfillSettings.firstOf
      split
      · exact hascending
      · exact hascending.sublist (List.take_sublist _ _)
    rw [← hmembers, List.pairwise_map] at hfirst
    exact hfirst
  · intro hon
    rw [hfacts hon, hfetched, Nat.add_comm]
    simp only [MemberTally.facts, MemberTally.zero, Nat.zero_add]

omit [Store τ] [Platform ρ] in
/-- A world over a directory that keeps a log. -/
def loggedOver (d : Directory) : World (Logged DirectoryServer) TableStore :=
  { World.overDirectory d with platform := ⟨⟨d, []⟩, []⟩ }

omit [Store τ] [Platform ρ] in
/-- A group of three members, which are not listed by their user ids. -/
def sampleThree : Directory :=
  { Directory.empty with members := [.new "g" "c" "C", .new "g" "a" "A", .new "g" "b" "B"] }

omit [Store τ] [Platform ρ] in
theorem membersOf_sampleThree :
    sampleThree.membersOf "g" = [.new "g" "a" "A", .new "g" "b" "B", .new "g" "c" "C"] := by
  simp [Directory.membersOf, sampleThree, Directory.empty, Member.new, List.mergeSort,
    List.MergeSort.Internal.splitInTwo]

/-- With a cap of two the first two members come in one page, which is full: the pass ends
where the cap is reached. -/
theorem fillMembers_pass_sample :
    let b : Backfill := ⟨{ BackfillSettings.standard with memberCap := 2 }, true⟩
    let w := loggedOver sampleThree
    sampleThree.Serves (fun p : DirectoryServer => p.directory = sampleThree) ∧
      "g" ∉ sampleThree.failingGroups ∧
      sampleThree.Distinct "g" ∧ (b.settings.memberCap = 0 → (sampleThree.membersOf "g").length < 2 ^ 63) ∧
      w.platform.platform.directory = sampleThree ∧
      (b.fillMembers "g" w).2.platform.exchanges =
        [⟨.members "g" none 2, .ok [.new "g" "a" "A", .new "g" "b" "B"]⟩] ∧
      (b.fillMembers "g" w).1.pages = 1 ∧ (b.fillMembers "g" w).1.fetched = 2 := by
  intro b w
  have hs := Directory.serves_server sampleThree
  have hdistinct := Directory.distinct_of_nodup (d := sampleThree) (by decide) "g"
  have hn : b.settings.memberCap = 0 → (sampleThree.membersOf "g").length < 2 ^ 63 := nofun
  obtain ⟨-, hpass⟩ := b.fillMembers_pass hs (by decide) hdistinct hn (w := w) rfl
  have hrequests := hpass.requests
  have hpages := hpass.pages
  have hfetched := hpass.fetched
  have hcount : b.settings.pageCount 3 = 1 := by decide
  rw [membersOf_sampleThree] at hrequests hpages hfetched
  rw [List.length_cons, List.length_cons, List.length_singleton, hcount] at hrequests hpages
  exact ⟨hs, by decide, hdistinct, hn, rfl, hrequests, hpages, hfetched⟩

end Backfill

end Roster
