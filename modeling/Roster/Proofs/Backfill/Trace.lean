import Roster.Proofs.Backfill.Pass
import Roster.Proofs.Cache.Spares

/-!
# The trace of a pass over members

A platform may answer a page with any members, or not at all.  Whatever it does, a pass asks for pages
and takes in what they bring.

* `Backfill.passStep_take` — what taking in a member leaves alone.
* `Backfill.stepsFrom`, `memberSteps` — the steps of paging from behind a user id on, and of a whole
  pass, as the platform answers it.
* `Backfill.asksOf` — the requests that steps make, each with the world that it is put to;
  `exchanges_asksOf`: the log of the platform.
* `Backfill.pages_trace`, `fillMembers_trace` — **paging performs these steps**; only what a refused
  page counts as is different.
* `Backfill.spares_steps` — steps that keep within an instant spare what lasts until then.
-/

set_option autoImplicit false

namespace Roster

/-- A request that is put to the platform of a world, and its answer. -/
def World.exchange {ρ τ : Type} [Platform ρ] (a : Request × World ρ τ) : Exchange := ⟨a.1, (a.2.ask a.1).1⟩

/-- What the clock shows after a request. -/
def World.answeredAt {ρ τ : Type} [Platform ρ] (a : Request × World ρ τ) : Instant := (a.2.ask a.1).2.now

/-- The members that an answer brings. -/
def Exchange.members : Exchange → List Member
  | ⟨.members _ _ _, .ok page⟩ => page
  | _ => []

namespace Backfill

variable {ρ τ : Type} [Store τ] (b : Backfill) (known : JoinsRead)

/-! ## Steps -/

variable [Platform ρ]

/-- Only the store and the members of the cache see that a member is taken in. -/
theorem passStep_take (m : Member) (acc : MemberTally × World ρ τ) : ∃ store,
    (b.passStep known acc (.take m)).2 =
      { acc.2 with store, cache := (acc.2.cache.insertUnlessLive .member m.id.text m acc.2.now).2 } := by
  obtain ⟨p, w⟩ := acc
  obtain ⟨store, hstore⟩ := b.noted_keeps known m w
  refine ⟨store, ?_⟩
  unfold passStep takeMember
  dsimp only
  rw [recordMember_add, cacheMember_eq, cacheIfAbsent_eq, hstore]

/-- The steps of paging through the members of a group from behind a user id on. -/
def stepsFrom (b : Backfill) (groupId : String) (known : JoinsRead) (after : Option String) (p : MemberTally)
    (w : World ρ τ) : List PassStep :=
  if _h : p.fetched < b.settings.cap then
    match w.ask (.members groupId after (b.pageLimit p)) with
    | (.error _, _) => [.ask (.members groupId after (b.pageLimit p))]
    | (.ok [], _) => [.ask (.members groupId after (b.pageLimit p))]
    | (.ok (m :: rest), w) =>
      let page := m :: rest
      let taken := b.takePage known page w
      .ask (.members groupId after (b.pageLimit p)) :: page.map PassStep.take ++
        if page.length < b.pageLimit p then []
        else b.stepsFrom groupId known (some (page.getLast (by simp [page])).userId)
          (addPage p page taken.1) taken.2
  else []
termination_by b.settings.cap - p.fetched
decreasing_by
  simp only [addPage, List.length_cons]
  omega

variable {groupId : String} {after : Option String} {p : MemberTally} {w w' : World ρ τ}

theorem stepsFrom_page (h : p.fetched < b.settings.cap) {page : List Member} (hpage : page ≠ [])
    (hask : w.ask (.members groupId after (b.pageLimit p)) = (.ok page, w')) :
    b.stepsFrom groupId known after p w =
      .ask (.members groupId after (b.pageLimit p)) :: page.map PassStep.take ++
      if page.length < b.pageLimit p then []
      else b.stepsFrom groupId known (some (page.getLast hpage).userId)
        (addPage p page (b.takePage known page w').1) (b.takePage known page w').2 := by
  rw [stepsFrom, dif_pos h]
  cases page with
  | nil => exact absurd rfl hpage
  | cons m rest => simp only [hask]

/-- **Paging performs its steps.**  A page that is refused counts as an error instead of a page. -/
theorem pages_trace (groupId : String) (after : Option String) (p : MemberTally) (w : World ρ τ) :
    ∃ pages errors, b.pages groupId known after p w =
      ({ ((b.stepsFrom groupId known after p w).foldl (b.passStep known) (p, w)).1 with pages, errors },
        ((b.stepsFrom groupId known after p w).foldl (b.passStep known) (p, w)).2) := by
  fun_induction stepsFrom b groupId known after p w with
  | case1 after p w h err w' hask =>
    refine ⟨p.pages, p.errors + 1, ?_⟩
    rw [b.pages_error h hask]
    show _ = (_, (w.ask _).2)
    rw [hask]
    rfl
  | case2 after p w h w' hask =>
    refine ⟨p.pages + 1, p.errors, ?_⟩
    rw [b.pages_empty h hask]
    show _ = (_, (w.ask _).2)
    rw [hask]
    rfl
  | case3 after p w h m rest w' hask page taken ih =>
    rw [b.pages_page h (List.cons_ne_nil m rest) hask, List.foldl_append, foldl_askedPage, hask]
    split
    · exact ⟨_, _, rfl⟩
    · exact ih
  | case4 after p w h =>
    rw [b.pages_capped h]
    exact ⟨_, _, rfl⟩

/-! ## What the platform is asked -/

/-- The requests that steps make, each with the world that it is put to. -/
def asksOf : List PassStep → MemberTally × World ρ τ → List (Request × World ρ τ)
  | [], _ => []
  | .ask q :: steps, acc => (q, acc.2) :: asksOf steps (b.passStep known acc (.ask q))
  | .take m :: steps, acc => asksOf steps (b.passStep known acc (.take m))

theorem map_fst_asksOf (steps : List PassStep) (acc : MemberTally × World ρ τ) :
    (b.asksOf known steps acc).map Prod.fst = steps.filterMap PassStep.request? := by
  induction steps generalizing acc with
  | nil => rfl
  | cons step steps ih =>
    cases step with
    | ask q => exact congrArg (q :: ·) (ih _)
    | take m => exact ih _

/-- **The log of the platform** goes on with the requests of the steps. -/
theorem exchanges_asksOf (steps : List PassStep) (acc : MemberTally × World (Logged ρ) τ) :
    (steps.foldl (b.passStep known) acc).2.platform.exchanges =
      acc.2.platform.exchanges ++ (b.asksOf known steps acc).map World.exchange := by
  induction steps generalizing acc with
  | nil => exact (List.append_nil _).symm
  | cons step steps ih =>
    rw [List.foldl_cons, ih]
    cases step with
    | ask q =>
      have hlog : (b.passStep known acc (.ask q)).2.platform.exchanges =
          acc.2.platform.exchanges ++ [World.exchange (q, acc.2)] := Logged.exchanges_ask q
      rw [hlog, List.append_assoc]
      rfl
    | take m =>
      have hplatform : (b.passStep known acc (.take m)).2.platform = acc.2.platform :=
        b.platform_takeMember known m acc.1 acc.2
      rw [hplatform]
      rfl

omit [Platform ρ] in
theorem requests_askedPage (q : Request) (page : List Member) :
    (PassStep.ask q :: page.map PassStep.take).filterMap PassStep.request? = [q] := by
  have htake : (page.map PassStep.take).filterMap PassStep.request? = [] := by
    rw [List.filterMap_map]
    exact List.filterMap_eq_nil_iff.2 fun _ _ => rfl
  exact congrArg (q :: ·) htake

/-- **The pages that are asked for**: one from behind the cursor unless the cap is reached, the
others each from behind a user. -/
theorem requests_stepsFrom (groupId : String) (after : Option String) (p : MemberTally) (w : World ρ τ) :
    ∃ rest, (b.stepsFrom groupId known after p w).filterMap PassStep.request? =
        (if p.fetched < b.settings.cap then [.members groupId after (b.pageLimit p)] else []) ++ rest ∧
      ∀ q ∈ rest, ∃ user limit, q = .members groupId (some user) limit := by
  fun_induction stepsFrom b groupId known after p w with
  | case1 after p w h =>
    rw [if_pos h]
    exact ⟨[], rfl, fun _ hq => nomatch hq⟩
  | case2 after p w h =>
    rw [if_pos h]
    exact ⟨[], rfl, fun _ hq => nomatch hq⟩
  | case3 after p w h m rest w' hask page taken ih =>
    rw [if_pos h, List.filterMap_append, requests_askedPage]
    refine ⟨_, rfl, ?_⟩
    split
    · exact fun _ hq => nomatch hq
    · obtain ⟨later, hlater, hshape⟩ := ih
      rw [hlater]
      intro q hq
      rcases List.mem_append.1 hq with hfirst | hrest
      · split at hfirst
        · exact ⟨_, _, List.mem_singleton.1 hfirst⟩
        · cases hfirst
      · exact hshape q hrest
  | case4 after p w h =>
    rw [if_neg h]
    exact ⟨[], rfl, fun _ hq => nomatch hq⟩

theorem asksOf_append (steps steps' : List PassStep) (acc : MemberTally × World ρ τ) :
    b.asksOf known (steps ++ steps') acc =
      b.asksOf known steps acc ++ b.asksOf known steps' (steps.foldl (b.passStep known) acc) := by
  induction steps generalizing acc with
  | nil => rfl
  | cons step steps ih =>
    cases step with
    | ask q => exact congrArg (_ :: ·) (ih _)
    | take m => exact ih _

theorem asksOf_take (page : List Member) (acc : MemberTally × World ρ τ) :
    b.asksOf known (page.map PassStep.take) acc = [] := by
  induction page generalizing acc with
  | nil => rfl
  | cons m page ih => exact ih _

/-- **The members that are taken in** are those that the pages brought, one page after the other. -/
theorem members_stepsFrom (groupId : String) (after : Option String) (p : MemberTally) (w : World ρ τ) :
    (b.stepsFrom groupId known after p w).filterMap PassStep.member? =
      (b.asksOf known (b.stepsFrom groupId known after p w) (p, w)).flatMap fun a =>
        (World.exchange a).members := by
  fun_induction stepsFrom b groupId known after p w with
  | case1 after p w h err w' hask =>
    simp [asksOf, World.exchange, hask, Exchange.members, PassStep.member?]
  | case2 after p w h w' hask =>
    simp [asksOf, World.exchange, hask, Exchange.members, PassStep.member?]
  | case3 after p w h m rest w' hask page taken ih =>
    have hpage : (World.exchange (Request.members groupId after (b.pageLimit p), w)).members = page := by
      simp only [World.exchange, hask, Exchange.members]
      rfl
    have htaken : (page.map PassStep.take).filterMap PassStep.member? = page := by
      rw [List.filterMap_map]
      exact List.filterMap_some
    rw [List.filterMap_append, List.filterMap_cons_none rfl, htaken, asksOf_append,
      foldl_askedPage, hask, asksOf, asksOf_take, List.flatMap_append, List.flatMap_singleton, hpage]
    split
    · rfl
    · rw [ih]
  | case4 => rfl

/-! ## What is spared -/

/-- **Steps spare** what lasts until an instant, if no member is taken in later than that. -/
theorem spares_steps {time : Instant} (steps : List PassStep) (acc : MemberTally × World ρ τ)
    (hturns : ∀ t ∈ b.turns known steps acc, t.2.now ≤ time) :
    acc.2.cache.Spares time (steps.foldl (b.passStep known) acc).2.cache := by
  induction steps generalizing acc with
  | nil => exact .refl _ _
  | cons step steps ih =>
    rw [List.foldl_cons]
    cases step with
    | ask q => exact ih (b.passStep known acc (.ask q)) hturns
    | take m =>
      obtain ⟨hnow, hturns⟩ := List.forall_mem_cons.1 hturns
      obtain ⟨store, hstep⟩ := b.passStep_take known m acc
      have hspares : acc.2.cache.Spares time (b.passStep known acc (.take m)).2.cache := by
        rw [hstep]
        exact Cache.spares_insertUnlessLive (k := .member) hnow acc.2.cache m.id.text m
      exact hspares.trans (ih _ hturns)

/-- The clock moves with the requests alone. -/
theorem now_steps {time : Instant} (steps : List PassStep) (acc : MemberTally × World ρ τ)
    (hnow : acc.2.now ≤ time) (hasks : ∀ a ∈ b.asksOf known steps acc, World.answeredAt a ≤ time) :
    (∀ t ∈ b.turns known steps acc, t.2.now ≤ time) ∧ (steps.foldl (b.passStep known) acc).2.now ≤ time := by
  induction steps generalizing acc with
  | nil => exact ⟨List.forall_mem_nil _, hnow⟩
  | cons step steps ih =>
    rw [List.foldl_cons]
    cases step with
    | ask q =>
      obtain ⟨hanswered, hasks⟩ := List.forall_mem_cons.1 hasks
      exact ih (b.passStep known acc (.ask q)) hanswered hasks
    | take m =>
      obtain ⟨store, hstep⟩ := b.passStep_take known m acc
      have hlater : (b.passStep known acc (.take m)).2.now ≤ time := by
        rw [hstep]
        exact hnow
      obtain ⟨hturns, hend⟩ := ih (b.passStep known acc (.take m)) hlater hasks
      exact ⟨List.forall_mem_cons.2 ⟨hnow, hturns⟩, hend⟩

/-! ## A whole pass -/

omit [Platform ρ] in
/-- Only the store sees that the joins are read. -/
theorem readJoins_keeps (groupId : String) (w : World ρ τ) :
    ∃ store, (b.readJoins groupId w).2.2 = { w with store } := by
  unfold readJoins
  split
  · split <;> rename_i hused <;> refine ⟨(w.useStore (Store.joinsOf groupId)).2.store, ?_⟩
    all_goals exact (congrArg Prod.snd hused).symm
  · exact ⟨w.store, rfl⟩

/-- The steps of a pass over the members of a group. -/
def memberSteps (groupId : String) (w : World ρ τ) : List PassStep :=
  b.stepsFrom groupId (b.readJoins groupId w).1 none (b.readJoins groupId w).2.1 (b.readJoins groupId w).2.2

/-- The requests of a pass, each with the world that it is put to. -/
def memberAsks (groupId : String) (w : World ρ τ) : List (Request × World ρ τ) :=
  b.asksOf (b.readJoins groupId w).1 (b.memberSteps groupId w) (b.readJoins groupId w).2

/-- The members that a pass takes in, each with the world that it meets. -/
def memberTurns (groupId : String) (w : World ρ τ) : List (Member × World ρ τ) :=
  b.turns (b.readJoins groupId w).1 (b.memberSteps groupId w) (b.readJoins groupId w).2

/-- **A pass performs its steps**, whatever the platform answers. -/
theorem fillMembers_trace (groupId : String) (w : World ρ τ) :
    ∃ pages errors, b.fillMembers groupId w =
      ({ ((b.memberSteps groupId w).foldl (b.passStep (b.readJoins groupId w).1)
        (b.readJoins groupId w).2).1 with
          pages, errors },
        ((b.memberSteps groupId w).foldl (b.passStep (b.readJoins groupId w).1) (b.readJoins groupId w).2).2) :=
  b.pages_trace (b.readJoins groupId w).1 groupId none (b.readJoins groupId w).2.1 (b.readJoins groupId w).2.2

end Backfill

end Roster
