import Roster.Proofs.Backfill.Errands
import Roster.Proofs.World.Reloaded

/-!
# The plan of a backfill

Over a directory the errands of a backfill are known beforehand: which ones there are depends on the directory
and the settings, and not on what is cached or recorded.

* `Directory.pageErrands`, `Directory.errands` — the errands of paging through the members
  of a group, and of the group.
* `mem_channelErrands`, `mem_pageErrands`, `forall_mem_errands` — which errands these are.
* `Backfill.Knows` — what a pass over members knows of recorded joins is true, and stays true.
* `Backfill.pages_eq`, `fillGroup_eq` — **a group is filled in by performing its errands**.
* `Backfill.visit`, `visits`, `upToLast_eq` — a group with its own counts, and **a run as
  one visit after the other**.
-/

set_option autoImplicit false

namespace Roster

namespace Directory

/-- A member of a page has its facts noted down and is cached. -/
def memberErrands (m : Member) : List Errand := [.note m, .cache .member m.id.text m]

/-- The errands for the channels of a group. -/
def channelErrands (d : Directory) (groupId : String) : List Errand :=
  .ask (.channels groupId) ::
    match d.answer (.channels groupId) with
    | .error _ => []
    | .ok channels => channels.map fun c => .cache .channel c.id c

/-- The errands of paging through the members of a group from behind a user id on. -/
def pageErrands (d : Directory) (groupId : String) (cap : Nat) (after : Option String) (fetched : Nat) :
    List Errand :=
  if _h : fetched < cap then
    let limit := min (cap - fetched) maxPageSize
    let asking := Errand.ask (.members groupId after limit)
    match d.answer (.members groupId after limit) with
    | .error _ => [asking]
    | .ok [] => [asking]
    | .ok (m :: rest) =>
      let page := m :: rest
      if page.length < limit then asking :: page.flatMap memberErrands
      else asking :: (page.flatMap memberErrands ++
        d.pageErrands groupId cap (some (page.getLast (by simp [page])).userId) (fetched + page.length))
  else []
termination_by cap - fetched
decreasing_by
  simp only [List.length_cons]
  omega

/-- The errands of a group. -/
def errands (d : Directory) (settings : BackfillSettings) (groupId : String) : List Errand :=
  (if settings.groups then [.record groupId] else []) ++ (if settings.roles then [.roles groupId] else []) ++
    (if settings.channels then d.channelErrands groupId else []) ++
    (if settings.members then d.pageErrands groupId settings.cap none 0 else [])

variable {d : Directory} {groupId : String}

theorem ofGroup_eq_ok {α : Type} {answer : Except PlatformError α} {a : α} :
    d.ofGroup groupId answer = .ok a ↔ groupId ∉ d.failingGroups ∧ answer = .ok a := by
  unfold ofGroup
  split
  · rename_i hfails
    simp only [hfails, not_true_eq_false, false_and, reduceCtorEq]
  · rename_i hworks
    simp only [hworks, not_false_eq_true, true_and]

section Pages

variable {cap fetched : Nat} {after : Option String} (h : fetched < cap)

include h

theorem pageErrands_error {err : PlatformError}
    (hanswer : d.answer (.members groupId after (min (cap - fetched) maxPageSize)) = .error err) :
    d.pageErrands groupId cap after fetched =
      [.ask (.members groupId after (min (cap - fetched) maxPageSize))] := by
  rw [pageErrands, dif_pos h]
  simp only [hanswer]

theorem pageErrands_empty
    (hanswer : d.answer (.members groupId after (min (cap - fetched) maxPageSize)) = .ok []) :
    d.pageErrands groupId cap after fetched =
      [.ask (.members groupId after (min (cap - fetched) maxPageSize))] := by
  rw [pageErrands, dif_pos h]
  simp only [hanswer]

section Page

variable {page : List Member} (hpage : page ≠ [])
  (hanswer : d.answer (.members groupId after (min (cap - fetched) maxPageSize)) = .ok page)

include hpage hanswer

theorem pageErrands_short (hshort : page.length < min (cap - fetched) maxPageSize) :
    d.pageErrands groupId cap after fetched =
      .ask (.members groupId after (min (cap - fetched) maxPageSize)) :: page.flatMap memberErrands := by
  rw [pageErrands, dif_pos h]
  cases page with
  | nil => exact absurd rfl hpage
  | cons m rest => simp only [hanswer, if_pos hshort]

theorem pageErrands_full (hfull : ¬page.length < min (cap - fetched) maxPageSize) :
    d.pageErrands groupId cap after fetched =
      .ask (.members groupId after (min (cap - fetched) maxPageSize)) :: (page.flatMap memberErrands ++
        d.pageErrands groupId cap (some (page.getLast hpage).userId) (fetched + page.length)) := by
  rw [pageErrands, dif_pos h]
  cases page with
  | nil => exact absurd rfl hpage
  | cons m rest => simp only [hanswer, if_neg hfull]

end Page

end Pages

/-- The members of a page belong to its group. -/
theorem mem_members_answer {after : Option String} {limit : Nat} {page : List Member}
    (h : d.answer (.members groupId after limit) = .ok page) {m : Member} (hm : m ∈ page) :
    m ∈ d.membersOf groupId := by
  obtain ⟨-, hpage⟩ := ofGroup_eq_ok.1 h
  cases hpage
  exact (List.mem_filter.1 (List.mem_of_mem_take hm)).1

/-- Paging asks for pages, and deals with members of the group. -/
theorem mem_pageErrands {cap fetched : Nat} {after : Option String} :
    ∀ e ∈ d.pageErrands groupId cap after fetched,
      (∃ after limit, e = .ask (.members groupId after limit)) ∨
        ∃ m ∈ d.membersOf groupId, e ∈ memberErrands m := by
  have hpage {after : Option String} {limit : Nat} {page : List Member}
      (hanswer : d.answer (.members groupId after limit) = .ok page) : ∀ e ∈ page.flatMap memberErrands,
      (∃ after limit, e = .ask (.members groupId after limit)) ∨
        ∃ m ∈ d.membersOf groupId, e ∈ memberErrands m := by
    intro e he
    obtain ⟨m, hm, he⟩ := List.mem_flatMap.1 he
    exact .inr ⟨m, mem_members_answer hanswer hm, he⟩
  fun_induction Directory.pageErrands d groupId cap after fetched with
  | case1 => exact List.forall_mem_singleton.2 (.inl ⟨_, _, rfl⟩)
  | case2 => exact List.forall_mem_singleton.2 (.inl ⟨_, _, rfl⟩)
  | case3 after fetched hcap limit asking m rest hanswer page hshort =>
    exact List.forall_mem_cons.2 ⟨.inl ⟨_, _, rfl⟩, hpage hanswer⟩
  | case4 after fetched hcap limit asking m rest hanswer page hfull ih =>
    exact List.forall_mem_cons.2 ⟨.inl ⟨_, _, rfl⟩, List.forall_mem_append.2 ⟨hpage hanswer, ih⟩⟩
  | case5 => exact fun e he => nomatch he

/-- The channels of a group are asked for, and each that belongs to it is cached. -/
theorem mem_channelErrands : ∀ e ∈ d.channelErrands groupId,
    e = .ask (.channels groupId) ∨ ∃ c ∈ d.channels, c.groupId = groupId ∧ e = .cache .channel c.id c := by
  unfold channelErrands
  refine List.forall_mem_cons.2 ⟨.inl rfl, ?_⟩
  cases hanswer : d.answer (.channels groupId) with
  | error err => exact fun e he => nomatch he
  | ok channels =>
    obtain ⟨-, hlist⟩ := ofGroup_eq_ok.1 hanswer
    cases hlist
    refine List.forall_mem_map.2 fun c hc => ?_
    obtain ⟨hlisted, hgroup⟩ := List.mem_filter.1 hc
    exact .inr ⟨c, hlisted, of_decide_eq_true hgroup, rfl⟩

/-- What holds of the errands of each step holds of all errands of a group. -/
theorem forall_mem_errands {P : Errand → Prop} {settings : BackfillSettings} (hrecord : P (.record groupId))
    (hroles : P (.roles groupId)) (hchannels : ∀ e ∈ d.channelErrands groupId, P e)
    (hmembers : ∀ e ∈ d.pageErrands groupId settings.cap none 0, P e) :
      ∀ e ∈ d.errands settings groupId, P e := by
  have hon {on : Bool} {es : List Errand} (hes : ∀ e ∈ es, P e) : ∀ e ∈ (if on then es else []), P e := by
    cases on with
    | false => exact fun e he => nomatch he
    | true => exact hes
  unfold errands
  refine List.forall_mem_append.2 ⟨List.forall_mem_append.2 ⟨List.forall_mem_append.2 ⟨?_, ?_⟩, ?_⟩, ?_⟩
  · exact hon (List.forall_mem_singleton.2 hrecord)
  · exact hon (List.forall_mem_singleton.2 hroles)
  · exact hon hchannels
  · exact hon hmembers

end Directory

/-- A reload loses nothing and leaves the store alone. -/
theorem World.reload_grew {ρ : Type} (w : World ρ TableStore) : w.Grew w.reload.2 := by
  obtain ⟨hentries, hlimit, hpersistent, hstore⟩ := w.cache.reload_grew w.store
  refine ⟨hentries, hlimit, hpersistent, ?_, rfl⟩
  show w.store.Grew (w.cache.reload w.store).2.2
  rw [hstore]
  exact .refl w.store

theorem World.Ready.reloaded {ρ : Type} {serving : ρ → Prop} {w : World ρ TableStore} (hw : w.Ready serving) :
    w.reload.2.Ready serving := hw.grown w.reload_grew hw.platform

/-- A world over a directory: a cache without limits that is saved, an empty store, nothing observed. -/
def World.unlimitedOver (d : Directory) : World DirectoryServer TableStore :=
  { World.overDirectory d with
    cache := .new ⟨.ofCapacity 0, .ofCapacity 0, .ofCapacity 0, .ofCapacity 0, .zero, true⟩ true false .zero }

theorem World.ready_unlimitedOver (d : Directory) : (unlimitedOver d).Ready fun p => p.directory = d where
  unlimited k := by cases k <;> rfl
  platform := rfl

namespace Backfill

open Directory (memberErrands)

variable {ρ : Type} [Platform ρ] {d : Directory} {serving : ρ → Prop} {w : World ρ TableStore}
  {groupId : String} {known : JoinsRead} (b : Backfill)

/-! ## What a pass knows -/

/-- What is known of the joins of a group is recorded. -/
def Knows (known : JoinsRead) (groupId : String) (s : TableStore) : Prop :=
  ∀ user, known.has user = some true → (s.joins[MemberId.mk groupId user]?).isSome = true

theorem Knows.grew {s s' : TableStore} (h : Knows known groupId s) (hs : s.Grew s') : Knows known groupId s' :=
  fun user huser => (hs.joins _ (h user huser)).1

/-- What is read at the start of a pass is recorded. -/
theorem knows_groupJoins (groupId : String) (s : TableStore) :
    Knows (some (.ofList (s.groupJoins groupId))) groupId s := by
  intro user huser
  have hcontains : (Std.TreeMap.ofList (s.groupJoins groupId)).contains user = true := Option.some.inj huser
  rw [Std.TreeMap.contains_ofList, List.contains_iff_mem, List.mem_map] at hcontains
  obtain ⟨⟨user', joinedAt⟩, hmem, rfl⟩ := hcontains
  obtain ⟨⟨id, row⟩, hrow, hpair⟩ := List.mem_map.1 hmem
  obtain ⟨hrow, hgroup⟩ := List.mem_filter.1 hrow
  obtain ⟨rfl, -⟩ := Prod.mk.inj hpair
  have hid : id = MemberId.mk groupId id.user := by
    rw [← of_decide_eq_true hgroup]
  rw [← hid, Std.TreeMap.mem_toList_iff_getElem?_eq_some.1 hrow]
  rfl

/-! ## Members -/

/-- A member whose join is known is noted down as if it were not. -/
theorem recordMember_eq (m : Member)
    (hknown : known.has m.userId = some true → (w.store.joins[m.id]?).isSome = true)
    (p : MemberTally) : (b.recordMember known m p w).1.report = p.report + ((Errand.note m).act b w).1 ∧
      (b.recordMember known m p w).2 = ((Errand.note m).act b w).2 := by
  have hused : w.useStore (noteFacts m (known.has m.userId) w.now w.now) =
      w.useStore (noteFacts m none w.now w.now) := by
    unfold World.useStore
    rw [noteFacts_known hknown]
  rw [Errand.act]
  unfold recordMember
  rw [hused, show JoinsRead.has none m.userId = none from rfl]
  split
  · split <;> refine ⟨?_, rfl⟩ <;>
      simp only [MemberTally.report, BackfillReport.addTally, BackfillReport.add_def, BackfillReport.zero,
        Duration.zero, MemberTally.zero, Nat.add_zero, Nat.zero_add]
  · exact ⟨(add_zero _).symm, rfl⟩

theorem takeMember_eq (m : Member)
    (hknown : known.has m.userId = some true → (w.store.joins[m.id]?).isSome = true)
    (p : MemberTally) : (b.takeMember known (p, w) m).1.report = p.report + (b.perform (memberErrands m) w).1 ∧
      (b.takeMember known (p, w) m).2 = (b.perform (memberErrands m) w).2 := by
  obtain ⟨hreport, hworld⟩ := b.recordMember_eq m hknown p
  unfold takeMember
  dsimp only
  rw [cacheMember_eq, hworld]
  refine ⟨?_, rfl⟩
  have hcached (p : MemberTally) (n : Nat) :
      ({ p with cached := p.cached + n } : MemberTally).report = p.report + .ofCached .member n := by
    simp only [MemberTally.report, BackfillReport.addTally, BackfillReport.add_def, BackfillReport.zero,
      Duration.zero, BackfillReport.ofCached, Nat.add_zero, Nat.zero_add]
  rw [hcached, hreport, add_assoc]
  rfl

/-- The members of a page are taken in by performing the errands of each. -/
theorem takePage_eq (hs : d.Serves serving) (hw : w.Ready serving) (hknown : Knows known groupId w.store)
    {page : List Member} (hpage : ∀ m ∈ page, m.groupId = groupId) :
    (b.takePage known page w).1.report = (b.perform (page.flatMap memberErrands) w).1 ∧
      (b.takePage known page w).2 = (b.perform (page.flatMap memberErrands) w).2 := by
  have hall (p : MemberTally) : (page.foldl (b.takeMember known) (p, w)).1.report =
      p.report + (b.perform (page.flatMap memberErrands) w).1 ∧
      (page.foldl (b.takeMember known) (p, w)).2 = (b.perform (page.flatMap memberErrands) w).2 := by
    induction page generalizing w p with
    | nil => exact ⟨(add_zero _).symm, rfl⟩
    | cons m page ih =>
      have hm : known.has m.userId = some true → (w.store.joins[m.id]?).isSome = true := by
        rw [Member.id, hpage m List.mem_cons_self]
        exact hknown m.userId
      obtain ⟨hreport, hworld⟩ := b.takeMember_eq m hm p
      obtain ⟨hgrew, hready⟩ := b.perform_grew hs hw (memberErrands m)
      obtain ⟨hreport', hworld'⟩ := ih hready (hknown.grew hgrew.store)
        (fun m' hm' => hpage m' (List.mem_cons_of_mem m hm')) (b.takeMember known (p, w) m).1
      rw [List.foldl_cons, List.flatMap_cons, perform_append]
      rw [show b.takeMember known (p, w) m =
        ((b.takeMember known (p, w) m).1, (b.perform (memberErrands m) w).2) from
        Prod.ext rfl hworld]
      refine ⟨?_, hworld'⟩
      rw [hreport', hreport, add_assoc]
  obtain ⟨hreport, hworld⟩ := hall .zero
  rw [MemberTally.report_zero, zero_add] at hreport
  exact ⟨hreport, hworld⟩

/-- So are the members of a page that was asked for, since they belong to the group. -/
theorem takePage_asked (hs : d.Serves serving) (hw : w.Ready serving) (hknown : Knows known groupId w.store)
    {after : Option String} {limit : Nat} {page : List Member} {tally : MemberTally} {w' : World ρ TableStore}
    (hanswer : d.answer (.members groupId after limit) = .ok page)
    (htake : b.takePage known page (w.ask (.members groupId after limit)).2 = (tally, w')) :
    tally.report = (b.perform (page.flatMap memberErrands) (w.ask (.members groupId after limit)).2).1 ∧
      w' = (b.perform (page.flatMap memberErrands) (w.ask (.members groupId after limit)).2).2 := by
  have hpage := b.takePage_eq hs (hw.ask hs (.members groupId after limit)) hknown
    fun m hm => (Directory.mem_membersOf.1 (Directory.mem_members_answer hanswer hm)).2
  rw [htake] at hpage
  exact hpage

/-- **Paging through the members of a group** performs the errands of its pages. -/
theorem pages_eq (hs : d.Serves serving) (after : Option String) (p : MemberTally) (w : World ρ TableStore)
    (hw : w.Ready serving) (hknown : Knows known groupId w.store) :
    (b.pages groupId known after p w).1.report =
      p.report + (b.perform (d.pageErrands groupId b.settings.cap after p.fetched) w).1 ∧
    (b.pages groupId known after p w).2 =
      (b.perform (d.pageErrands groupId b.settings.cap after p.fetched) w).2 := by
  have hfail (p : MemberTally) :
      ({ p with errors := p.errors + 1 } : MemberTally).report = p.report + (.failure + 0) := by
    rw [add_zero]
    rfl
  have hpaged (p : MemberTally) : ({ p with pages := p.pages + 1 } : MemberTally).report =
      p.report + (0 + 0) := by
    rw [add_zero, add_zero]
    rfl
  fun_induction Backfill.pages b groupId known after p w with
  | case1 after p w hcap limit err w₁ hask =>
    obtain ⟨hanswer, rfl⟩ := hw.answered hs hask
    rw [Directory.pageErrands_error hcap hanswer, perform, Errand.act_ask b hs hw, hanswer]
    exact ⟨hfail p, rfl⟩
  | case2 after p w hcap limit w₁ hask =>
    obtain ⟨hanswer, rfl⟩ := hw.answered hs hask
    rw [Directory.pageErrands_empty hcap hanswer, perform, Errand.act_ask b hs hw, hanswer]
    exact ⟨hpaged p, rfl⟩
  | case3 after p w hcap limit m rest w₁ hask page tally w₂ htake p₁ hshort =>
    obtain ⟨hanswer, rfl⟩ := hw.answered hs hask
    obtain ⟨htally, hworld⟩ := b.takePage_asked hs hw hknown hanswer htake
    rw [Directory.pageErrands_short hcap (List.cons_ne_nil m rest) hanswer hshort, perform,
      Errand.act_ask b hs hw, hanswer]
    refine ⟨?_, hworld⟩
    show p₁.report = p.report + (0 + _)
    rw [report_addPage, htally, zero_add]
  | case4 after p w hcap limit m rest w₁ hask page tally w₂ htake p₁ hfull ih =>
    obtain ⟨hanswer, rfl⟩ := hw.answered hs hask
    obtain ⟨htally, hworld⟩ := b.takePage_asked hs hw hknown hanswer htake
    obtain ⟨hgrew, hready⟩ := b.perform_grew hs (hw.ask hs _) (page.flatMap memberErrands)
    rw [← hworld] at hgrew hready
    obtain ⟨hreport, hrest⟩ := ih hready (hknown.grew hgrew.store)
    rw [Directory.pageErrands_full hcap (List.cons_ne_nil m rest) hanswer hfull, perform,
      Errand.act_ask b hs hw, hanswer, perform_append, ← hworld]
    refine ⟨?_, hrest⟩
    rw [hreport, report_addPage, htally, add_assoc]
    exact congrArg (p.report + ·) (zero_add _).symm
  | case5 after p w hcap =>
    rw [Directory.pageErrands, dif_neg hcap]
    exact ⟨(add_zero _).symm, rfl⟩

theorem fillMembers_eq (hs : d.Serves serving) (hw : w.Ready serving) (groupId : String) :
    (b.fillMembers groupId w).1.report = (b.perform (d.pageErrands groupId b.settings.cap none 0) w).1 ∧
      (b.fillMembers groupId w).2 = (b.perform (d.pageErrands groupId b.settings.cap none 0) w).2 := by
  have hknown :
      Knows (if b.recordsFacts then some (.ofList (w.store.groupJoins groupId)) else none) groupId w.store := by
    split
    · exact knows_groupJoins groupId w.store
    · exact fun user huser => nomatch huser
  obtain ⟨hreport, hworld⟩ := b.pages_eq hs none .zero w hw hknown
  rw [MemberTally.report_zero, zero_add] at hreport
  unfold fillMembers
  rw [readJoins_eq]
  exact ⟨hreport, hworld⟩

/-! ## Groups -/

theorem takeChannels_eq (channels : List Channel) (n : Nat) (w : World ρ TableStore) :
    BackfillReport.ofCached .channel (channels.foldl takeChannel (n, w)).1 = .ofCached .channel n +
        (b.perform (channels.map fun c => .cache .channel c.id c) w).1 ∧
      (channels.foldl takeChannel (n, w)).2 =
        (b.perform (channels.map fun c => .cache .channel c.id c) w).2 := by
  induction channels generalizing n w with
  | nil => exact ⟨(add_zero _).symm, rfl⟩
  | cons c channels ih =>
    obtain ⟨hreport, hworld⟩ := ih (n + (cacheIfAbsent .channel c.id c w).1) (cacheIfAbsent .channel c.id c w).2
    refine ⟨?_, hworld⟩
    rw [BackfillReport.ofCached_add, add_assoc] at hreport
    exact hreport

theorem fillChannels_eq (hs : d.Serves serving) (hw : w.Ready serving) (groupId : String) (r : BackfillReport) :
    fillChannels groupId (r, w) =
      (r + (b.perform (d.channelErrands groupId) w).1, (b.perform (d.channelErrands groupId) w).2) := by
  rw [fillChannels_add, Directory.channelErrands, perform, Errand.act_ask b hs hw]
  unfold fillChannels
  dsimp only
  rw [hw.answer hs (.channels groupId)]
  cases d.answer (.channels groupId) with
  | error err => rfl
  | ok channels =>
    obtain ⟨hreport, hworld⟩ := b.takeChannels_eq channels 0 (w.ask (.channels groupId)).2
    have hcounts (n : Nat) :
        { (0 : BackfillReport) with channelsCached := 0 + n } = BackfillReport.ofCached .channel n := by
      rw [Nat.zero_add]
      rfl
    rw [BackfillReport.ofCached_zero] at hreport
    exact Prod.ext (congrArg (r + ·) ((hcounts _).trans hreport)) hworld

/-- A step that is switched off has no errands. -/
theorem step_eq {f : BackfillReport × World ρ TableStore → BackfillReport × World ρ TableStore}
    {es : List Errand} (hf : ∀ r, f (r, w) = (r + (b.perform es w).1, (b.perform es w).2)) (on : Bool)
    (r : BackfillReport) :
    step on f (r, w) =
      (r + (b.perform (if on then es else []) w).1, (b.perform (if on then es else []) w).2) := by
  cases on with
  | false => exact Prod.ext (add_zero r).symm rfl
  | true => exact hf r

/-- **A group is filled in by performing its errands.** -/
theorem fillGroup_eq (hs : d.Serves serving) (hw : w.Ready serving) (groupId : String) (r : BackfillReport) :
    b.fillGroup groupId (r, w) = (r + (b.perform (d.errands b.settings groupId) w).1,
      (b.perform (d.errands b.settings groupId) w).2) := by
  have hone (e : Errand) (w : World ρ TableStore) : b.perform [e] w = e.act b w := Prod.ext (add_zero _) rfl
  have hrecord (w : World ρ TableStore) (r : BackfillReport) : fillRecord groupId (r, w) =
      (r + (b.perform [.record groupId] w).1, (b.perform [.record groupId] w).2) := by
    rw [fillRecord_add, hone]
    rfl
  have hroles (w : World ρ TableStore) (r : BackfillReport) : fillRoles groupId (r, w) =
      (r + (b.perform [.roles groupId] w).1, (b.perform [.roles groupId] w).2) := by
    rw [fillRoles_add, hone]
    rfl
  have hmembers {w : World ρ TableStore} (hw : w.Ready serving) (r : BackfillReport) :
      (r.addTally (b.fillMembers groupId w).1, (b.fillMembers groupId w).2) =
        (r + (b.perform (d.pageErrands groupId b.settings.cap none 0) w).1,
          (b.perform (d.pageErrands groupId b.settings.cap none 0) w).2) := by
    obtain ⟨hreport, hworld⟩ := b.fillMembers_eq hs hw groupId
    rw [BackfillReport.addTally_eq, hreport, hworld]
  have h₁ := (b.perform_grew hs hw (if b.settings.groups then [.record groupId] else [])).2
  have h₂ := (b.perform_grew hs h₁ (if b.settings.roles then [.roles groupId] else [])).2
  have h₃ := (b.perform_grew hs h₂ (if b.settings.channels then d.channelErrands groupId else [])).2
  have hlast :=
    b.step_eq (f := fun x => (x.1.addTally (b.fillMembers groupId x.2).1, (b.fillMembers groupId x.2).2))
    (hmembers h₃) b.settings.members
  unfold fillGroup
  dsimp only
  rw [b.step_eq (hrecord w), b.step_eq (hroles _), b.step_eq (b.fillChannels_eq hs h₂ groupId)]
  refine (hlast _).trans ?_
  rw [Directory.errands, perform_append, perform_append, perform_append]
  simp only [add_assoc]

/-- The visit of a group: its errands, and its own counts. -/
def visit (d : Directory) (groupId : String) (w : World ρ TableStore) : BackfillReport × World ρ TableStore :=
  let x := b.perform (d.errands b.settings groupId) w
  (x.1 + .ofGroup x.1.errors, x.2)

/-- One group after the other. -/
def visits (d : Directory) : List String → World ρ TableStore → BackfillReport × World ρ TableStore
  | [], w => (0, w)
  | groupId :: groupIds, w =>
    let x := b.visit d groupId w
    (x.1 + (visits d groupIds x.2).1, (visits d groupIds x.2).2)

theorem runGroup_eq (hs : d.Serves serving) (hw : w.Ready serving) (groupId : String) (r : BackfillReport) :
    b.runGroup (r, w) groupId = (r + (b.visit d groupId w).1, (b.visit d groupId w).2) := by
  unfold runGroup visit
  dsimp only
  rw [b.fillGroup_eq hs hw]
  refine Prod.ext ?_ rfl
  simp only [BackfillReport.ofGroup, BackfillReport.add_def, BackfillReport.zero, Duration.zero, Nat.add_zero,
    Nat.lt_add_right_iff_pos, gt_iff_lt, Nat.add_assoc]

theorem visit_grew (hs : d.Serves serving) (hw : w.Ready serving) (groupId : String) :
    w.Grew (b.visit d groupId w).2 ∧ (b.visit d groupId w).2.Ready serving := b.perform_grew hs hw _

theorem runAll_eq (hs : d.Serves serving) (hw : w.Ready serving) (groupIds : List String) (r : BackfillReport) :
    b.runAll groupIds (r, w) = (r + (b.visits d groupIds w).1, (b.visits d groupIds w).2) := by
  induction groupIds generalizing r w with
  | nil => exact Prod.ext (add_zero r).symm rfl
  | cons groupId groupIds ih =>
    have hready := (b.visit_grew hs hw groupId).2
    have hrest := ih hready (r + (b.visit d groupId w).1)
    rw [add_assoc] at hrest
    show b.runAll groupIds (b.runGroup (r, w) groupId) = _
    rw [b.runGroup_eq hs hw]
    exact hrest

/-! ## Runs -/

omit [Platform ρ] in
/-- Nothing along the way changes which groups are walked. -/
theorem groupIds_grew {w' : World ρ TableStore} (h : w.Grew w') : b.groupIds w' = b.groupIds w := by
  unfold groupIds
  rw [h.observed]

/-- **A run visits one group after the other**, once it has reloaded the cache. -/
theorem upToLast_eq (hs : d.Serves serving) (hw : w.Ready serving) : b.upToLast w =
    (w.reload.1.report + (b.visits d (b.groupIds w) w.reload.2).1,
      (b.visits d (b.groupIds w) w.reload.2).2) := by
  unfold upToLast
  rw [b.groupIds_grew w.reload_grew, b.runAll_eq hs hw.reloaded]

/-- All the errands of a run, and what it counts beside them. -/
theorem visits_eq (groupIds : List String) (w : World ρ TableStore) :
    (b.visits d groupIds w).2 = (b.perform (groupIds.flatMap (d.errands b.settings)) w).2 ∧
      (b.visits d groupIds w).1.restored =
        (b.perform (groupIds.flatMap (d.errands b.settings)) w).1.restored ∧
      (b.visits d groupIds w).1.factsCreated =
        (b.perform (groupIds.flatMap (d.errands b.settings)) w).1.factsCreated := by
  induction groupIds generalizing w with
  | nil => exact ⟨rfl, rfl, rfl⟩
  | cons groupId groupIds ih =>
    obtain ⟨hworld, hrestored, hcreated⟩ := ih (b.visit d groupId w).2
    rw [List.flatMap_cons, perform_append]
    exact ⟨hworld, congrArg ((b.visit d groupId w).1.restored + ·) hrestored,
      congrArg ((b.visit d groupId w).1.factsCreated + ·) hcreated⟩

end Backfill

end Roster
