import Roster.Backfill.Run
import Roster.Proofs.Platform
import Roster.Proofs.Record.MemberKey
import Roster.Proofs.World.Contents

/-!
# Invariants of a backfill

A backfill asks the platform, caches what it is told, and notes down facts about members.  What each of these
steps keeps, the whole backfill keeps.

* `Backfill.Noting` — an invariant that the single steps keep which note facts down, and a sense of what the
  platform has told.  `Backfill.Steady` — one that replacing the facts of a member keeps as well.
* `Backfill.platform_takeMember`, `platform_cacheIfAbsent` — taking in what was told asks the platform nothing.
* `Noting.get` — a lookup of a session keeps it too, but for what is found among the observed records.
* `Noting.takePage`, `Noting.pages` — the members of one page, and page after page.
* `Noting.fillMembers`, `Noting.run`, `Steady.refresh` — **the invariant is kept** by paging through a group, by
  a backfill once its reload has kept it, and by fetching members again.
-/

set_option autoImplicit false

namespace Roster.Backfill

variable {ρ : Type} {I : World ρ TableStore → Prop} {Told : ρ → (k : Kind) → String → k.Record → Prop}

/-- An invariant that every step of a backfill keeps.  Only what the platform has
told is cached or noted down. -/
structure Noting [Platform ρ] (I : World ρ TableStore → Prop)
    (Told : ρ → (k : Kind) → String → k.Record → Prop) : Prop where
  ask : ∀ (w : World ρ TableStore) (q : Request), I w → I (w.ask q).2
  told : ∀ (w : World ρ TableStore) (q : Request) (answer : q.Answer), I w → (w.ask q).1 = .ok answer →
    ∀ k key r, q.Brings answer k key r → key ≠ "" → Told (w.ask q).2.platform k key r
  remember : ∀ (w : World ρ TableStore) (e : Entity) (r : e.Record), I w →
    (e.key ≠ "" → Told w.platform e.kind e.key r) → I (w.remember e r)
  insertUnlessLive : ∀ (w : World ρ TableStore) (k : Kind) (key : String) (r : k.Record), I w →
    (key ≠ "" → Told w.platform k key r) → I { w with cache := (w.cache.insertUnlessLive k key r w.now).2 }
  joinsOf : ∀ (w : World ρ TableStore) (groupId : String), I w → I (w.useStore (Store.joinsOf groupId)).2
  noteFacts : ∀ (w : World ρ TableStore) (m : Member) (known : Option Bool), I w →
    Told w.platform .member m.id.text m → I (w.useStore (Roster.noteFacts m known w.now w.now)).2

/-- An invariant that replacing the facts of a member keeps as well. -/
structure Steady [Platform ρ] (I : World ρ TableStore → Prop)
    (Told : ρ → (k : Kind) → String → k.Record → Prop) : Prop extends Noting I Told where
  replaceFacts : ∀ (w : World ρ TableStore) (m : Member) (seen : Instant), I w →
    I (w.useStore (Roster.replaceFacts m seen w.now)).2

/-! ## Steps that ask nothing -/

section Unasked

variable {τ : Type} (b : Backfill)

theorem platform_recordMember [Store τ] (known : JoinsRead) (m : Member) (p : MemberTally) (w : World ρ τ) :
    (b.recordMember known m p w).2.platform = w.platform := by
  unfold recordMember
  split
  · split <;> rename_i hused <;> exact (congrArg (fun used => used.2.platform) hused).symm
  · rfl

theorem platform_cacheMember (m : Member) (p : MemberTally) (w : World ρ τ) :
    (cacheMember m p w).2.platform = w.platform := by
  unfold cacheMember
  split <;> rfl

theorem platform_cacheIfAbsent (k : Kind) (key : String) (r : k.Record) (w : World ρ τ) :
    (cacheIfAbsent k key r w).2.platform = w.platform := by
  unfold cacheIfAbsent
  split <;> rfl

theorem platform_takeMember [Store τ] (known : JoinsRead) (m : Member) (p : MemberTally) (w : World ρ τ) :
    (b.takeMember known (p, w) m).2.platform = w.platform :=
  (platform_cacheMember m _ _).trans (b.platform_recordMember known m p w)

end Unasked

/-- The world of a step that was taken apart. -/
theorem of_step {α : Type} {x : α × World ρ TableStore} (h : I x.2) {a : α} {w : World ρ TableStore}
    (hx : x = (a, w)) : I w := by
  rw [hx] at h
  exact h

namespace Noting

variable [Platform ρ] {w : World ρ TableStore} (b : Backfill)

/-- **A lookup keeps the invariant** that a look into the cache has kept, when what it finds among the
observed records may be cached. -/
theorem get (hs : Noting I Told) {e : Entity} (hlooked : I (w.looked e))
    (hfound : ∀ r, (w.cache.get e w.now).1 = none → w.observed.lookup? w.now e = some r →
      I ((w.looked e).remember e r)) : I (Session.get w e).2 := by
  obtain ⟨q, hfetch, hbrings⟩ := Session.brings_fetch (w.looked e) e
  have hasked : I (Session.fetch (w.looked e) e).2 := by
    rw [hfetch]
    exact hs.ask (w.looked e) q hlooked
  rcases Session.get_cases w e with ⟨r, -, hg⟩ | ⟨hmiss, ⟨r, hr, hg⟩ | ⟨-, ⟨r, hr, hg⟩ | ⟨err, -, hg⟩⟩⟩
  · rw [hg]
    exact hlooked
  · rw [hg]
    exact hfound r hmiss hr
  · obtain ⟨answer, hask, hb⟩ := hbrings r hr
    rw [hg]
    refine hs.remember _ e r hasked fun hk => ?_
    rw [hfetch]
    exact hs.told (w.looked e) q answer hlooked hask e.kind e.key r hb hk
  · rw [hg]
    exact hasked

/-! ## Members of a page -/

theorem readJoins (hs : Noting I Told) (h : I w) (groupId : String) : I (b.readJoins groupId w).2.2 := by
  unfold Backfill.readJoins
  split
  · split <;> rename_i hused <;> exact of_step (hs.joinsOf w groupId h) hused
  · exact h

theorem recordMember (hs : Noting I Told) (h : I w) (known : JoinsRead) {m : Member}
    (hm : Told w.platform .member m.id.text m) (p : MemberTally) : I (b.recordMember known m p w).2 := by
  unfold Backfill.recordMember
  split
  · split <;> rename_i hused <;> exact of_step (hs.noteFacts w m _ h hm) hused
  · exact h

theorem cacheIfTold (hs : Noting I Told) (h : I w) {k : Kind} {key : String} {r : k.Record}
    (hr : key ≠ "" → Told w.platform k key r) {added : Bool} {cache : Cache}
    (hins : w.cache.insertUnlessLive k key r w.now = (added, cache)) : I { w with cache } := by
  have hinserted := hs.insertUnlessLive w k key r h hr
  rw [hins] at hinserted
  exact hinserted

theorem cacheMember (hs : Noting I Told) (h : I w) {m : Member} (hm : Told w.platform .member m.id.text m)
    (p : MemberTally) : I (cacheMember m p w).2 := by
  unfold Backfill.cacheMember
  split <;> rename_i hins <;> exact hs.cacheIfTold h (fun _ => hm) hins

/-- A member that was told is recorded and cached. -/
theorem takeMember (hs : Noting I Told) (h : I w) (known : JoinsRead) {m : Member}
    (hm : Told w.platform .member m.id.text m) (p : MemberTally) : I (b.takeMember known (p, w) m).2 := by
  have hrecorded := hs.recordMember b h known hm p
  apply hs.cacheMember hrecorded
  rw [platform_recordMember]
  exact hm

/-- The members of a page stay told while they are taken in one after the other. -/
theorem takePage (hs : Noting I Told) (h : I w) (known : JoinsRead) {page : List Member}
    (hp : ∀ m ∈ page, Told w.platform .member m.id.text m) : I (b.takePage known page w).2 := by
  have htaken : I (b.takePage known page w).2 ∧ (b.takePage known page w).2.platform = w.platform := by
    refine List.foldlRecOn
      (motive := fun acc : MemberTally × World ρ TableStore => I acc.2 ∧ acc.2.platform = w.platform)
      page (b.takeMember known) ⟨h, rfl⟩ ?_
    rintro ⟨p, w'⟩ ⟨hw', hplatform⟩ m hm
    have htold : Told w'.platform .member m.id.text m := by
      rw [hplatform]
      exact hp m hm
    exact ⟨hs.takeMember b hw' known htold p, (b.platform_takeMember known m p w').trans hplatform⟩
  exact htaken.1

/-- One page that was asked for and taken in. -/
theorem askedPage (hs : Noting I Told) (h : I w) (known : JoinsRead) {groupId : String} {after : Option String}
    {limit : Nat} {page : List Member} {w' : World ρ TableStore}
    (hask : w.ask (.members groupId after limit) = (.ok page, w')) : I (b.takePage known page w').2 := by
  have htold := hs.told w (.members groupId after limit) page h (congrArg Prod.fst hask)
  rw [hask] at htold
  refine hs.takePage b (of_step (hs.ask w _ h) hask) known ?_
  intro m hm
  exact htold .member m.id.text m (.members groupId after limit page m hm) m.id.text_ne_empty

/-- The induction follows the pages: each one that is followed by another takes from the cap. -/
theorem pages (hs : Noting I Told) (groupId : String) (known : JoinsRead) (after : Option String)
    (p : MemberTally) (w : World ρ TableStore) (h : I w) : I (b.pages groupId known after p w).2 := by
  fun_induction Backfill.pages b groupId known after p w with
  | case1 after p w _ limit err w' hask => exact of_step (hs.ask w _ h) hask
  | case2 after p w _ limit w' hask => exact of_step (hs.ask w _ h) hask
  | case3 after p w _ limit m rest w' hask page tally w'' htake =>
    have hpage := hs.askedPage b h known hask
    rw [show b.takePage known (m :: rest) w' = _ from htake] at hpage
    exact hpage
  | case4 after p w _ limit m rest w' hask page tally w'' htake p' _ ih =>
    have hpage := hs.askedPage b h known hask
    rw [show b.takePage known (m :: rest) w' = _ from htake] at hpage
    exact ih hpage
  | case5 => exact h

/-- **Paging through the members of a group keeps the invariant.** -/
theorem fillMembers (hs : Noting I Told) (h : I w) (groupId : String) : I (b.fillMembers groupId w).2 :=
  hs.pages b groupId _ none _ _ (hs.readJoins b h groupId)

/-! ## Groups -/

theorem cacheIfAbsent (hs : Noting I Told) (h : I w) {k : Kind} {key : String} {r : k.Record}
    (hr : key ≠ "" → Told w.platform k key r) : I (cacheIfAbsent k key r w).2 := by
  unfold Backfill.cacheIfAbsent
  split <;> rename_i hins <;> exact hs.cacheIfTold h hr hins

theorem takeChannels (hs : Noting I Told) (h : I w) {channels : List Channel}
    (hc : ∀ c ∈ channels, c.id ≠ "" → Told w.platform .channel c.id c) :
    I (channels.foldl takeChannel (0, w)).2 := by
  have htaken : I (channels.foldl takeChannel (0, w)).2 ∧
      (channels.foldl takeChannel (0, w)).2.platform = w.platform := by
    refine List.foldlRecOn
      (motive := fun acc : Nat × World ρ TableStore => I acc.2 ∧ acc.2.platform = w.platform)
      channels takeChannel ⟨h, rfl⟩ ?_
    rintro ⟨n, w'⟩ ⟨hw', hplatform⟩ c hmem
    have htold : c.id ≠ "" → Told w'.platform .channel c.id c := by
      rw [hplatform]
      exact hc c hmem
    exact ⟨hs.cacheIfAbsent hw' htold, (platform_cacheIfAbsent .channel c.id c w').trans hplatform⟩
  exact htaken.1

theorem fillRecord (hs : Noting I Told) {acc : BackfillReport × World ρ TableStore} (h : I acc.2)
    (groupId : String) : I (fillRecord groupId acc).2 := by
  obtain ⟨r, w⟩ := acc
  unfold Backfill.fillRecord
  dsimp only
  split
  · exact h
  · split
    · rename_i hask
      exact of_step (hs.ask w _ h) hask
    · rename_i g w' hask
      have htold := hs.told w (.group groupId) g h (congrArg Prod.fst hask)
      rw [hask] at htold
      exact hs.cacheIfAbsent (of_step (hs.ask w _ h) hask) (htold .group groupId g (.group groupId g))

theorem fillRoles (hs : Noting I Told) {acc : BackfillReport × World ρ TableStore} (h : I acc.2)
    (groupId : String) : I (fillRoles groupId acc).2 := by
  obtain ⟨r, w⟩ := acc
  unfold Backfill.fillRoles
  dsimp only
  split
  · exact h
  · split
    · rename_i hask
      exact of_step (hs.ask w _ h) hask
    · rename_i roles w' hask
      have htold := hs.told w (.roles groupId) roles h (congrArg Prod.fst hask)
      rw [hask] at htold
      exact hs.remember w' (.roles groupId) _ (of_step (hs.ask w _ h) hask)
        (htold .roles groupId _ (.roles groupId roles w'.now))

theorem fillChannels (hs : Noting I Told) {acc : BackfillReport × World ρ TableStore} (h : I acc.2)
    (groupId : String) : I (fillChannels groupId acc).2 := by
  obtain ⟨r, w⟩ := acc
  unfold Backfill.fillChannels
  dsimp only
  split
  · rename_i hask
    exact of_step (hs.ask w _ h) hask
  · rename_i channels w' hask
    have htold := hs.told w (.channels groupId) channels h (congrArg Prod.fst hask)
    rw [hask] at htold
    refine hs.takeChannels (of_step (hs.ask w _ h) hask) ?_
    intro c hc
    exact htold .channel c.id c (.channels groupId channels c hc)

theorem fillGroup (hs : Noting I Told) {acc : BackfillReport × World ρ TableStore} (h : I acc.2)
    (groupId : String) : I (b.fillGroup groupId acc).2 := by
  have hstep (on : Bool) {f : BackfillReport × World ρ TableStore → BackfillReport × World ρ TableStore}
      {acc : BackfillReport × World ρ TableStore} (h : I acc.2) (hf : I (f acc).2) : I (step on f acc).2 := by
    unfold step
    split
    · exact hf
    · exact h
  have h₁ := hstep b.settings.groups h (hs.fillRecord h groupId)
  have h₂ := hstep b.settings.roles h₁ (hs.fillRoles h₁ groupId)
  have h₃ := hstep b.settings.channels h₂ (hs.fillChannels h₂ groupId)
  exact hstep b.settings.members h₃ (hs.fillMembers b h₃ groupId)

/-- **A backfill keeps the invariant** that its reload keeps. -/
theorem run (hs : Noting I Told) (h : I w.reload.2) : I (b.run w).2 :=
  List.foldlRecOn (motive := fun acc : BackfillReport × World ρ TableStore => I acc.2) _ b.runGroup h
    fun _ hacc groupId _ => hs.fillGroup b hacc groupId

end Noting

/-! ## Members one by one -/

namespace Steady

variable [Platform ρ] {w : World ρ TableStore} (b : Backfill)

theorem refreshMember (hs : Steady I Told) {acc : Nat × World ρ TableStore} (h : I acc.2) (groupId : String)
    (seen : Instant) (user : String) : I (b.refreshMember groupId seen acc user).2 := by
  obtain ⟨n, w⟩ := acc
  unfold Backfill.refreshMember
  dsimp only
  split
  · rename_i hask
    exact of_step (hs.ask w _ h) hask
  · rename_i m w' hask
    have hw' : I w' := of_step (hs.ask w _ h) hask
    have htold := hs.told w (.member ⟨groupId, user⟩) m h (congrArg Prod.fst hask)
    rw [hask] at htold
    have hm := htold .member (MemberId.key ⟨groupId, user⟩) m (.member _ m)
    split
    · exact hs.remember _ (.member ⟨groupId, user⟩) m (hs.replaceFacts w' m seen hw') hm
    · exact hs.remember w' (.member ⟨groupId, user⟩) m hw' hm

/-- **Fetching members again keeps the invariant.** -/
theorem refresh (hs : Steady I Told) (h : I w) (groupId : String) (users : List String) :
    I (b.refresh groupId users w).2 :=
  List.foldlRecOn (motive := fun acc : Nat × World ρ TableStore => I acc.2) users
    (b.refreshMember groupId w.now) h fun _ hacc user _ => hs.refreshMember b hacc groupId w.now user

end Steady

end Roster.Backfill
