import Roster.Proofs.Backfill.Plan
import Roster.Proofs.World.Reloaded

/-!
# A backfill that runs again

* `Errand.Done` — nothing is left of an errand: what it would bring in is there, expired or not.
* `Errand.Came.done`, `World.Grew.done` — an errand is done after it was run, and stays done.
* `World.Unmoved` — a later world with the same keys and the same recorded facts.
* `Errand.Came.unmoved` — an errand that is done moves nothing.
* `Backfill.run_again` — **a second run brings nothing new in**, whenever it takes
  place and whatever has expired.
-/

set_option autoImplicit false

namespace Roster

variable {ρ : Type} {w w' w'' : World ρ TableStore}

/-- Nothing is left of an errand.  What cannot be had, since it is refused or has no key, is not missed. -/
def Errand.Done (b : Backfill) (d : Directory) (w : World ρ TableStore) : Errand → Prop
  | .record g => g ≠ "" → (∃ group, d.answer (.group g) = .ok group) → (w.cache.slot? .group g).isSome = true
  | .roles g => g ≠ "" → (∃ roles, d.answer (.roles g) = .ok roles) → (w.cache.slot? .roles g).isSome = true
  | .ask _ => True
  | .cache k key _ => key ≠ "" → (w.cache.slot? k key).isSome = true
  | .note m => b.recordsFacts = true → w.store.readOnly = false → w.store.lacks m = false

/-- A later world with the same keys and the same recorded facts. -/
structure World.Unmoved (w w' : World ρ TableStore) : Prop where
  keys : ∀ k key, (w'.cache.slot? k key).isSome = (w.cache.slot? k key).isSome
  joins : ∀ id, w'.store.joinTime? id = w.store.joinTime? id
  roles : ∀ id, w'.store.rolesSeen? id = w.store.rolesSeen? id

namespace World

theorem Unmoved.refl (w : World ρ TableStore) : w.Unmoved w := ⟨fun _ _ => rfl, fun _ => rfl, fun _ => rfl⟩

theorem Unmoved.trans (h : w.Unmoved w') (h' : w'.Unmoved w'') : w.Unmoved w'' where
  keys k key := (h'.keys k key).trans (h.keys k key)
  joins id := (h'.joins id).trans (h.joins id)
  roles id := (h'.roles id).trans (h.roles id)

theorem unmoved_ask [Platform ρ] (w : World ρ TableStore) (q : Request) : w.Unmoved (w.ask q).2 :=
  ⟨fun _ _ => rfl, fun _ => rfl, fun _ => rfl⟩

/-- An entry that replaces another moves nothing. -/
theorem unmoved_written {k : Kind} {e : Entry k.Record} {cache : Cache} (h : Cache.Written k e w.cache cache)
    (hthere : (w.cache.slot? k e.key).isSome = true) : w.Unmoved { w with cache } where
  keys j key := by
    by_cases hself : j = k ∧ key = e.key
    · obtain ⟨rfl, rfl⟩ := hself
      rw [h.self, hthere]
      rfl
    · rw [h.other j key hself]
  joins _ := rfl
  roles _ := rfl

variable {b : Backfill} {d : Directory} {e : Errand}

/-- What is done stays done. -/
theorem Grew.done (h : w.Grew w') (hdone : e.Done b d w) : e.Done b d w' := by
  cases e with
  | record g => exact fun hk hanswer => h.entries _ _ (hdone hk hanswer)
  | roles g => exact fun hk hanswer => h.entries _ _ (hdone hk hanswer)
  | ask q => trivial
  | cache k key r => exact fun hk => h.entries _ _ (hdone hk)
  | note m =>
    intro hrecords hwritable
    rw [h.store.readOnly] at hwritable
    exact h.store.lacks (hdone hrecords hwritable)

end World

namespace Errand

variable [Platform ρ] {b : Backfill} {d : Directory} {e : Errand} {x : BackfillReport × World ρ TableStore}

/-- **An errand is done after it was run.** -/
theorem Came.done (h : Came b d w e x) : e.Done b d x.2 := by
  cases h with
  | recordIdle hlive => exact fun _ _ => hlive
  | recordRefused hanswer =>
    rintro - ⟨group, hgroup⟩
    rw [hanswer] at hgroup
    cases hgroup
  | recordKept hkept => exact fun hk _ => hkept.resolve_left hk
  | recordWritten _ hkey hwritten =>
    subst hkey
    exact fun _ _ => Option.isSome_of_eq_some hwritten.self
  | rolesIdle hlive => exact fun _ _ => hlive
  | rolesRefused hanswer =>
    rintro - ⟨roles, hroles⟩
    rw [hanswer] at hroles
    cases hroles
  | rolesKept hkey => exact fun hk _ => absurd hkey hk
  | rolesWritten _ hkey hwritten =>
    subst hkey
    exact fun _ _ => Option.isSome_of_eq_some hwritten.self
  | asked => trivial
  | cacheKept hkept => exact fun hk => hkept.resolve_left hk
  | cacheWritten hkey hwritten =>
    subst hkey
    exact fun _ => Option.isSome_of_eq_some hwritten.self
  | noteOff hoff =>
    intro hrecords
    rw [hoff] at hrecords
    cases hrecords
  | noteRefused hrefused =>
    intro _ hwritable
    exact absurd (hrefused.symm.trans hwritable) (by decide)
  | noteNoted _ _ hnoted => exact fun _ _ => hnoted.lacks

/-- **An errand that is done moves nothing**, and creates no fact. -/
theorem Came.unmoved (h : Came b d w e x) (hdone : e.Done b d w) : w.Unmoved x.2 ∧ x.1.factsCreated = 0 := by
  have hcached (k : Kind) (n : Nat) : (BackfillReport.ofCached k n).factsCreated = 0 := by
    cases k <;> rfl
  have hrewritten {k : Kind} {a : Entry k.Record} {cache : Cache} (q : Request)
      (hwritten : Cache.Written k a w.cache cache) (hthere : (w.cache.slot? k a.key).isSome = true) :
      w.Unmoved { (w.ask q).2 with cache } :=
    (World.unmoved_ask w q).trans (World.unmoved_written (w := (w.ask q).2) hwritten hthere)
  cases h with
  | recordIdle _ => exact ⟨.refl w, rfl⟩
  | recordRefused _ => exact ⟨w.unmoved_ask _, rfl⟩
  | recordKept _ => exact ⟨w.unmoved_ask _, rfl⟩
  | recordWritten hanswer hkey hwritten =>
    subst hkey
    exact ⟨hrewritten _ hwritten (hdone hwritten.named ⟨_, hanswer⟩), rfl⟩
  | rolesIdle _ => exact ⟨.refl w, rfl⟩
  | rolesRefused _ => exact ⟨w.unmoved_ask _, rfl⟩
  | rolesKept _ => exact ⟨w.unmoved_ask _, rfl⟩
  | rolesWritten hanswer hkey hwritten =>
    subst hkey
    exact ⟨hrewritten _ hwritten (hdone hwritten.named ⟨_, hanswer⟩), rfl⟩
  | asked =>
    refine ⟨w.unmoved_ask _, ?_⟩
    dsimp only
    split <;> rfl
  | cacheKept _ => exact ⟨.refl w, rfl⟩
  | cacheWritten hkey hwritten =>
    subst hkey
    exact ⟨World.unmoved_written hwritten (hdone hwritten.named), hcached _ 1⟩
  | noteOff _ => exact ⟨.refl w, rfl⟩
  | noteRefused _ => exact ⟨.refl w, rfl⟩
  | noteNoted hrecords hwritable hnoted =>
    have hlacks := hdone hrecords hwritable
    obtain ⟨hjoin, hroles⟩ := TableStore.lacks_eq_false_iff.1 hlacks
    rw [hlacks]
    exact ⟨⟨fun _ _ => rfl, hnoted.joinTime? hjoin, hnoted.rolesSeen? hroles⟩, rfl⟩

end Errand

namespace Backfill

variable [Platform ρ] {d : Directory} {serving : ρ → Prop} (b : Backfill)

/-! ## Errands one after the other -/

/-- Every errand is done at the end, since none undoes another. -/
theorem perform_done (hs : d.Serves serving) (hw : w.Ready serving) (es : List Errand) :
    ∀ e ∈ es, e.Done b d (b.perform es w).2 := by
  induction es generalizing w with
  | nil => exact fun e he => nomatch he
  | cons e es ih =>
    have hready := (e.act_grew b hs hw).2
    intro e' he'
    rcases List.mem_cons.1 he' with rfl | he'
    · exact (b.perform_grew hs hready es).1.done (e'.act_came b hs hw).done
    · exact ih hready e' he'

/-- Errands that are all done move nothing. -/
theorem perform_unmoved (hs : d.Serves serving) (hw : w.Ready serving) {es : List Errand}
    (hdone : ∀ e ∈ es, e.Done b d w) :
    w.Unmoved (b.perform es w).2 ∧ (b.perform es w).1.factsCreated = 0 := by
  induction es generalizing w with
  | nil => exact ⟨.refl w, rfl⟩
  | cons e es ih =>
    obtain ⟨hgrew, hready⟩ := e.act_grew b hs hw
    obtain ⟨hmoved, hcreated⟩ := (e.act_came b hs hw).unmoved (hdone e List.mem_cons_self)
    obtain ⟨hmoved', hcreated'⟩ := ih hready fun e' he' => hgrew.done (hdone e' (List.mem_cons_of_mem e he'))
    refine ⟨hmoved.trans hmoved', ?_⟩
    show (e.act b w).1.factsCreated + (b.perform es (e.act b w).2).1.factsCreated = 0
    rw [hcreated, hcreated']

/-! ## Runs -/

/-- What a run leaves behind: its errands are done, the rows of the store are in the
cache, and nothing is gone. -/
theorem run_done (hs : d.Serves serving) (hw : w.Ready serving) :
    (∀ e ∈ (b.groupIds w).flatMap (d.errands b.settings), e.Done b d (b.run w).2) ∧
      w.Grew (b.run w).2 ∧ (b.run w).2.Ready serving ∧
      ((b.run w).2.cache.isPersistent = true → (b.run w).2.cache.Reloaded (b.run w).2.store) := by
  have hready := hw.reloaded
  have hrun : (b.run w).2 = (b.perform ((b.groupIds w).flatMap (d.errands b.settings)) w.reload.2).2 := by
    rw [run_eq, b.upToLast_eq hs hw]
    exact (b.visits_eq _ _).1
  rw [hrun]
  obtain ⟨hgrew, hready'⟩ := b.perform_grew hs hready ((b.groupIds w).flatMap (d.errands b.settings))
  refine ⟨b.perform_done hs hready _, w.reload_grew.trans hgrew, hready', fun hp => ?_⟩
  rw [(w.reload_grew.trans hgrew).persistent] at hp
  have hreloaded : w.reload.2.cache.Reloaded w.store := Cache.reloaded_reload hp w.store
  exact (hreloaded.grew hgrew.entries).of_cacheRows (w.reload_grew.trans hgrew).store.rows

/-- A run whose errands are done already moves nothing. -/
theorem run_unmoved (hs : d.Serves serving) (hw : w.Ready serving)
    (hdone : ∀ e ∈ (b.groupIds w).flatMap (d.errands b.settings), e.Done b d w)
    (hreloaded : w.cache.isPersistent = true → w.cache.Reloaded w.store) :
    w.Unmoved (b.run w).2 ∧ (b.run w).1.restored = 0 ∧ (b.run w).1.factsCreated = 0 := by
  have hidle : w.reload = (⟨0, none⟩, w) := by
    unfold World.reload
    rw [Cache.reload_idle hreloaded]
  obtain ⟨hmoved, hcreated⟩ := b.perform_unmoved hs hw hdone
  have hrestored := (b.perform_ofPart hs hw ((b.groupIds w).flatMap (d.errands b.settings))).restored
  obtain ⟨hworld, hrestored', hcreated'⟩ := b.visits_eq (d := d) (b.groupIds w) w
  have hlast := b.upToLast_eq hs hw
  rw [hidle] at hlast
  rw [run_eq, hlast, hworld]
  refine ⟨hmoved, ?_, ?_⟩
  · show 0 + (b.visits d (b.groupIds w) w).1.restored = 0
    rw [hrestored', hrestored]
  · show 0 + (b.visits d (b.groupIds w) w).1.factsCreated = 0
    rw [hcreated', hcreated]

/-- **A second run brings nothing new in.**  After a run, at whatever time, another one finds every key
and every fact there: it restores nothing, creates no fact, and leaves the keys of the cache and the
recorded facts as they are. -/
theorem run_again (hs : d.Serves serving) {w : World ρ TableStore} (hu : w.cache.Unlimited)
    (hp : serving w.platform) (later : Instant) :
    let once := b.run w
    let twice := b.run { once.2 with now := later }
    (∀ k key, key ∈ (twice.2.cache.segment k).keys ↔ key ∈ (once.2.cache.segment k).keys) ∧
      (∀ id, twice.2.store.joinTime? id = once.2.store.joinTime? id ∧
        twice.2.store.rolesSeen? id = once.2.store.rolesSeen? id) ∧
      twice.2.store.cacheRows = once.2.store.cacheRows ∧
      twice.1.restored = 0 ∧ twice.1.factsCreated = 0 := by
  intro once twice
  obtain ⟨hdone, hgrew, hready, hreloaded⟩ := b.run_done hs (w := w) ⟨hu, hp⟩
  have hclock : (b.run w).2.Grew { (b.run w).2 with now := later } :=
    ⟨fun _ _ h => h, fun _ => rfl, rfl, .refl _, rfl⟩
  have hready' : World.Ready serving { (b.run w).2 with now := later } := ⟨hready.unlimited, hready.platform⟩
  have hdone' : ∀ e ∈ (b.groupIds { (b.run w).2 with now := later }).flatMap (d.errands b.settings),
      e.Done b d { (b.run w).2 with now := later } := by
    rw [b.groupIds_grew (hgrew.trans hclock)]
    exact fun e he => hclock.done (hdone e he)
  obtain ⟨hmoved, hrestored, hcreated⟩ := b.run_unmoved hs hready' hdone' hreloaded
  have hrows := (b.run_done hs hready').2.1.store.rows
  refine ⟨fun k key => ?_, fun id => ⟨hmoved.joins id, hmoved.roles id⟩, hrows, hrestored, hcreated⟩
  rw [← Segment.isSome_find?_iff, ← Segment.isSome_find?_iff]
  exact Bool.eq_iff_iff.1 (hmoved.keys k key)

/-- A day after the epoch. -/
def sampleDay : Instant := ⟨86400000000000, by decide, by decide⟩

/-- Two groups are listed, one of them twice, and the other one fails. -/
def sampleFailing : Directory :=
  { Session.sampleDirectory with
    groups := [.new "g" "Group" "u", .new "h" "Hidden" "u"]
    failingGroups := ["h"] }

/-- Everything is filled in for these groups. -/
def sampleListed : Backfill := ⟨{ BackfillSettings.standard with groupIds := some ["g", "h", "g"] }, true⟩

/-- A run, and what comes of another one a day later. -/
def sampleOnce : BackfillReport × World DirectoryServer TableStore :=
  sampleListed.run (.unlimitedOver sampleFailing)

def sampleTwice : BackfillReport × World DirectoryServer TableStore :=
  sampleListed.run { sampleOnce.2 with now := sampleDay }

/-- A member is paged in and its join time is recorded.  A day later its entry has expired: it is paged in
again, and the group that fails fails again, but no key and no fact is new. -/
theorem run_again_sample :
    sampleFailing.Serves (fun p : DirectoryServer => p.directory = sampleFailing) ∧
      (World.unlimitedOver sampleFailing).cache.Unlimited ∧
      (sampleOnce.1.groupsProcessed = 3 ∧ sampleOnce.1.groupsFailed = 1 ∧ sampleOnce.1.membersCached = 1 ∧
        sampleOnce.1.factsCreated = 1) ∧
      (sampleTwice.1.groupsProcessed = 3 ∧ sampleTwice.1.groupsFailed = 1 ∧ sampleTwice.1.membersCached = 1) ∧
      "g:u" ∈ (sampleTwice.2.cache.segment .member).keys ∧
      sampleTwice.2.store.joinTime? ⟨"g", "u"⟩ = some (.ofInstant .epoch) ∧
      sampleTwice.1.restored = 0 ∧ sampleTwice.1.factsCreated = 0 := by
  have hs := Directory.serves_server sampleFailing
  have hu := (World.ready_unlimitedOver sampleFailing).unlimited
  have hkey : "g:u" ∈ (sampleOnce.2.cache.segment .member).keys := by decide +kernel
  have hjoin : sampleOnce.2.store.joinTime? ⟨"g", "u"⟩ = some (.ofInstant .epoch) := by decide +kernel
  have hagain := run_again sampleListed hs hu rfl sampleDay
  refine ⟨hs, hu, by decide +kernel, by decide +kernel, ?_⟩
  unfold sampleTwice sampleOnce at *
  obtain ⟨hkeys, hfacts, -, hrestored, hcreated⟩ := hagain
  exact ⟨(hkeys .member "g:u").2 hkey, (hfacts ⟨"g", "u"⟩).1.trans hjoin, hrestored, hcreated⟩

end Backfill

end Roster
