import Roster.Proofs.Backfill.Steps
import Roster.Proofs.Cache.Unlimited
import Roster.Proofs.Session.Transparency
import Roster.Proofs.Store.Facts

/-!
# Errands

What a backfill does is cut into errands, each of which concerns one entry of the
cache or the facts of one member.

* `Errand`, `Errand.act` — an errand, and what running it reports and leaves behind.
* `Place`, `Errand.place?` — a place of the world, and the one that an errand concerns.
* `Backfill.perform` — one errand after the other.
* `World.Ready` — a cache without limits, over a platform that answers out of a directory.
* `Errand.act_record_told`, `act_cache_written`, … — an errand, case by case; `Errand.Came`:
  everything that an errand can come to.
* `Errand.Came.wrote` — **an errand asks at most, and writes at its own place at most**.
* `World.Grew` — a later world: no entry and no recorded fact is gone.  `Errand.act_grew`,
  `Backfill.perform_grew` — **errands only add**.
-/

set_option autoImplicit false

namespace Roster

/-- A part of a backfill that concerns one entry, or the facts of one member, or none of these. -/
inductive Errand where
  /-- Fetch the record of a group, unless a live one is there. -/
  | record (groupId : String)
  /-- Fetch the role list of a group, unless a live one with roles is there. -/
  | roles (groupId : String)
  /-- Ask for a list. -/
  | ask (q : Request)
  /-- Cache a record of a list, unless a live one is there. -/
  | cache (k : Kind) (key : String) (r : k.Record)
  /-- Note the facts of a member down. -/
  | note (m : Member)

/-- A place of a world: an entry of the cache, or the facts of a member. -/
inductive Place where
  | entry (k : Kind) (key : String)
  | facts (id : MemberId)
deriving DecidableEq

/-- The place that an errand concerns. -/
def Errand.place? : Errand → Option Place
  | .record groupId => some (.entry .group groupId)
  | .roles groupId => some (.entry .roles groupId)
  | .ask _ => none
  | .cache k key _ => some (.entry k key)
  | .note m => some (.facts m.id)

variable {ρ : Type} [Platform ρ]

/-- What an errand adds to the report, and the world after it. -/
def Errand.act (b : Backfill) : Errand → World ρ TableStore → BackfillReport × World ρ TableStore
  | .record groupId, w => Backfill.fillRecord groupId (0, w)
  | .roles groupId, w => Backfill.fillRoles groupId (0, w)
  | .ask q, w => (match (w.ask q).1 with | .error _ => .failure | .ok _ => 0, (w.ask q).2)
  | .cache k key r, w =>
    (.ofCached k (Backfill.cacheIfAbsent k key r w).1, (Backfill.cacheIfAbsent k key r w).2)
  | .note m, w => ((b.recordMember none m .zero w).1.report, (b.recordMember none m .zero w).2)

/-- Errands one after the other. -/
def Backfill.perform (b : Backfill) : List Errand → World ρ TableStore → BackfillReport × World ρ TableStore
  | [], w => (0, w)
  | e :: es, w => ((e.act b w).1 + (b.perform es (e.act b w).2).1, (b.perform es (e.act b w).2).2)

/-- The cache has no limits, and the platform is in one of these states. -/
structure World.Ready (serving : ρ → Prop) (w : World ρ TableStore) : Prop where
  unlimited : w.cache.Unlimited
  platform : serving w.platform

/-- A later world: no entry and no recorded fact is gone. -/
structure World.Grew (w w' : World ρ TableStore) : Prop where
  entries : ∀ k key, (w.cache.slot? k key).isSome = true → (w'.cache.slot? k key).isSome = true
  limit : ∀ k, (w'.cache.segment k).limit = (w.cache.segment k).limit
  persistent : w'.cache.isPersistent = w.cache.isPersistent
  store : w.store.Grew w'.store
  observed : w'.observed = w.observed

namespace World

variable {w w' w'' : World ρ TableStore}

omit [Platform ρ] in
theorem Grew.refl (w : World ρ TableStore) : w.Grew w :=
  ⟨fun _ _ h => h, fun _ => rfl, rfl, .refl w.store, rfl⟩

omit [Platform ρ] in
theorem Grew.trans (h : w.Grew w') (h' : w'.Grew w'') : w.Grew w'' where
  entries k key hentry := h'.entries k key (h.entries k key hentry)
  limit k := (h'.limit k).trans (h.limit k)
  persistent := h'.persistent.trans h.persistent
  store := h.store.trans h'.store
  observed := h'.observed.trans h.observed

omit [Platform ρ] in
theorem grew_written {k : Kind} {e : Entry k.Record} {cache : Cache} (h : Cache.Written k e w.cache cache) :
    w.Grew { w with cache } where
  entries j key hentry := by
    by_cases hself : j = k ∧ key = e.key
    · obtain ⟨rfl, rfl⟩ := hself
      rw [h.self]
      rfl
    · rw [h.other j key hself]
      exact hentry
  limit := h.limit
  persistent := h.persistent
  store := .refl w.store
  observed := rfl

omit [Platform ρ] in
theorem grew_store {store : TableStore} (h : w.store.Grew store) : w.Grew { w with store } :=
  ⟨fun _ _ hentry => hentry, fun _ => rfl, rfl, h, rfl⟩

omit [Platform ρ] in
/-- A record is written under its key, if that is not empty. -/
theorem remember_cases (hu : w.cache.Unlimited) (e : Entity) (r : e.Record) :
    (e.key = "" ∧ w.remember e r = w) ∨ ∃ cache, w.remember e r = { w with cache } ∧
      Cache.Written e.kind ⟨e.key, r, (w.cache.segment e.kind).expiryFrom w.now⟩ w.cache cache := by
  by_cases hk : e.key = ""
  · refine .inl ⟨hk, ?_⟩
    rw [remember, Cache.insert_idle hk]
  · exact .inr ⟨_, rfl, Cache.insert_written hu hk r w.now⟩

/-- A world, or the one after the platform was asked. -/
inductive Asked (w : World ρ TableStore) : World ρ TableStore → Prop
  | same : Asked w w
  | asked (q : Request) : Asked w (w.ask q).2

theorem Asked.grew (h : w.Asked w') : w.Grew w' := by
  cases h with
  | same => exact .refl w
  | asked q => exact ⟨fun _ _ hentry => hentry, fun _ => rfl, rfl, .refl w.store, rfl⟩

end World

variable {d : Directory} {serving : ρ → Prop} {w w' : World ρ TableStore}

theorem World.Ready.answer (hs : d.Serves serving) (hw : w.Ready serving) (q : Request) :
    w.ask q = (d.answer q, (w.ask q).2) := Prod.ext (hs.answer q w.now w.platform hw.platform) rfl

/-- What is asked is answered out of the directory. -/
theorem World.Ready.answered (hs : d.Serves serving) (hw : w.Ready serving) {q : Request}
    {answer : Except PlatformError q.Answer} (hask : w.ask q = (answer, w')) :
    d.answer q = answer ∧ (w.ask q).2 = w' := by
  rw [hw.answer hs q] at hask
  exact Prod.mk.inj hask

theorem World.Ready.ask (hs : d.Serves serving) (hw : w.Ready serving) (q : Request) :
    (w.ask q).2.Ready serving :=
  ⟨hw.unlimited, hs.keep q w.now w.platform hw.platform⟩

omit [Platform ρ] in
theorem World.Ready.grown (hw : w.Ready serving) (h : w.Grew w') (hp : serving w'.platform) :
    w'.Ready serving :=
  ⟨fun k => (h.limit k).trans (hw.unlimited k), hp⟩

namespace Errand

variable (b : Backfill) {groupId key : String} {k : Kind} {r : k.Record} {m : Member}

/-! ## Caching -/

theorem act_cache_idle (h : key = "" ∨ ((w.cache.segment k).live? key w.now).isSome = true) :
    (Errand.cache k key r).act b w = (0, w) := by
  rw [act, Backfill.cacheIfAbsent_eq, Cache.insertUnlessLive_idle h]
  exact Prod.ext (BackfillReport.ofCached_zero k) rfl

theorem act_cache_written (hu : w.cache.Unlimited) (hk : key ≠ "")
    (hdead : (w.cache.segment k).live? key w.now = none) : ∃ cache,
      (Errand.cache k key r).act b w = (.ofCached k 1, { w with cache }) ∧
        Cache.Written k ⟨key, r, (w.cache.segment k).expiryFrom w.now⟩ w.cache cache := by
  obtain ⟨hflag, hwritten⟩ := Cache.insertUnlessLive_written hu hk hdead r
  refine ⟨_, ?_, hwritten⟩
  rw [act, Backfill.cacheIfAbsent_eq, hflag]
  rfl

/-! ## Fetching -/

theorem act_record_idle (h : (w.cache.groups.live? groupId w.now).isSome = true) :
    (Errand.record groupId).act b w = (0, w) := if_pos h

theorem act_record_refused (hs : d.Serves serving) (hw : w.Ready serving)
    (hdead : w.cache.groups.live? groupId w.now = none) {err : PlatformError}
    (hanswer : d.answer (.group groupId) = .error err) :
    (Errand.record groupId).act b w = (.failure, (w.ask (.group groupId)).2) := by
  have hcached : ¬w.cache.groups.contains groupId w.now = true := by
    rw [Segment.contains, hdead]
    exact Bool.false_ne_true
  have hask := hw.answer hs (.group groupId)
  rw [hanswer] at hask
  rw [act, Backfill.fillRecord]
  dsimp only
  rw [if_neg hcached, hask]
  rfl

/-- A record that is told is cached as one of a list is. -/
theorem act_record_told (hs : d.Serves serving) (hw : w.Ready serving)
    (hdead : w.cache.groups.live? groupId w.now = none) {group : Group}
    (hanswer : d.answer (.group groupId) = .ok group) :
    (Errand.record groupId).act b w = (Errand.cache .group groupId group).act b (w.ask (.group groupId)).2 := by
  have hcached : ¬w.cache.groups.contains groupId w.now = true := by
    rw [Segment.contains, hdead]
    exact Bool.false_ne_true
  have hask := hw.answer hs (.group groupId)
  rw [hanswer] at hask
  rw [act, Backfill.fillRecord]
  dsimp only
  rw [if_neg hcached, hask]
  refine Prod.ext ?_ rfl
  simp only [act, BackfillReport.ofCached, BackfillReport.zero_def, BackfillReport.zero, Nat.zero_add]

theorem act_roles_idle (h : Backfill.hasRoles w groupId = true) : (Errand.roles groupId).act b w = (0, w) :=
  if_pos h

theorem act_roles_refused (hs : d.Serves serving) (hw : w.Ready serving)
    (h : Backfill.hasRoles w groupId = false) {err : PlatformError}
    (hanswer : d.answer (.roles groupId) = .error err) :
    (Errand.roles groupId).act b w = (.failure, (w.ask (.roles groupId)).2) := by
  have hask := hw.answer hs (.roles groupId)
  rw [hanswer] at hask
  rw [act, Backfill.fillRoles, if_neg (Bool.eq_false_iff.1 h), hask]
  rfl

theorem act_roles_told (hs : d.Serves serving) (hw : w.Ready serving) (h : Backfill.hasRoles w groupId = false)
    {roles : List Role} (hanswer : d.answer (.roles groupId) = .ok roles) :
    (Errand.roles groupId).act b w = (.ofCached .roles 1, (w.ask (.roles groupId)).2.remember (.roles groupId)
      (RoleList.fetched groupId roles (w.ask (.roles groupId)).2.now)) := by
  have hask := hw.answer hs (.roles groupId)
  rw [hanswer] at hask
  rw [act, Backfill.fillRoles, if_neg (Bool.eq_false_iff.1 h), hask]
  rfl

theorem act_ask (hs : d.Serves serving) (hw : w.Ready serving) (q : Request) :
    (Errand.ask q).act b w = (if (d.answer q).isOk then 0 else .failure, (w.ask q).2) := by
  rw [act, hw.answer hs q]
  cases d.answer q <;> rfl

/-! ## Noting facts down -/

theorem act_note_off (h : b.recordsFacts = false) : (Errand.note m).act b w = (0, w) := by
  rw [act, Backfill.recordMember, if_neg (by simp [h])]
  rfl

theorem act_note_refused (h : b.recordsFacts = true) (hs : w.store.readOnly = true) :
    (Errand.note m).act b w = (.failure, w) := by
  rw [act, Backfill.recordMember, if_pos h, World.useStore, noteFacts_readOnly hs]
  rfl

/-- A new fact counts as created, and facts that are there count as touched. -/
theorem act_note_noted (h : b.recordsFacts = true) (hs : w.store.readOnly = false) : ∃ store,
    (Errand.note m).act b w =
      (.ofFacts (w.store.lacks m), { w with store }) ∧ TableStore.Noted m w.now w.now w.store store := by
  obtain ⟨store, hnote, hnoted⟩ := noteFacts_writable hs m w.now w.now
  refine ⟨store, ?_, hnoted⟩
  have hused : w.useStore (noteFacts m none w.now w.now) = (.ok (w.store.lacks m), { w with store }) := by
    unfold World.useStore
    rw [hnote]
  rw [act, Backfill.recordMember, if_pos h, show Backfill.JoinsRead.has none m.userId = none from rfl, hused]
  cases w.store.lacks m <;> rfl

/-! ## What an errand comes to -/

/-- Everything that an errand can come to over a directory: what it adds to the
report, and the world after it. -/
inductive Came (b : Backfill) (d : Directory) (w : World ρ TableStore) :
    Errand → BackfillReport × World ρ TableStore → Prop
  | recordIdle {g : String} (hlive : (w.cache.slot? .group g).isSome = true) : Came b d w (.record g) (0, w)
  | recordRefused {g : String} {err : PlatformError} (hanswer : d.answer (.group g) = .error err) :
    Came b d w (.record g) (.failure, (w.ask (.group g)).2)
  | recordKept {g : String} (hkept : g = "" ∨ (w.cache.slot? .group g).isSome = true) :
    Came b d w (.record g) (0, (w.ask (.group g)).2)
  | recordWritten {g : String} {e : Entry Group} {cache : Cache} {group : Group}
    (hanswer : d.answer (.group g) = .ok group) (hkey : e.key = g)
    (hwritten : Cache.Written .group e w.cache cache) :
    Came b d w (.record g) (.ofCached .group 1, { (w.ask (.group g)).2 with cache })
  | rolesIdle {g : String} (hlive : (w.cache.slot? .roles g).isSome = true) : Came b d w (.roles g) (0, w)
  | rolesRefused {g : String} {err : PlatformError} (hanswer : d.answer (.roles g) = .error err) :
    Came b d w (.roles g) (.failure, (w.ask (.roles g)).2)
  | rolesKept {g : String} (hkey : g = "") : Came b d w (.roles g) (.ofCached .roles 1, (w.ask (.roles g)).2)
  | rolesWritten {g : String} {e : Entry RoleList} {cache : Cache} {roles : List Role}
    (hanswer : d.answer (.roles g) = .ok roles) (hkey : e.key = g)
    (hwritten : Cache.Written .roles e w.cache cache) :
    Came b d w (.roles g) (.ofCached .roles 1, { (w.ask (.roles g)).2 with cache })
  | asked {q : Request} : Came b d w (.ask q) (if (d.answer q).isOk then 0 else .failure, (w.ask q).2)
  | cacheKept {k : Kind} {key : String} {r : k.Record}
    (hkept : key = "" ∨ (w.cache.slot? k key).isSome = true) : Came b d w (.cache k key r) (0, w)
  | cacheWritten {k : Kind} {key : String} {r : k.Record} {e : Entry k.Record}
    {cache : Cache} (hkey : e.key = key) (hwritten : Cache.Written k e w.cache cache) :
    Came b d w (.cache k key r) (.ofCached k 1, { w with cache })
  | noteOff {m : Member} (hoff : b.recordsFacts = false) : Came b d w (.note m) (0, w)
  | noteRefused {m : Member} (hrefused : w.store.readOnly = true) : Came b d w (.note m) (.failure, w)
  | noteNoted {m : Member} {store : TableStore} (hrecords : b.recordsFacts = true)
    (hwritable : w.store.readOnly = false) (hnoted : TableStore.Noted m w.now w.now w.store store) :
    Came b d w (.note m) (.ofFacts (w.store.lacks m), { w with store })

omit [Platform ρ] in
/-- A live entry is an entry. -/
theorem isSome_slot?_of_live (h : ((w.cache.segment k).live? key w.now).isSome = true) :
    (w.cache.slot? k key).isSome = true := by
  obtain ⟨e, he⟩ := Option.isSome_iff_exists.1 h
  exact Option.isSome_of_eq_some (Segment.find?_of_live? he).1

/-- A record is cached, or one is there already. -/
theorem act_cache_cases (hu : w.cache.Unlimited) (k : Kind) (key : String) (r : k.Record) :
    ((key = "" ∨ (w.cache.slot? k key).isSome = true) ∧ (Errand.cache k key r).act b w = (0, w)) ∨
      ∃ (e : Entry k.Record) (cache : Cache), e.key = key ∧ Cache.Written k e w.cache cache ∧
        (Errand.cache k key r).act b w = (.ofCached k 1, { w with cache }) := by
  by_cases hkept : key = "" ∨ ((w.cache.segment k).live? key w.now).isSome = true
  · exact .inl ⟨hkept.imp_right isSome_slot?_of_live, act_cache_idle b hkept⟩
  · rw [not_or, Option.not_isSome_iff_eq_none] at hkept
    obtain ⟨cache, hact, hwritten⟩ := act_cache_written b (r := r) hu hkept.1 hkept.2
    exact .inr ⟨_, cache, rfl, hwritten, hact⟩

theorem came_record (hs : d.Serves serving) (hw : w.Ready serving) (groupId : String) :
    Came b d w (.record groupId) ((Errand.record groupId).act b w) := by
  cases hlive : w.cache.groups.live? groupId w.now with
  | some e =>
    have hsome := Option.isSome_of_eq_some hlive
    rw [act_record_idle b hsome]
    exact .recordIdle (isSome_slot?_of_live (k := .group) hsome)
  | none =>
    cases hanswer : d.answer (.group groupId) with
    | error err =>
      rw [act_record_refused b hs hw hlive hanswer]
      exact .recordRefused hanswer
    | ok group =>
      have hready := hw.ask hs (.group groupId)
      rw [act_record_told b hs hw hlive hanswer]
      rcases act_cache_cases b hready.unlimited .group groupId group with ⟨hkept, hact⟩ |
        ⟨e, cache, hkey, hwritten, hact⟩
      · rw [hact]
        exact .recordKept hkept
      · rw [hact]
        exact .recordWritten hanswer hkey hwritten

theorem came_roles (hs : d.Serves serving) (hw : w.Ready serving) (groupId : String) :
    Came b d w (.roles groupId) ((Errand.roles groupId).act b w) := by
  cases hroles : Backfill.hasRoles w groupId with
  | true =>
    obtain ⟨hlive, -⟩ := (Option.any_eq_true_iff_get _ _).1 hroles
    rw [Segment.peek, Option.isSome_map] at hlive
    rw [act_roles_idle b hroles]
    exact .rolesIdle (isSome_slot?_of_live (k := .roles) hlive)
  | false =>
    cases hanswer : d.answer (.roles groupId) with
    | error err =>
      rw [act_roles_refused b hs hw hroles hanswer]
      exact .rolesRefused hanswer
    | ok roles =>
      have hready := hw.ask hs (.roles groupId)
      rw [act_roles_told b hs hw hroles hanswer]
      rcases World.remember_cases hready.unlimited (.roles groupId) _ with ⟨hkey, hkept⟩ |
        ⟨cache, hput, hwritten⟩
      · rw [hkept]
        exact .rolesKept hkey
      · rw [hput]
        exact .rolesWritten hanswer rfl hwritten

theorem came_note (m : Member) : Came b d w (.note m) ((Errand.note m).act b w) := by
  cases hrecords : b.recordsFacts with
  | false =>
    rw [act_note_off b hrecords]
    exact .noteOff hrecords
  | true =>
    cases hstore : w.store.readOnly with
    | true =>
      rw [act_note_refused b hrecords hstore]
      exact .noteRefused hstore
    | false =>
      obtain ⟨store, hact, hnoted⟩ := act_note_noted b (m := m) hrecords hstore
      rw [hact]
      exact .noteNoted hrecords hstore hnoted

theorem act_came (hs : d.Serves serving) (hw : w.Ready serving) (e : Errand) : Came b d w e (e.act b w) := by
  cases e with
  | record groupId => exact came_record b hs hw groupId
  | roles groupId => exact came_roles b hs hw groupId
  | ask q =>
    rw [act_ask b hs hw]
    exact .asked
  | cache k key r =>
    rcases act_cache_cases b hw.unlimited k key r with ⟨hkept, hact⟩ | ⟨e, cache, hkey, hwritten, hact⟩
    · rw [hact]
      exact .cacheKept hkept
    · rw [hact]
      exact .cacheWritten hkey hwritten
  | note m => exact came_note b m

/-! ## What an errand changes -/

variable {b} {e : Errand} {x : BackfillReport × World ρ TableStore}

/-- What an errand may write: nothing, or something at its own place. -/
inductive Wrote (e : Errand) (w : World ρ TableStore) : World ρ TableStore → Prop
  | nothing : Wrote e w w
  | entry {k : Kind} {a : Entry k.Record} {cache : Cache} (hplace : e.place? = some (.entry k a.key))
    (hwritten : Cache.Written k a w.cache cache) : Wrote e w { w with cache }
  | facts {m : Member} {store : TableStore} (hplace : e.place? = some (.facts m.id))
    (hnoted : TableStore.Noted m w.now w.now w.store store) : Wrote e w { w with store }

/-- **An errand asks at most, and writes at its own place at most.** -/
theorem Came.wrote (h : Came b d w e x) : ∃ w', w.Asked w' ∧ e.Wrote w' x.2 := by
  have hcached {q : Request} {k : Kind} {a : Entry k.Record} {cache : Cache}
      (hplace : e.place? = some (.entry k a.key)) (hwritten : Cache.Written k a w.cache cache) :
      ∃ w', w.Asked w' ∧ e.Wrote w' { (w.ask q).2 with cache } :=
        ⟨(w.ask q).2, .asked q, .entry hplace hwritten⟩
  cases h with
  | recordRefused _ => exact ⟨_, .asked _, .nothing⟩
  | recordKept _ => exact ⟨_, .asked _, .nothing⟩
  | recordWritten _ hkey hwritten =>
    subst hkey
    exact hcached rfl hwritten
  | rolesRefused _ => exact ⟨_, .asked _, .nothing⟩
  | rolesKept _ => exact ⟨_, .asked _, .nothing⟩
  | rolesWritten _ hkey hwritten =>
    subst hkey
    exact hcached rfl hwritten
  | asked => exact ⟨_, .asked _, .nothing⟩
  | cacheWritten hkey hwritten =>
    subst hkey
    exact ⟨w, .same, .entry rfl hwritten⟩
  | noteNoted _ _ hnoted => exact ⟨w, .same, .facts rfl hnoted⟩
  | _ => exact ⟨w, .same, .nothing⟩

/-! ## Errands only add -/

omit [Platform ρ] in
theorem Wrote.grew (h : e.Wrote w w') : w.Grew w' := by
  cases h with
  | nothing => exact .refl w
  | entry _ hwritten => exact World.grew_written hwritten
  | facts _ hnoted => exact World.grew_store hnoted.grew

omit [Platform ρ] in
theorem Wrote.platform (h : e.Wrote w w') : w'.platform = w.platform := by
  cases h <;> rfl

theorem Came.grew (h : Came b d w e x) : w.Grew x.2 := by
  obtain ⟨w', hasked, hwrote⟩ := h.wrote
  exact hasked.grew.trans hwrote.grew

/-- An errand leaves the platform as it is, or asks it. -/
theorem Came.stays (hs : d.Serves serving) (hw : w.Ready serving) (h : Came b d w e x) :
    serving x.2.platform := by
  obtain ⟨w', hasked, hwrote⟩ := h.wrote
  rw [hwrote.platform]
  cases hasked with
  | same => exact hw.platform
  | asked q => exact (hw.ask hs q).platform

/-- An errand counts what a part of a run counts. -/
theorem Came.ofPart (h : Came b d w e x) : x.1.OfPart := by
  have hnone : BackfillReport.OfPart 0 := ⟨rfl, rfl, rfl⟩
  have hfailure : BackfillReport.failure.OfPart := ⟨rfl, rfl, rfl⟩
  cases h with
  | recordIdle _ => exact hnone
  | recordRefused _ => exact hfailure
  | recordKept _ => exact hnone
  | recordWritten _ _ _ => exact BackfillReport.ofPart_ofCached .group 1
  | rolesIdle _ => exact hnone
  | rolesRefused _ => exact hfailure
  | rolesKept _ => exact BackfillReport.ofPart_ofCached .roles 1
  | rolesWritten _ _ _ => exact BackfillReport.ofPart_ofCached .roles 1
  | asked =>
    dsimp only
    split
    · exact hnone
    · exact hfailure
  | cacheKept _ => exact hnone
  | cacheWritten _ _ => exact BackfillReport.ofPart_ofCached _ 1
  | noteOff _ => exact hnone
  | noteRefused _ => exact hfailure
  | noteNoted _ _ _ => exact BackfillReport.ofPart_ofFacts _

theorem act_grew (b : Backfill) (hs : d.Serves serving) (hw : w.Ready serving) (e : Errand) :
    w.Grew (e.act b w).2 ∧ (e.act b w).2.Ready serving := by
  have hcame := act_came b hs hw e
  exact ⟨hcame.grew, hw.grown hcame.grew (hcame.stays hs hw)⟩

end Errand

namespace Backfill

variable (b : Backfill)

/-- The platform answers what it did before, and no entry and no fact is lost along the way. -/
theorem perform_grew (hs : d.Serves serving) (hw : w.Ready serving) (es : List Errand) :
    w.Grew (b.perform es w).2 ∧ (b.perform es w).2.Ready serving := by
  induction es generalizing w with
  | nil => exact ⟨.refl w, hw⟩
  | cons e es ih =>
    obtain ⟨hgrew, hready⟩ := e.act_grew b hs hw
    obtain ⟨hgrew', hready'⟩ := ih hready
    exact ⟨hgrew.trans hgrew', hready'⟩

theorem perform_ofPart (hs : d.Serves serving) (hw : w.Ready serving) (es : List Errand) :
    (b.perform es w).1.OfPart := by
  induction es generalizing w with
  | nil => exact ⟨rfl, rfl, rfl⟩
  | cons e es ih => exact (e.act_came b hs hw).ofPart.add (ih (e.act_grew b hs hw).2)

theorem perform_append (es es' : List Errand) (w : World ρ TableStore) : b.perform (es ++ es') w =
    ((b.perform es w).1 + (b.perform es' (b.perform es w).2).1, (b.perform es' (b.perform es w).2).2) := by
  induction es generalizing w with
  | nil => exact Prod.ext (zero_add _).symm rfl
  | cons e es ih =>
    rw [List.cons_append, perform, ih]
    exact Prod.ext (add_assoc _ _ _).symm rfl

end Backfill

end Roster
