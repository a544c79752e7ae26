import Roster.Proofs.Backfill.Errands

/-!
# Where an errand takes place

An errand concerns one place of the world at most, and neither reads nor writes any other.

* `World.SameAt`, `World.SameTerms` — two worlds that agree at a place, and two worlds that differ in
  nothing else than their places.
* `Errand.Came.frame`, `Backfill.perform_frame` — **every other place stays as it is**.
* `Errand.act_local`, `Backfill.perform_local` — **no other place is looked at**: in two worlds that agree where
  errands take place they report the same and leave the same there.
-/

set_option autoImplicit false

namespace Roster

/-- The platform answers without taking time. -/
def Prompt {ρ : Type} [Platform ρ] (serving : ρ → Prop) : Prop :=
  ∀ (q : Request) (now : Instant) (p : ρ), serving p → (Platform.ask q now p).2.1 = now

variable {ρ : Type}

namespace World

/-- Two worlds agree at a place. -/
def SameAt (w w' : World ρ TableStore) : Place → Prop
  | .entry k key => w.cache.slot? k key = w'.cache.slot? k key
  | .facts id => w.store.joins[id]? = w'.store.joins[id]? ∧ w.store.roles[id]? = w'.store.roles[id]?

/-- Two worlds with one clock and one set of times to live, whose stores both take
writes or both refuse them. -/
structure SameTerms (w w' : World ρ TableStore) : Prop where
  now : w.now = w'.now
  ttl : ∀ k, (w.cache.segment k).ttlMillis = (w'.cache.segment k).ttlMillis
  readOnly : w.store.readOnly = w'.store.readOnly

variable {w w' w'' : World ρ TableStore} {p : Place} {k : Kind} {key : String}

theorem SameAt.refl (w : World ρ TableStore) (p : Place) : w.SameAt w p := by
  cases p with
  | entry k key => rfl
  | facts id => exact ⟨rfl, rfl⟩

theorem SameAt.symm (h : w.SameAt w' p) : w'.SameAt w p := by
  cases p with
  | entry k key => exact Eq.symm h
  | facts id => exact ⟨h.1.symm, h.2.symm⟩

theorem SameAt.trans (h : w.SameAt w' p) (h' : w'.SameAt w'' p) : w.SameAt w'' p := by
  cases p with
  | entry k key => exact Eq.trans h h'
  | facts id => exact ⟨h.1.trans h'.1, h.2.trans h'.2⟩

theorem SameTerms.refl (w : World ρ TableStore) : w.SameTerms w := ⟨rfl, fun _ => rfl, rfl⟩

theorem SameTerms.symm (h : w.SameTerms w') : w'.SameTerms w :=
  ⟨h.now.symm, fun k => (h.ttl k).symm, h.readOnly.symm⟩

theorem SameTerms.trans (h : w.SameTerms w') (h' : w'.SameTerms w'') : w.SameTerms w'' :=
  ⟨h.now.trans h'.now, fun k => (h.ttl k).trans (h'.ttl k), h.readOnly.trans h'.readOnly⟩

/-- An entry written now expires at the same time in both worlds. -/
theorem SameTerms.expiryFrom (h : w.SameTerms w') (k : Kind) :
    (w.cache.segment k).expiryFrom w.now = (w'.cache.segment k).expiryFrom w'.now := by
  rw [Segment.expiryFrom, Segment.expiryFrom, Segment.ttl, Segment.ttl, h.ttl, h.now]

/-- The same entry is live in both worlds. -/
theorem SameAt.live? (h : w.SameAt w' (.entry k key)) (hterms : w.SameTerms w') :
    (w.cache.segment k).live? key w.now = (w'.cache.segment k).live? key w'.now := by
  rw [Segment.live?, Segment.live?, hterms.now]
  exact congrArg (Option.filter _) h

/-- The same facts are lacking in both worlds. -/
theorem SameAt.lacks {m : Member} (h : w.SameAt w' (.facts m.id)) : w.store.lacks m = w'.store.lacks m := by
  unfold TableStore.lacks TableStore.rolesOf
  rw [h.1, h.2]

/-! ## Places that stay as they are -/

theorem Asked.sameAt [Platform ρ] (h : w.Asked w') (p : Place) : w.SameAt w' p := by
  cases h with
  | same => exact .refl w p
  | asked q => exact .refl (w.ask q).2 p

theorem sameAt_written {e : Entry k.Record} {cache : Cache} (h : Cache.Written k e w.cache cache)
    (hp : p ≠ .entry k e.key) : w.SameAt { w with cache } p := by
  cases p with
  | entry j key =>
    refine (h.other j key ?_).symm
    rintro ⟨rfl, rfl⟩
    exact hp rfl
  | facts id => exact ⟨rfl, rfl⟩

theorem sameAt_noted {m : Member} {seen now : Instant} {store : TableStore}
    (h : TableStore.Noted m seen now w.store store)
    (hp : p ≠ .facts m.id) : w.SameAt { w with store } p := by
  cases p with
  | entry j key => rfl
  | facts id =>
    have hid : id ≠ m.id := by
      rintro rfl
      exact hp rfl
    refine ⟨?_, ?_⟩
    · rw [h.joins, if_neg hid]
    · rw [h.roles, if_neg hid]

/-! ## Terms that stay as they are -/

theorem Asked.sameTerms [Platform ρ] {serving : ρ → Prop} (hprompt : Prompt serving) (hp : serving w.platform)
    (h : w.Asked w') : w.SameTerms w' := by
  cases h with
  | same => exact .refl w
  | asked q => exact ⟨(hprompt q w.now w.platform hp).symm, fun _ => rfl, rfl⟩

theorem sameTerms_written {e : Entry k.Record} {cache : Cache} (h : Cache.Written k e w.cache cache) :
    w.SameTerms { w with cache } := ⟨rfl, fun j => (h.ttl j).symm, rfl⟩

theorem sameTerms_noted {m : Member} {seen now : Instant} {store : TableStore}
    (h : TableStore.Noted m seen now w.store store) :
    w.SameTerms { w with store } := ⟨rfl, fun _ => rfl, h.readOnly.symm⟩

/-! ## Places that are written alike -/

/-- Entries with the same key, record and expiry leave the same behind. -/
theorem sameAt_of_written {e e' : Entry k.Record} {cache cache' : Cache} (h : Cache.Written k e w.cache cache)
    (h' : Cache.Written k e' w'.cache cache') (heq : e = e') :
    World.SameAt { w with cache } { w' with cache := cache' } (.entry k e.key) := by
  subst heq
  exact h.self.trans h'.self.symm

theorem sameAt_of_noted {m : Member} {seen now : Instant} {store store' : TableStore}
    (h : TableStore.Noted m seen now w.store store) (h' : TableStore.Noted m seen now w'.store store')
    (hsame : w.SameAt w' (.facts m.id)) :
    World.SameAt { w with store } { w' with store := store' } (.facts m.id) := by
  refine ⟨?_, ?_⟩
  · show store.joins[m.id]? = store'.joins[m.id]?
    rw [h.joins, h'.joins, hsame.1]
  · show store.roles[m.id]? = store'.roles[m.id]?
    rw [h.roles, h'.roles, hsame.2]

/-- A record that is remembered in both worlds leaves the same behind. -/
theorem SameAt.remember {e : Entity} (hsame : w.SameAt w' (.entry e.kind e.key)) (hu : w.cache.Unlimited)
    (hu' : w'.cache.Unlimited) (hterms : w.SameTerms w') (r : e.Record) :
    (w.remember e r).SameAt (w'.remember e r) (.entry e.kind e.key) := by
  rcases remember_cases hu e r with ⟨hkey, hkept⟩ | ⟨cache, hput, hwritten⟩
  · rcases remember_cases hu' e r with ⟨-, hkept'⟩ | ⟨cache', hput', hwritten'⟩
    · rw [hkept, hkept']
      exact hsame
    · exact absurd hkey hwritten'.named
  · rcases remember_cases hu' e r with ⟨hkey, -⟩ | ⟨cache', hput', hwritten'⟩
    · exact absurd hkey hwritten.named
    · rw [hput, hput']
      exact sameAt_of_written hwritten hwritten' (by rw [hterms.expiryFrom])

end World

variable [Platform ρ] {d : Directory} {serving : ρ → Prop} {w w' : World ρ TableStore} {p : Place}

namespace Errand

variable {b : Backfill} {e : Errand} {x : BackfillReport × World ρ TableStore}

omit [Platform ρ] in
theorem Wrote.frame (h : e.Wrote w w') (hp : e.place? ≠ some p) : w.SameAt w' p := by
  have hother {q : Place} (hq : e.place? = some q) : p ≠ q := fun heq => hp (hq.trans (congrArg some heq.symm))
  cases h with
  | nothing => exact .refl w p
  | entry hplace hwritten => exact World.sameAt_written hwritten (hother hplace)
  | facts hplace hnoted => exact World.sameAt_noted hnoted (hother hplace)

omit [Platform ρ] in
theorem Wrote.sameTerms (h : e.Wrote w w') : w.SameTerms w' := by
  cases h with
  | nothing => exact .refl w
  | entry _ hwritten => exact World.sameTerms_written hwritten
  | facts _ hnoted => exact World.sameTerms_noted hnoted

/-- **Every other place stays as it is.** -/
theorem Came.frame (h : Came b d w e x) (hp : e.place? ≠ some p) : w.SameAt x.2 p := by
  obtain ⟨w', hasked, hwrote⟩ := h.wrote
  exact (hasked.sameAt p).trans (hwrote.frame hp)

theorem Came.sameTerms (hprompt : Prompt serving) (hw : w.Ready serving) (h : Came b d w e x) :
    w.SameTerms x.2 := by
  obtain ⟨w', hasked, hwrote⟩ := h.wrote
  exact (hasked.sameTerms hprompt hw.platform).trans hwrote.sameTerms

/-! ## What an errand looks at -/

variable (b)

/-- An errand reports the same in two worlds, and leaves the same at a place. -/
structure ActsAlike (b : Backfill) (e : Errand) (w w' : World ρ TableStore) (p : Place) : Prop where
  report : (e.act b w).1 = (e.act b w').1
  place : (e.act b w).2.SameAt (e.act b w').2 p

/-- A record of a list is new to both worlds or to neither. -/
theorem actsAlike_cache {k : Kind} {key : String} (hsame : w.SameAt w' (.entry k key)) (hu : w.cache.Unlimited)
    (hu' : w'.cache.Unlimited) (hterms : w.SameTerms w') (r : k.Record) :
    ActsAlike b (.cache k key r) w w' (.entry k key) := by
  have hlive := hsame.live? hterms
  by_cases hkept : key = "" ∨ ((w.cache.segment k).live? key w.now).isSome = true
  · have hact := act_cache_idle (r := r) b hkept
    have hact' := act_cache_idle (r := r) b (hlive ▸ hkept)
    refine ⟨?_, ?_⟩ <;> rw [hact, hact']
    exact hsame
  · rw [not_or, Option.not_isSome_iff_eq_none] at hkept
    obtain ⟨hkey, hdead⟩ := hkept
    obtain ⟨cache, hact, hwritten⟩ := act_cache_written b (r := r) hu hkey hdead
    obtain ⟨cache', hact', hwritten'⟩ := act_cache_written b (r := r) hu' hkey (hlive.symm.trans hdead)
    refine ⟨?_, ?_⟩ <;> rw [hact, hact']
    exact World.sameAt_of_written hwritten hwritten' (by rw [hterms.expiryFrom])

/-- Facts are lacking in both worlds or in neither. -/
theorem actsAlike_note (hterms : w.SameTerms w') {m : Member} (hsame : w.SameAt w' (.facts m.id)) :
    ActsAlike b (.note m) w w' (.facts m.id) := by
  cases hrecords : b.recordsFacts with
  | false =>
    refine ⟨?_, ?_⟩ <;> rw [act_note_off b hrecords, act_note_off b hrecords]
    exact hsame
  | true =>
    cases hstore : w.store.readOnly with
    | true =>
      have hstore' := hterms.readOnly.symm.trans hstore
      refine ⟨?_, ?_⟩ <;> rw [act_note_refused b hrecords hstore, act_note_refused b hrecords hstore']
      exact hsame
    | false =>
      obtain ⟨store, hact, hnoted⟩ := act_note_noted b (m := m) hrecords hstore
      obtain ⟨store', hact', hnoted'⟩ := act_note_noted b (m := m) hrecords (hterms.readOnly.symm.trans hstore)
      rw [← hterms.now] at hnoted'
      refine ⟨?_, ?_⟩ <;> rw [hact, hact']
      · rw [hsame.lacks]
      · exact World.sameAt_of_noted hnoted hnoted' hsame

section Asking

variable (hs : d.Serves serving) (hprompt : Prompt serving) (hw : w.Ready serving) (hw' : w'.Ready serving)
  (hterms : w.SameTerms w')

include hprompt hw hw' hterms

omit hs in
theorem sameTerms_asked (q : Request) : (w.ask q).2.SameTerms (w'.ask q).2 :=
  ((World.Asked.asked q).sameTerms hprompt hw.platform).symm.trans
    (hterms.trans ((World.Asked.asked q).sameTerms hprompt hw'.platform))

include hs

theorem actsAlike_record {groupId : String} (hsame : w.SameAt w' (.entry .group groupId)) :
    ActsAlike b (.record groupId) w w' (.entry .group groupId) := by
  have hlive : w.cache.groups.live? groupId w.now = w'.cache.groups.live? groupId w'.now := hsame.live? hterms
  cases hfound : w.cache.groups.live? groupId w.now with
  | some e =>
    have hsome := Option.isSome_of_eq_some hfound
    refine ⟨?_, ?_⟩ <;> rw [act_record_idle b hsome, act_record_idle b (hlive ▸ hsome)]
    exact hsame
  | none =>
    have hfound' := hlive.symm.trans hfound
    cases hanswer : d.answer (.group groupId) with
    | error err =>
      refine ⟨?_, ?_⟩ <;>
        rw [act_record_refused b hs hw hfound hanswer, act_record_refused b hs hw' hfound' hanswer]
      exact hsame
    | ok group =>
      have hasked := sameTerms_asked hprompt hw hw' hterms (.group groupId)
      have hthere : (w.ask (.group groupId)).2.SameAt (w'.ask (.group groupId)).2 (.entry .group groupId) :=
        hsame
      obtain ⟨hreport, hplace⟩ := actsAlike_cache b hthere hw.unlimited hw'.unlimited hasked group
      refine ⟨?_, ?_⟩ <;> rw [act_record_told b hs hw hfound hanswer, act_record_told b hs hw' hfound' hanswer]
      · exact hreport
      · exact hplace

theorem actsAlike_roles {groupId : String} (hsame : w.SameAt w' (.entry .roles groupId)) :
    ActsAlike b (.roles groupId) w w' (.entry .roles groupId) := by
  have hlive : w.cache.roles.live? groupId w.now = w'.cache.roles.live? groupId w'.now := hsame.live? hterms
  have hroles : Backfill.hasRoles w groupId = Backfill.hasRoles w' groupId := by
    rw [Backfill.hasRoles, Backfill.hasRoles, Segment.peek, Segment.peek, hlive]
  cases hfound : Backfill.hasRoles w groupId with
  | true =>
    refine ⟨?_, ?_⟩ <;> rw [act_roles_idle b hfound, act_roles_idle b (hroles.symm.trans hfound)]
    exact hsame
  | false =>
    have hfound' := hroles.symm.trans hfound
    cases hanswer : d.answer (.roles groupId) with
    | error err =>
      refine ⟨?_, ?_⟩ <;> rw [act_roles_refused b hs hw hfound hanswer,
        act_roles_refused b hs hw' hfound' hanswer]
      exact hsame
    | ok roles =>
      have hasked := sameTerms_asked hprompt hw hw' hterms (.roles groupId)
      have hthere : (w.ask (.roles groupId)).2.SameAt (w'.ask (.roles groupId)).2 (.entry .roles groupId) :=
        hsame
      refine ⟨?_, ?_⟩ <;> rw [act_roles_told b hs hw hfound hanswer, act_roles_told b hs hw' hfound' hanswer]
      rw [hasked.now]
      exact hthere.remember (e := .roles groupId) hw.unlimited hw'.unlimited hasked _

/-- **No other place is looked at.** -/
theorem act_local (e : Errand) (hsame : ∀ p, e.place? = some p → w.SameAt w' p) :
    (e.act b w).1 = (e.act b w').1 ∧ ∀ p, e.place? = some p → (e.act b w).2.SameAt (e.act b w').2 p := by
  have hplace {p : Place} (hp : e.place? = some p) (h : ActsAlike b e w w' p) :
      (e.act b w).1 = (e.act b w').1 ∧ ∀ p, e.place? = some p → (e.act b w).2.SameAt (e.act b w').2 p := by
    refine ⟨h.report, fun p' hp' => ?_⟩
    obtain rfl := Option.some.inj (hp.symm.trans hp')
    exact h.place
  cases e with
  | record groupId => exact hplace rfl (actsAlike_record b hs hprompt hw hw' hterms (hsame _ rfl))
  | roles groupId => exact hplace rfl (actsAlike_roles b hs hprompt hw hw' hterms (hsame _ rfl))
  | ask q =>
    rw [act_ask b hs hw, act_ask b hs hw']
    exact ⟨rfl, fun p hp => nomatch hp⟩
  | cache k key r =>
    have hhere : w.SameAt w' (.entry k key) := hsame _ rfl
    exact hplace rfl (actsAlike_cache b hhere hw.unlimited hw'.unlimited hterms r)
  | note m => exact hplace rfl (actsAlike_note b hterms (hsame _ rfl))

end Asking

end Errand

namespace Backfill

variable (b : Backfill) {es : List Errand}

/-- Every place that no errand concerns stays as it is. -/
theorem perform_frame (hs : d.Serves serving) (hw : w.Ready serving) (hes : ∀ e ∈ es, e.place? ≠ some p) :
    w.SameAt (b.perform es w).2 p := by
  induction es generalizing w with
  | nil => exact .refl w p
  | cons e es ih =>
    have hfirst := (e.act_came b hs hw).frame (hes e List.mem_cons_self)
    exact hfirst.trans (ih (e.act_grew b hs hw).2 fun e' he' => hes e' (List.mem_cons_of_mem e he'))

variable (hs : d.Serves serving) (hprompt : Prompt serving)

include hs hprompt

theorem perform_sameTerms (hw : w.Ready serving) (es : List Errand) : w.SameTerms (b.perform es w).2 := by
  induction es generalizing w with
  | nil => exact .refl w
  | cons e es ih => exact ((e.act_came b hs hw).sameTerms hprompt hw).trans (ih (e.act_grew b hs hw).2)

/-- In two worlds that agree where errands take place they report the same and leave the same there. -/
theorem perform_local {within : Place → Prop} (hes : ∀ e ∈ es, ∀ p, e.place? = some p → within p)
    (hw : w.Ready serving) (hw' : w'.Ready serving) (hterms : w.SameTerms w')
    (hsame : ∀ p, within p → w.SameAt w' p) :
    (b.perform es w).1 = (b.perform es w').1 ∧
      ∀ p, within p → (b.perform es w).2.SameAt (b.perform es w').2 p := by
  induction es generalizing w w' with
  | nil => exact ⟨rfl, hsame⟩
  | cons e es ih =>
    have hwithin := hes e List.mem_cons_self
    have hcame := e.act_came b hs hw
    have hcame' := e.act_came b hs hw'
    obtain ⟨hreport, hplace⟩ := e.act_local b hs hprompt hw hw' hterms fun p hp => hsame p (hwithin p hp)
    have hsame' : ∀ p, within p → (e.act b w).2.SameAt (e.act b w').2 p := by
      intro p hp
      by_cases hhere : e.place? = some p
      · exact hplace p hhere
      · exact ((hcame.frame hhere).symm.trans (hsame p hp)).trans (hcame'.frame hhere)
    have hterms' : (e.act b w).2.SameTerms (e.act b w').2 :=
      ((hcame.sameTerms hprompt hw).symm.trans hterms).trans (hcame'.sameTerms hprompt hw')
    obtain ⟨hreports, hplaces⟩ := ih (fun e' he' => hes e' (List.mem_cons_of_mem e he')) (e.act_grew b hs hw).2
      (e.act_grew b hs hw').2 hterms' hsame'
    refine ⟨?_, hplaces⟩
    show (e.act b w).1 + _ = (e.act b w').1 + _
    rw [hreport, hreports]

end Backfill

end Roster
