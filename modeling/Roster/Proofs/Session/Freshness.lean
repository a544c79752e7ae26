import Roster.Proofs.Session.Coherence
import Roster.Proofs.World.Reloading
import Roster.Proofs.World.Run

/-!
# How old a record can be

A change drops the record of its entity from the cache.  A row that was saved of it stays in the store,
and a reload brings it back.

* `Step`, `World.steps` — deliveries through a hub and all other actions, one after the other.
* `World.ObtainedIn` — in a run a lookup found a record among the observed ones, or the platform told it.
* `World.get_reloaded` — **a record that was saved outlives a change of its entity**.
* `World.Traced` — each cached and each saved record was told by the platform later than its first `n` answers,
  or is excused.  `Traced.steady`, `Traced.act`, `Traced.deliver`: every step keeps that.
* `World.get_after_change` — **after a change, a lookup answers with a record that was obtained since**, or with
  the one that the store held when the change came, and still did at a reload since.
-/

set_option autoImplicit false

namespace Roster

/-- A delivery of a change, or another action. -/
inductive Step where
  | deliver (event : Change)
  | act (action : Action)

/-- Whether a step reloads the cache. -/
def Step.reloads : Step → Bool
  | .act .reload => true
  | .act (.backfill _) => true
  | _ => false

/-- The record that the row under a tag and a key decodes to. -/
def TableStore.Decodes (s : TableStore) (k : Kind) (key : String) (r : k.Record) : Prop :=
  ∃ row, s.cacheRows[RowId.mk k.tag key]? = some row ∧ JsonRecord.decode? row.payload = some r

namespace World

section Runs

variable {ρ : Type} [Platform ρ]

/-- The world after a step. -/
def step (h : Hub Subscriber) (w : World ρ TableStore) : Step → World ρ TableStore
  | .deliver event => (h.deliver notify event w).2
  | .act action => w.act action

/-- The world after a run. -/
def steps (h : Hub Subscriber) (w : World ρ TableStore) (ss : List Step) : World ρ TableStore :=
  ss.foldl (step h) w

theorem steps_concat (h : Hub Subscriber) (w : World ρ TableStore) (ss : List Step) (s : Step) :
    w.steps h (ss ++ [s]) = (w.steps h ss).step h s := by
  rw [steps, List.foldl_append]
  rfl

/-- A lookup of an entity passes the cache and finds an observed record. -/
inductive FindsObserved (w : World ρ TableStore) (e : Entity) : (k : Kind) → String → k.Record → Prop
  | found (r : e.Record) (hmiss : (w.cache.get e w.now).1 = none) (h : w.observed.lookup? w.now e = some r) :
    FindsObserved w e e.kind e.key r

omit [Platform ρ] in
theorem FindsObserved.misses {w : World ρ TableStore} {e : Entity} {k : Kind} {key : String} {r : k.Record}
    (h : w.FindsObserved e k key r) : (w.cache.get e w.now).1 = none := by
  cases h with
  | found _ hmiss _ => exact hmiss

/-- A lookup in a run found an observed record. -/
def FoundObserved (h : Hub Subscriber) (w : World ρ TableStore) (ss : List Step) (k : Kind) (key : String)
    (r : k.Record) : Prop :=
  ∃ before e after, ss = before ++ .act (.get e) :: after ∧ (w.steps h before).FindsObserved e k key r

theorem FoundObserved.concat {h : Hub Subscriber} {w : World ρ TableStore} {ss : List Step} {k : Kind}
    {key : String} {r : k.Record} (hf : w.FoundObserved h ss k key r) (s : Step) :
    w.FoundObserved h (ss ++ [s]) k key r := by
  obtain ⟨before, e, after, rfl, hfinds⟩ := hf
  exact ⟨before, e, after ++ [s], by simp, hfinds⟩

/-- A record was obtained in a run: a lookup found it among the observed records, or the platform told it. -/
def ObtainedIn (h : Hub Subscriber) (w : World (Logged ρ) TableStore) (ss : List Step) (k : Kind)
    (key : String) (r : k.Record) : Prop :=
  w.FoundObserved h ss k key r ∨
    (w.steps h ss).platform.ToldSince w.platform.exchanges.length k key r

/-- A record was in the store at the start of a run and at a reload. -/
def RestoredIn (h : Hub Subscriber) (w : World ρ TableStore) (ss : List Step) (k : Kind) (key : String)
    (r : k.Record) : Prop :=
  w.store.Decodes k key r ∧ ∃ before s after, ss = before ++ s :: after ∧ s.reloads = true ∧
    (w.steps h before).store.Decodes k key r

theorem RestoredIn.concat {h : Hub Subscriber} {w : World ρ TableStore} {ss : List Step} {k : Kind}
    {key : String} {r : k.Record} (hr : w.RestoredIn h ss k key r) (s : Step) :
    w.RestoredIn h (ss ++ [s]) k key r := by
  obtain ⟨hold, before, s', after, rfl, hreloads, hstill⟩ := hr
  exact ⟨hold, before, s', after ++ [s], by simp, hreloads, hstill⟩

end Runs

/-! ## Deliveries -/

/-- A delivery leaves the store, the platform, the clock and the settings of the cache alone. -/
structure Undisturbed {ρ τ : Type} (w w' : World ρ τ) : Prop where
  store : w'.store = w.store
  platform : w'.platform = w.platform
  now : w'.now = w.now
  persistence : w'.cache.isPersistent = w.cache.isPersistent

theorem undisturbed_notify {ρ τ : Type} (s : Subscriber) (event : Change) (w : World ρ τ) :
    w.Undisturbed (notify s event w) := by
  cases s with
  | observed => exact ⟨rfl, rfl, rfl, rfl⟩
  | session number =>
    unfold notify
    dsimp only
    split
    · exact ⟨rfl, rfl, rfl, Cache.isPersistent_withSegment _ _ _⟩
    · exact ⟨rfl, rfl, rfl, rfl⟩

theorem undisturbed_notifyAll {ρ τ : Type} (hs : List Subscriber) (event : Change) (w : World ρ τ) :
    w.Undisturbed (notifyAll hs event w) := by
  induction hs generalizing w with
  | nil => exact ⟨rfl, rfl, rfl, rfl⟩
  | cons s hs ih =>
    have hfirst := undisturbed_notify s event w
    have hrest := ih (notify s event w)
    exact ⟨hrest.store.trans hfirst.store, hrest.platform.trans hfirst.platform, hrest.now.trans hfirst.now,
      hrest.persistence.trans hfirst.persistence⟩

theorem undisturbed_deliver {ρ : Type} [Platform ρ] (h : Hub Subscriber) (event : Change)
    (w : World ρ TableStore) : w.Undisturbed (w.step h (.deliver event)) :=
  undisturbed_notifyAll (h.handlers event.kind) event w

/-! ## A record from before a change -/

section Before

variable {ρ : Type} [Platform ρ] {h : Hub Subscriber} {event : Change}
  {w : World (Logged ρ) TableStore} {e : Entity}

/-- Nothing is obtained by a reload and a hit. -/
theorem not_obtainedIn_of_hit {r : e.Record}
    (hhit : (w.reload.2.cache.get e w.reload.2.now).1 = some r) (k : Kind)
    (key : String) (r' : k.Record) : ¬w.ObtainedIn h [.act .reload, .act (.get e)] k key r' := by
  rintro (⟨before, e', after, hrun, hfinds⟩ | htold)
  · -- the only lookup of the run is the one at its end
    rcases before with _ | ⟨s, _ | ⟨s', before⟩⟩
    · cases hrun
    · cases hrun
      have hmiss := hhit.symm.trans hfinds.misses
      cases hmiss
    · cases before <;> cases hrun
  · have hplatform : (w.steps h [.act .reload, .act (.get e)]).platform = w.platform := by
      show (Session.get w.reload.2 e).2.platform = _
      rw [Session.get_of_hit hhit]
      rfl
    rw [hplatform] at htold
    exact Logged.not_toldSince_length htold

/-- What is live when it is saved is a hit after a change of it and a reload. -/
theorem hit_reloaded (h : Hub Subscriber) (event : Change) (hp : w.cache.isPersistent = true)
    (hwritable : w.store.readOnly = false) {a : Entry e.kind.Record}
    (ha : a ∈ (w.cache.segment e.kind).entries.list) (hkey : a.key = e.key)
    (hlive : a.hasExpired w.now = false) :
    ((w.save.2.step h (.deliver event)).reload.2.cache.get e
      (w.save.2.step h (.deliver event)).reload.2.now).1 = some a.value := by
  have hsame := undisturbed_deliver h event w.save.2
  have hsaved := save_writable hp hwritable
  have hcache : w.save.2.cache = w.cache := by rw [hsaved]
  have hnow : w.save.2.now = w.now := by rw [hsaved]
  have hp' : (w.save.2.step h (.deliver event)).cache.isPersistent = true := by
    rw [hsame.persistence, hcache, hp]
  have hdropped : ∀ b ∈ ((w.save.2.step h (.deliver event)).cache.segment e.kind).entries.list,
      b ∈ (w.cache.segment e.kind).entries.list := by
    intro b hb
    rw [← hcache]
    exact mem_notifyAll hb
  have hlive' : a.hasExpired (w.save.2.step h (.deliver event)).now = false := by
    rw [hsame.now, hnow, hlive]
  exact Cache.get_of_live (mem_reload_of_saved hp hwritable hp' hsame.store ha hdropped) hkey hlive'

/-- **A record that was saved outlives a change of its entity**: after the next reload a lookup answers with it
again, although nobody has told it since. -/
theorem get_reloaded (hp : w.cache.isPersistent = true) (hwritable : w.store.readOnly = false)
    {a : Entry e.kind.Record} (ha : a ∈ (w.cache.segment e.kind).entries.list) (hkey : a.key = e.key)
    (hlive : a.hasExpired w.now = false) :
    (Session.get ((w.save.2.step h (.deliver event)).steps h [.act .reload]) e).1 = .ok a.value ∧
      ¬(w.save.2.step h (.deliver event)).ObtainedIn h [.act .reload, .act (.get e)] e.kind e.key a.value := by
  have hhit := hit_reloaded h event hp hwritable ha hkey hlive
  exact ⟨congrArg Prod.fst (Session.get_of_hit hhit), not_obtainedIn_of_hit hhit _ _ _⟩

end Before

/-! ## Where the records come from -/

variable {ρ : Type} {n : Nat} {C S C' S' : (k : Kind) → String → k.Record → Prop}

/-- Each record was told by the platform later than its first `n` answers, or is excused: `C` excuses
cached records, `S` saved ones. -/
structure Traced (n : Nat) (C S : (k : Kind) → String → k.Record → Prop) (w : World (Logged ρ) TableStore) :
    Prop where
  cache : w.cache.Holds fun k a => w.platform.ToldSince n k a.key a.value ∨ C k a.key a.value
  store : w.store.Holds fun k a => w.platform.ToldSince n k a.key a.value ∨ S k a.key a.value
  log : n ≤ w.platform.exchanges.length

namespace Traced

variable {w : World (Logged ρ) TableStore}

theorem mono (h : w.Traced n C S) (hC : ∀ k key r, C k key r → C' k key r)
    (hS : ∀ k key r, S k key r → S' k key r) : w.Traced n C' S' where
  cache := h.cache.mono fun k a ha => ha.imp_right (hC k a.key a.value)
  store := h.store.mono fun k a ha => ha.imp_right (hS k a.key a.value)
  log := h.log

theorem withCache (h : w.Traced n C S) {cache : Cache}
    (hc : cache.Holds fun k a => w.platform.ToldSince n k a.key a.value ∨ C k a.key a.value) :
    Traced n C S ({ w with cache } : World (Logged ρ) TableStore) :=
  ⟨hc, h.store, h.log⟩

theorem useStore (h : w.Traced n C S) {α : Type} {f : TableStore → Outcome TableStore α}
    (hf : (f w.store).2.cacheRows = w.store.cacheRows) : (w.useStore f).2.Traced n C S :=
  ⟨h.cache, h.store.of_cacheRows hf, h.log⟩

theorem remember (h : w.Traced n C S) {e : Entity} {r : e.Record}
    (hr : e.key ≠ "" → w.platform.ToldSince n e.kind e.key r ∨ C e.kind e.key r) :
    (w.remember e r).Traced n C S :=
  h.withCache (Cache.holds_insert h.cache fun hk _ => hr hk)

/-- A save hands the excuses of the cache on to the store. -/
theorem save (h : w.Traced n C S) (hCS : ∀ k key r, C k key r → S k key r) : w.save.2.Traced n C S where
  cache := h.cache
  store := TableStore.holds_save h.store (h.cache.mono fun k a ha => ha.imp_right (hCS k a.key a.value))
  log := h.log

/-- A reload hands the excuses of the store on to the cache, for the records that it finds there. -/
theorem reload (h : w.Traced n C S) (hCS : ∀ k key r, C k key r → S k key r)
    (hSC : ∀ k key r, w.store.Decodes k key r → S k key r → C k key r) : w.reload.2.Traced n C S := by
  have hrows : w.store.Holds fun k a => w.platform.ToldSince n k a.key a.value ∨ C k a.key a.value :=
    fun k key row value hrow hv =>
      (h.store k key row value hrow hv).imp_right (hSC k key value ⟨row, hrow, hv⟩)
  obtain ⟨hc, hs⟩ := Cache.holds_reload (TableStore.rowsHold _) h.cache hrows
  exact ⟨hc, hs.mono fun k a ha => ha.imp_right (hCS k a.key a.value), h.log⟩

/-- The upkeep brings nothing in. -/
theorem upkeep (h : w.Traced n C S) (u : Upkeep) : (w.upkeep u).Traced n C S := by
  have hc := holds_upkeep h.cache u
  cases u <;> exact ⟨hc, h.store, h.log⟩

variable [Platform ρ]

/-- An answer adds to what was told. -/
theorem ask (h : w.Traced n C S) (q : Request) : (w.ask q).2.Traced n C S where
  cache := h.cache.mono fun _ _ ha => ha.imp_left fun htold => htold.asked q
  store := h.store.mono fun _ _ ha => ha.imp_left fun htold => htold.asked q
  log := by
    have hlength : (w.ask q).2.platform.exchanges.length = w.platform.exchanges.length + 1 :=
      List.length_append
    rw [hlength]
    exact Nat.le_succ_of_le h.log

/-- Each step of a backfill keeps a world traced. -/
theorem steady : Backfill.Steady (fun w : World (Logged ρ) TableStore => w.Traced n C S)
    fun p k key r => p.ToldSince n k key r where
  ask _ q h := h.ask q
  told _ _ _ h hask _ _ _ hbrings _ := Logged.toldSince_ask h.log hask hbrings
  remember _ _ _ h hr := h.remember fun hk => .inl (hr hk)
  insertUnlessLive _ _ _ _ h hr := h.withCache (Cache.holds_insertUnlessLive h.cache fun hk _ => .inl (hr hk))
  joinsOf _ _ h := h.useStore rfl
  noteFacts w m known h _ := h.useStore (TableStore.cacheRows_noteFacts m known w.now w.now w.store)
  replaceFacts w m seen h := h.useStore (TableStore.cacheRows_replaceFacts m seen w.now w.store)

/-- A lookup keeps a world traced when what it finds among the observed records is excused. -/
theorem get (h : w.Traced n C S) {e : Entity}
    (hfound : ∀ k key r, w.FindsObserved e k key r → C k key r) : (Session.get w e).2.Traced n C S := by
  have hlooked : (w.looked e).Traced n C S := h.withCache (holds_looked h.cache e)
  refine steady.get hlooked fun r hmiss hr => hlooked.remember fun _ => .inr ?_
  exact hfound e.kind e.key r (.found r hmiss hr)

/-- An action keeps a world traced when the excuses allow for it: a save needs those of the cache for the store,
a reload those of the store for the cache. -/
theorem act (h : w.Traced n C S) (action : Action) (hsave : ∀ k key r, C k key r → S k key r)
    (hreload : (Step.act action).reloads = true →
      ∀ k key r, w.store.Decodes k key r → S k key r → C k key r)
    (hget : ∀ e, action = .get e → ∀ k key r, w.FindsObserved e k key r → C k key r) :
    (w.act action).Traced n C S := by
  cases action with
  | get e => exact h.get (hget e rfl)
  | backfill b => exact steady.run b (h.reload hsave (hreload rfl))
  | fillMembers b groupId => exact steady.fillMembers b h groupId
  | refresh b groupId users => exact steady.refresh b h groupId users
  | change event => exact h.withCache (holds_forget h.cache event)
  | save => exact h.save hsave
  | reload => exact h.reload hsave (hreload rfl)
  | prune => exact ⟨h.cache, TableStore.holds_pruned h.store w.now, h.log⟩
  | upkeep u => exact h.upkeep u

/-- A delivery brings nothing in. -/
theorem deliver (h : w.Traced n C S) (hub : Hub Subscriber) (event : Change) :
    (w.step hub (.deliver event)).Traced n C S := by
  have hsame := undisturbed_deliver hub event w
  refine ⟨?_, ?_, ?_⟩
  · intro k a ha
    rw [hsame.platform]
    exact h.cache k a (mem_notifyAll ha)
  · rw [hsame.store, hsame.platform]
    exact h.store
  · rw [hsame.platform]
    exact h.log

end Traced

/-! ## After a change -/

section After

variable [Platform ρ] {h : Hub Subscriber} {w : World (Logged ρ) TableStore} {k₀ : Kind} {key₀ : String}

/-- What excuses a saved record: it is not under the key, was found among the observed records, or is the one
that the store held at the start. -/
def SavedExcuse (h : Hub Subscriber) (w : World (Logged ρ) TableStore) (ss : List Step) (k₀ : Kind)
    (key₀ : String) (k : Kind) (key : String) (r : k.Record) : Prop :=
  k = k₀ → key = key₀ → w.FoundObserved h ss k key r ∨ w.store.Decodes k key r

/-- A cached record is excused by the store only when a reload found it there. -/
def CachedExcuse (h : Hub Subscriber) (w : World (Logged ρ) TableStore) (ss : List Step) (k₀ : Kind)
    (key₀ : String) (k : Kind) (key : String) (r : k.Record) : Prop :=
  k = k₀ → key = key₀ → w.FoundObserved h ss k key r ∨ w.RestoredIn h ss k key r

theorem SavedExcuse.concat {ss : List Step} {k : Kind} {key : String} {r : k.Record}
    (he : w.SavedExcuse h ss k₀ key₀ k key r) (s : Step) : w.SavedExcuse h (ss ++ [s]) k₀ key₀ k key r :=
  fun hk hkey => (he hk hkey).imp_left fun hf => hf.concat s

theorem CachedExcuse.concat {ss : List Step} {k : Kind} {key : String} {r : k.Record}
    (he : w.CachedExcuse h ss k₀ key₀ k key r) (s : Step) : w.CachedExcuse h (ss ++ [s]) k₀ key₀ k key r :=
  fun hk hkey => (he hk hkey).imp (fun hf => hf.concat s) fun hr => hr.concat s

theorem CachedExcuse.saved {ss : List Step} {k : Kind} {key : String} {r : k.Record}
    (he : w.CachedExcuse h ss k₀ key₀ k key r) : w.SavedExcuse h ss k₀ key₀ k key r :=
  fun hk hkey => (he hk hkey).imp_right And.left

/-- Every run from a world without an entry under a key stays traced there.  The induction adds the
steps at the end of the run. -/
theorem traced_steps (hgone : ∀ a ∈ (w.cache.segment k₀).entries.list, a.key ≠ key₀) (ss : List Step) :
    (w.steps h ss).Traced w.platform.exchanges.length (w.CachedExcuse h ss k₀ key₀)
      (w.SavedExcuse h ss k₀ key₀) := by
  induction ss using List.reverseRecOn with
  | nil =>
    refine ⟨?_, ?_, Nat.le_refl _⟩
    · intro k a ha
      refine .inr fun hk hkey => ?_
      subst hk
      exact absurd hkey (hgone a ha)
    · intro k key row value hrow hv
      exact .inr fun _ _ => .inr ⟨row, hrow, hv⟩
  | append_singleton ss s ih =>
    have hbefore := ih.mono (fun _ _ _ hc => hc.concat s) fun _ _ _ hc => hc.concat s
    rw [steps_concat]
    cases s with
    | deliver event => exact hbefore.deliver h event
    | act action =>
      refine hbefore.act action (fun _ _ _ hc => hc.saved) ?_ ?_
      · intro hreloads k key r hstill hexcuse hk hkey
        exact (hexcuse hk hkey).imp_right fun hold => ⟨hold, ss, _, [], rfl, hreloads, hstill⟩
      · rintro e rfl k key r hfinds - -
        exact .inl ⟨ss, e, [], rfl, hfinds⟩

/-- What a lookup answers in a traced world was obtained, or is excused. -/
theorem get_obtained (hgone : ∀ a ∈ (w.cache.segment k₀).entries.list, a.key ≠ key₀) {ss : List Step}
    {e : Entity} (hkind : e.kind = k₀) (hkey : e.key = key₀) {r : e.Record}
    (hr : (Session.get (w.steps h ss) e).1 = .ok r) :
    w.ObtainedIn h (ss ++ [.act (.get e)]) e.kind e.key r ∨ w.RestoredIn h ss e.kind e.key r := by
  have htraced := traced_steps (h := h) hgone ss
  have hworld : w.steps h (ss ++ [.act (.get e)]) = (Session.get (w.steps h ss) e).2 := steps_concat h w ss _
  unfold ObtainedIn
  rw [hworld]
  rcases Session.get_cases (w.steps h ss) e with
    ⟨r', hhit, hg⟩ | ⟨hmiss, ⟨r', hr', hg⟩ | ⟨-, ⟨r', hr', hg⟩ | ⟨err, -, hg⟩⟩⟩
  · rw [hg] at hr ⊢
    cases hr
    obtain ⟨a, hmem, hak, rfl⟩ := Cache.mem_of_get hhit
    have horigin : (w.steps h ss).platform.ToldSince w.platform.exchanges.length e.kind a.key a.value ∨
        w.CachedExcuse h ss k₀ key₀ e.kind a.key a.value := htraced.cache e.kind a hmem
    rw [hak] at horigin
    rcases horigin with htold | hexcuse
    · exact .inl (.inr htold)
    · exact (hexcuse hkind hkey).imp_left fun hf => .inl (hf.concat _)
  · rw [hg] at hr
    cases hr
    exact .inl (.inl ⟨ss, e, [], rfl, .found _ hmiss hr'⟩)
  · obtain ⟨q, hfetch, hbrings⟩ := Session.brings_fetch ((w.steps h ss).looked e) e
    obtain ⟨answer, hask, hb⟩ := hbrings r' hr'
    rw [hg] at hr ⊢
    cases hr
    refine .inl (.inr ?_)
    show (Session.fetch ((w.steps h ss).looked e) e).2.platform.ToldSince _ _ _ _
    rw [hfetch]
    exact Logged.toldSince_ask htraced.log hask hb
  · rw [hg] at hr
    cases hr

/-- **After a change**, a lookup of its entity answers with a record that was obtained since; or with the one
that the store held when the change came, and still did at a reload since. -/
theorem get_after_change {number : Nat} (hw : w.session = some number) (ha : h.Attached (.session number))
    (event : Change) (ss : List Step) {e : Entity} (hkind : e.kind = event.subject.kind)
    (hkey : e.key = event.subject.key) {r : e.Record}
    (hr : (Session.get ((w.step h (.deliver event)).steps h ss) e).1 = .ok r) :
    (w.step h (.deliver event)).ObtainedIn h (ss ++ [.act (.get e)]) e.kind e.key r ∨
      (w.step h (.deliver event)).RestoredIn h ss e.kind e.key r := by
  have hgone : ∀ a ∈ ((w.step h (.deliver event)).cache.segment event.subject.kind).entries.list,
      a.key ≠ event.subject.key :=
    fun a hmem hak => mem_notifyAll_session (ha event.kind) hw hmem ⟨rfl, hak⟩
  exact get_obtained hgone hkind hkey hr

end After

/-- A directory of one group. -/
def sampleGroups : Directory := { Directory.empty with groups := [.new "g" "Old" "u"] }

/-- A world over that directory, whose requests are logged. -/
def sampleStart : World (Logged DirectoryServer) TableStore :=
  { overDirectory sampleGroups with platform := ⟨⟨sampleGroups, []⟩, []⟩ }

/-- The group is looked up and saved. -/
def sampleSaving : List Step := [.act (.get (.group "g")), .act .save]

/-- Then it gets another name. -/
def sampleChange : Change := .groupUpdated (.new "g" "New" "u")

theorem live_sampleStart : ∃ a ∈ ((sampleStart.act (.get (.group "g"))).cache.segment .group).entries.list,
    a.key = "g" ∧ a.value = .new "g" "Old" "u" ∧
      a.hasExpired (sampleStart.act (.get (.group "g"))).now = false :=
  ⟨_, List.mem_cons_self, rfl, rfl, by decide⟩

/-- The name from before the change comes back with the reload. -/
theorem get_sampleChange :
    (Session.get
      (((sampleStart.steps sampleHub sampleSaving).step sampleHub (.deliver sampleChange)).steps sampleHub
      [.act .reload]) (.group "g")).1 = .ok (.new "g" "Old" "u") ∧
    ¬((sampleStart.steps sampleHub sampleSaving).step sampleHub (.deliver sampleChange)).ObtainedIn sampleHub
      [.act .reload, .act (.get (.group "g"))] .group "g" (.new "g" "Old" "u") := by
  obtain ⟨a, hmem, hkey, hvalue, hlive⟩ := live_sampleStart
  rw [← hvalue]
  exact get_reloaded (e := .group "g") rfl rfl hmem hkey hlive

/-- A lookup after a change answers with a record that nobody has told since, in a world whose
session hears of every change. -/
theorem stale_after_reload :
    sampleStart.cache.isPersistent = true ∧ (sampleStart.steps sampleHub sampleSaving).session = some 0 ∧
      sampleHub.Attached (.session 0) ∧ sampleChange.subject = .group "g" ∧
      (Session.get (((sampleStart.steps sampleHub sampleSaving).step sampleHub (.deliver sampleChange)).steps
        sampleHub [.act .reload]) (.group "g")).1 = .ok (.new "g" "Old" "u") ∧
      ¬((sampleStart.steps sampleHub sampleSaving).step sampleHub (.deliver sampleChange)).ObtainedIn sampleHub
        [.act .reload, .act (.get (.group "g"))] .group "g" (.new "g" "Old" "u") :=
  ⟨rfl, rfl, Hub.attached_subscribeAll _ _, rfl, get_sampleChange⟩

theorem get_after_change_sample :
    (sampleStart.steps sampleHub sampleSaving).session = some 0 ∧ sampleHub.Attached (.session 0) ∧
      (((sampleStart.steps sampleHub sampleSaving).step sampleHub (.deliver sampleChange)).ObtainedIn sampleHub
          [.act .reload, .act (.get (.group "g"))] .group "g" (.new "g" "Old" "u") ∨
        ((sampleStart.steps sampleHub sampleSaving).step sampleHub (.deliver sampleChange)).RestoredIn sampleHub
          [.act .reload] .group "g" (.new "g" "Old" "u")) := by
  have hattached : sampleHub.Attached (.session 0) := Hub.attached_subscribeAll _ _
  refine ⟨rfl, hattached, ?_⟩
  exact get_after_change (e := .group "g") rfl hattached sampleChange [.act .reload] rfl rfl get_sampleChange.1

end World

end Roster
