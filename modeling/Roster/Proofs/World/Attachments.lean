import Roster.Proofs.Observed.History
import Roster.Proofs.Session.Coherence

/-!
# Who is attached, how often, and in which order

The observed records and a session are attached to a hub in any order and any number of times, also while
changes are already dispatched.  Nobody who looks at the observed records or at the cache can tell.

* `Cache.erase_erase` — an erasure that is done twice is done once.  For the observed records this is
  `Observed.update_update`.
* `World.cache_notifyAll`, `World.observed_notifyAll` — what a delivery does goes by who is among its handlers.
* `Feed`, `FeedStep`, `Feed.steps` — a hub with the world on which its subscribers act, and a run of
  attachments, dispatches and drops of the session.
* `Feed.handlers_steps`, `Feed.world_dispatch` — a dispatch runs the attachments made
  so far, one after the other.
* `Feed.agree_heard` — what a run makes of the world is what its changes make of it, each told once.
* `Feed.attachments_alike` — **the attachments make no difference**, and a session that
  was dropped makes none either.
-/

set_option autoImplicit false

namespace Roster

/-! ## Twice is once -/

theorem Segment.erase_erase {α : Type} (s : Segment α) (key : String) :
    ((s.erase key).2.erase key).2 = (s.erase key).2 := by
  have hgone : (s.without key).find? key = none := by rw [Segment.find?_without, if_pos rfl]
  have hsame : (s.without key).without key = s.without key := Segment.without_of_find?_none hgone
  show ((s.without key).without key).recount = (s.without key).recount
  rw [hsame]

theorem Cache.erase_erase (c : Cache) (e : Entity) : (c.erase e).erase e = c.erase e := by
  unfold Cache.erase
  rw [Cache.segment_withSegment, Cache.withSegment_withSegment, Segment.erase_erase]

namespace Observed.Alike

variable {s s' s'' : Observed}

theorem refl (s : Observed) : s.Alike s := ⟨.rfl, .rfl, .rfl, .rfl⟩

theorem symm (h : s.Alike s') : s'.Alike s := ⟨h.members.symm, h.groups.symm, h.roles.symm, h.channels.symm⟩

theorem trans (h : s.Alike s') (h' : s'.Alike s'') : s.Alike s'' :=
  ⟨h.members.trans h'.members, h.groups.trans h'.groups, h.roles.trans h'.roles, h.channels.trans h'.channels⟩

theorem update (h : s.Alike s') (event : Change) : (s.update event).Alike (s'.update event) :=
  h.observe (.change event)

end Observed.Alike

/-! ## One delivery -/

namespace World

variable {ρ τ : Type} {w w' w'' : World ρ τ} {event : Change}

/-- The subscriber that acts on the cache: the open session. -/
def listener? (w : World ρ τ) : Option Subscriber := w.session.map Subscriber.session

theorem cache_notify (s : Subscriber) (event : Change) (w : World ρ τ) :
    (notify s event w).cache = if w.listener? = some s then w.cache.erase event.subject else w.cache := by
  cases s with
  | observed =>
    unfold listener?
    rw [if_neg (by simp)]
    rfl
  | session number =>
    have hopen : w.listener? = some (.session number) ↔ w.session = some number := by simp [listener?]
    unfold notify
    simp only [hopen]
    split <;> rfl

theorem observed_notify (s : Subscriber) (event : Change) (w : World ρ τ) :
    (notify s event w).observed = if s = .observed then w.observed.update event else w.observed := by
  cases s with
  | observed => rfl
  | session number =>
    unfold notify
    dsimp only
    split <;> rfl

/-- **The cache goes by whether the open session is among the handlers.** -/
theorem cache_notifyAll (hs : List Subscriber) (event : Change) (w : World ρ τ) :
    (notifyAll hs event w).cache =
      if ∃ s ∈ hs, w.listener? = some s then w.cache.erase event.subject else w.cache := by
  induction hs generalizing w with
  | nil => rw [if_neg (by simp)]; rfl
  | cons s hs ih =>
    have hlistener : (notify s event w).listener? = w.listener? :=
      congrArg (Option.map Subscriber.session) (session_notify s event w)
    rw [notifyAll_cons, ih, hlistener, cache_notify]
    by_cases hs' : w.listener? = some s <;> by_cases hrest : ∃ s' ∈ hs, w.listener? = some s' <;>
      simp [hs', hrest, Cache.erase_erase]

/-- **The observed records go by whether they are among the handlers.** -/
theorem observed_notifyAll (hs : List Subscriber) (event : Change) (w : World ρ τ) :
    (notifyAll hs event w).observed.Alike
      (if .observed ∈ hs then w.observed.update event else w.observed) := by
  induction hs generalizing w with
  | nil => exact .refl _
  | cons s hs ih =>
    have hrest := ih (notify s event w)
    rw [observed_notify] at hrest
    rw [notifyAll_cons]
    by_cases hs' : s = .observed
    · subst hs'
      rw [if_pos List.mem_cons_self]
      rw [if_pos rfl] at hrest
      split at hrest
      · exact hrest.trans (Observed.update_update w.observed event)
      · exact hrest
    · rw [if_neg hs'] at hrest
      simpa [Ne.symm hs'] using hrest

/-- Nobody who looks at the observed records or at the cache can tell two worlds apart. -/
structure Agree (w w' : World ρ τ) : Prop where
  observed : w.observed.Alike w'.observed
  cache : w.cache = w'.cache
  session : w.session = w'.session

theorem Agree.refl (w : World ρ τ) : w.Agree w := ⟨.refl _, rfl, rfl⟩

theorem Agree.symm (h : w.Agree w') : w'.Agree w := ⟨h.observed.symm, h.cache.symm, h.session.symm⟩

theorem Agree.trans (h : w.Agree w') (h' : w'.Agree w'') : w.Agree w'' :=
  ⟨h.observed.trans h'.observed, h.cache.trans h'.cache, h.session.trans h'.session⟩

/-- A change is told once to the observed records and once to the open session. -/
def hear (w : World ρ τ) (event : Change) : World ρ τ :=
  { w with observed := w.observed.update event, cache := w.cache.erase event.subject }

theorem Agree.hear (h : w.Agree w') (event : Change) : (w.hear event).Agree (w'.hear event) :=
  ⟨h.observed.update event, congrArg (Cache.erase · event.subject) h.cache, h.session⟩

/-- However often and in whichever order its handlers run, a delivery tells the change once. -/
theorem agree_notifyAll {hs : List Subscriber} {number : Nat} (hopen : w.session = some number)
    (hobserved : .observed ∈ hs) (hsession : .session number ∈ hs) (event : Change) :
    (notifyAll hs event w).Agree (w.hear event) := by
  have hlistener : w.listener? = some (.session number) := congrArg (Option.map _) hopen
  refine ⟨?_, ?_, session_notifyAll hs event w⟩
  · have halike := observed_notifyAll hs event w
    rw [if_pos hobserved] at halike
    exact halike
  · rw [cache_notifyAll, if_pos ⟨_, hsession, hlistener⟩]
    rfl

/-- Where no session is open, a delivery leaves the cache alone. -/
theorem cache_notifyAll_of_closed (hs : List Subscriber) (event : Change) (hclosed : w.session = none) :
    (notifyAll hs event w).cache = w.cache := by
  have hlistener : w.listener? = none := congrArg (Option.map _) hclosed
  rw [cache_notifyAll, if_neg]
  rintro ⟨s, -, hs⟩
  rw [hlistener] at hs
  cases hs

end World

/-! ## Runs -/

/-- A hub, and the world on which its subscribers act. -/
structure Feed (ρ τ : Type) where
  hub : Hub Subscriber
  world : World ρ τ

/-- What is done with a feed. -/
inductive FeedStep where
  | attach (s : Subscriber)
  | dispatch (event : Change)
  /-- The session is dropped. -/
  | drop
deriving DecidableEq, Repr

/-- The attachments of a run, in their order. -/
def attached (ss : List FeedStep) : List Subscriber :=
  ss.filterMap fun
    | .attach s => some s
    | _ => none

/-- The changes of a run, in their order. -/
def dispatched (ss : List FeedStep) : List Change :=
  ss.filterMap fun
    | .dispatch event => some event
    | _ => none

/-- Whenever a change is dispatched, the observed records and the session have been attached; the session is not
dropped. -/
structure Prepared (number : Nat) (ss : List FeedStep) : Prop where
  attached : ∀ before event after, ss = before ++ .dispatch event :: after →
    .attach .observed ∈ before ∧ .attach (.session number) ∈ before
  kept : .drop ∉ ss

theorem Prepared.of_concat {number : Nat} {ss : List FeedStep} {st : FeedStep}
    (h : Prepared number (ss ++ [st])) : Prepared number ss := by
  refine ⟨?_, fun hdrop => h.kept (List.mem_append_left _ hdrop)⟩
  rintro before event after rfl
  exact h.attached before event (after ++ [st]) (by simp)

/-- Both may be attached beforehand, each once or more often. -/
theorem prepared_append {number : Nat} {first later : List FeedStep} (hobserved : .attach .observed ∈ first)
    (hsession : .attach (.session number) ∈ first) (hfirst : dispatched first = [])
    (hkept : .drop ∉ first ++ later) :
    Prepared number (first ++ later) := by
  refine ⟨?_, hkept⟩
  intro before event after hsplit
  rcases List.append_eq_append_iff.1 hsplit with ⟨between, rfl, -⟩ | ⟨between, rfl, hlater⟩
  · exact ⟨List.mem_append_left _ hobserved, List.mem_append_left _ hsession⟩
  · cases between with
    | nil =>
      rw [List.append_nil] at hobserved hsession
      exact ⟨hobserved, hsession⟩
    | cons st between =>
      -- the change would be dispatched among the first steps
      have hmem : event ∈ dispatched (before ++ st :: between) := by
        rw [← (List.cons.inj hlater).1]
        exact List.mem_filterMap.2 ⟨.dispatch event, List.mem_append_right _ List.mem_cons_self, rfl⟩
      rw [hfirst] at hmem
      cases hmem

namespace Feed

variable {ρ τ : Type}

/-- A hub that nobody is attached to. -/
def ofWorld (w : World ρ τ) : Feed ρ τ := ⟨.empty, w⟩

/-- The feed after a step. -/
def step (f : Feed ρ τ) : FeedStep → Feed ρ τ
  | .attach s => { f with hub := f.hub.subscribeAll s }
  | .dispatch event => { f with world := (f.hub.deliver World.notify event f.world).2 }
  | .drop => { f with world := { f.world with session := none } }

/-- The feed after a run. -/
def steps (f : Feed ρ τ) (ss : List FeedStep) : Feed ρ τ := ss.foldl step f

theorem steps_append (f : Feed ρ τ) (ss later : List FeedStep) :
    f.steps (ss ++ later) = (f.steps ss).steps later :=
  List.foldl_append

theorem steps_concat (f : Feed ρ τ) (ss : List FeedStep) (st : FeedStep) :
    f.steps (ss ++ [st]) = (f.steps ss).step st := steps_append f ss [st]

/-- **A dispatch runs the attachments made so far**, one after the other. -/
theorem handlers_steps (w : World ρ τ) (ss : List FeedStep) (kind : ChangeKind) :
    ((ofWorld w).steps ss).hub.handlers kind = attached ss := by
  induction ss using List.reverseRecOn with
  | nil => rfl
  | append_singleton ss st ih =>
    rw [steps_concat, attached, List.filterMap_append, ← attached, ← ih]
    cases st with
    | attach s => exact Hub.handlers_subscribeAll _ kind s
    | dispatch event => exact (List.append_nil _).symm
    | drop => exact (List.append_nil _).symm

theorem world_dispatch (w : World ρ τ) (ss : List FeedStep) (event : Change) :
    ((ofWorld w).steps (ss ++ [.dispatch event])).world =
      World.notifyAll (attached ss) event ((ofWorld w).steps ss).world := by
  rw [steps_concat, ← handlers_steps w ss event.kind]
  rfl

/-- **What a run makes of the world is what its changes make of it**, each told once.  The induction adds the
steps at the end of the run. -/
theorem agree_heard {w : World ρ τ} {number : Nat} (hopen : w.session = some number) {ss : List FeedStep}
    (hss : Prepared number ss) :
    ((ofWorld w).steps ss).world.Agree ((dispatched ss).foldl World.hear w) ∧
      ((ofWorld w).steps ss).world.session = some number := by
  induction ss using List.reverseRecOn with
  | nil => exact ⟨.refl w, hopen⟩
  | append_singleton ss st ih =>
    obtain ⟨hagree, hsession⟩ := ih hss.of_concat
    rw [dispatched, List.filterMap_append, ← dispatched, List.foldl_append]
    cases st with
    | attach s =>
      rw [steps_concat]
      exact ⟨hagree, hsession⟩
    | dispatch event =>
      obtain ⟨hobserved, hlistens⟩ := hss.attached ss event [] rfl
      have hmem {s : Subscriber} (hs : .attach s ∈ ss) : s ∈ attached ss := List.mem_filterMap.2 ⟨_, hs, rfl⟩
      have htold := World.agree_notifyAll hsession (hmem hobserved) (hmem hlistens) event
      rw [world_dispatch]
      exact ⟨htold.trans (hagree.hear event), htold.session.trans hsession⟩
    | drop => exact absurd (List.mem_append_right _ List.mem_cons_self) hss.kept

/-- Without an open session the cache stays as it is. -/
theorem cache_steps_of_closed (f : Feed ρ τ) (hclosed : f.world.session = none) (ss : List FeedStep) :
    (f.steps ss).world.cache = f.world.cache ∧ (f.steps ss).world.session = none := by
  induction ss using List.reverseRecOn with
  | nil => exact ⟨rfl, hclosed⟩
  | append_singleton ss st ih =>
    obtain ⟨hcache, hsession⟩ := ih
    rw [steps_concat]
    cases st with
    | attach s => exact ⟨hcache, hsession⟩
    | dispatch event =>
      exact ⟨(World.cache_notifyAll_of_closed _ event hsession).trans hcache,
        (World.session_notifyAll _ event _).trans hsession⟩
    | drop => exact ⟨hcache, rfl⟩

theorem session_of_dropped (f : Feed ρ τ) {ss : List FeedStep} (hdrop : .drop ∈ ss) :
    (f.steps ss).world.session = none := by
  obtain ⟨before, after, rfl⟩ := List.append_of_mem hdrop
  rw [← List.singleton_append, ← List.append_assoc, steps_append, steps_concat]
  exact (cache_steps_of_closed _ rfl after).2

/-- **The attachments make no difference.**  A run does to the world what its changes do, each told once to the
observed records and once to the open session, if both are attached before the first change; so that two runs
that dispatch the same changes end in worlds that agree, whoever is attached how often and in which order.  A
dispatch runs one handler for each attachment made so far, in their order, and nothing else.  After a session
was dropped the cache stays as it is. -/
theorem attachments_alike (w : World ρ τ) {number : Nat} (hopen : w.session = some number) :
    (∀ ss, Prepared number ss → ((ofWorld w).steps ss).world.Agree ((dispatched ss).foldl World.hear w)) ∧
    (∀ ss ss', Prepared number ss → Prepared number ss' → dispatched ss = dispatched ss' →
      ((ofWorld w).steps ss).world.Agree ((ofWorld w).steps ss').world) ∧
    (∀ ss event, let f := (ofWorld w).steps ss
      f.hub.handlers event.kind = attached ss ∧
        f.hub.deliver World.notify event f.world =
          ((attached ss).length, World.notifyAll (attached ss) event f.world) ∧
        ((ofWorld w).steps (ss ++ [.dispatch event])).world = World.notifyAll (attached ss) event f.world) ∧
    ∀ ss later, .drop ∈ ss →
      ((ofWorld w).steps (ss ++ later)).world.cache = ((ofWorld w).steps ss).world.cache := by
  refine ⟨?_, ?_, ?_, ?_⟩
  · intro ss hss
    exact (agree_heard hopen hss).1
  · intro ss ss' hss hss' hsame
    have hagree := (agree_heard hopen hss).1
    rw [hsame] at hagree
    exact hagree.trans (agree_heard hopen hss').1.symm
  · intro ss event f
    have hhandlers := handlers_steps w ss event.kind
    refine ⟨hhandlers, ?_, world_dispatch w ss event⟩
    rw [← hhandlers]
    rfl
  · intro ss later hdrop
    rw [steps_append]
    exact (cache_steps_of_closed _ (session_of_dropped _ hdrop) later).1

/-- A world whose cache holds a group. -/
def sampleWorld : World DirectoryServer TableStore :=
  (World.overDirectory .empty).remember (.group "g") (.new "g" "Old" "u")

/-- The group changes twice. -/
def sampleChanges : List FeedStep :=
  [.dispatch (.groupUpdated (.new "g" "New" "u")), .dispatch (.roleDeleted "g" "r")]

/-- Session 0 is attached twice, before and after the observed records. -/
def sampleAttachments : List FeedStep := [.attach (.session 0), .attach .observed, .attach (.session 0)]

theorem attachments_alike_sample :
    sampleWorld.session = some 0 ∧ Prepared 0 (sampleAttachments ++ sampleChanges) ∧
      Prepared 0 (sampleAttachments.tail ++ sampleChanges) ∧
      ((ofWorld sampleWorld).steps (sampleAttachments ++ sampleChanges)).world.Agree
        ((ofWorld sampleWorld).steps (sampleAttachments.tail ++ sampleChanges)).world ∧
      (((ofWorld sampleWorld).steps sampleAttachments).hub.deliver World.notify (.roleDeleted "g" "r")
        sampleWorld).1 = 3 ∧
      ((ofWorld sampleWorld).steps
        (sampleAttachments ++ [.dispatch (.groupUpdated (.new "g" "New" "u"))])).world =
        World.notifyAll [.session 0, .observed, .session 0] (.groupUpdated (.new "g" "New" "u")) sampleWorld ∧
      ((ofWorld sampleWorld).steps ([.attach (.session 0), .drop] ++ sampleChanges)).world.cache =
        sampleWorld.cache := by
  have hopen : sampleWorld.session = some 0 := rfl
  have htwice : Prepared 0 (sampleAttachments ++ sampleChanges) :=
    prepared_append (by decide) (by decide) rfl (by decide)
  have honce : Prepared 0 (sampleAttachments.tail ++ sampleChanges) :=
    prepared_append (by decide) (by decide) rfl (by decide)
  obtain ⟨-, hagree, hdispatch, hdropped⟩ := attachments_alike sampleWorld hopen
  refine ⟨hopen, htwice, honce, hagree _ _ htwice honce rfl, ?_, ?_, ?_⟩
  · exact congrArg Prod.fst (hdispatch sampleAttachments (.roleDeleted "g" "r")).2.1
  · exact (hdispatch sampleAttachments (.groupUpdated (.new "g" "New" "u"))).2.2
  · exact hdropped [.attach (.session 0), .drop] sampleChanges (by decide)

end Feed

end Roster
