import Mathlib.Data.List.Induction
import Roster.Proofs.Observed
import Roster.Proofs.Record.MemberKey
import Roster.Proofs.World.Contents

/-!
# The cache keeps up with the changes

A session that hears of every change never holds a record that the observed records contradict, and never one
that is older than the last change of its entity.

* `Move`, `World.moves` — deliveries of changes, lookups and upkeep, one after the other.
* `Hub.Attached` — a subscriber hears of every kind of change.
* `World.mem_notifyAll`, `mem_notifyAll_session`, `lookup?_notifyAll` — a delivery brings nothing in, drops the
  entry of its subject, and leaves the other observed records alone.
* `World.Obtained` — a record was found below the cache by a lookup that no change of its entity follows.
* `World.coherent` — **the cache agrees with the observed records** after every run,
  whatever the platform answers.
-/

set_option autoImplicit false

namespace Roster

variable {ρ τ : Type}

/-- A step of a session that hears of changes. -/
inductive Move where
  | deliver (event : Change)
  | get (e : Entity)
  | upkeep (u : Upkeep)

/-- A subscriber hears of every kind of change, once or more often. -/
def Hub.Attached {η : Type} (h : Hub η) (s : η) : Prop := ∀ kind, s ∈ h.handlers kind

theorem Hub.attached_subscribeAll {η : Type} (h : Hub η) (s : η) : (h.subscribeAll s).Attached s := by
  intro kind
  rw [handlers_subscribeAll]
  exact List.mem_append_right _ List.mem_cons_self

namespace World

/-- The world after a step. -/
def move [Platform ρ] (h : Hub Subscriber) (w : World ρ τ) : Move → World ρ τ
  | .deliver event => (h.deliver notify event w).2
  | .get e => (Session.get w e).2
  | .upkeep u => w.upkeep u

/-- The world after a run. -/
def moves [Platform ρ] (h : Hub Subscriber) (w : World ρ τ) (ms : List Move) : World ρ τ :=
  ms.foldl (move h) w

theorem moves_concat [Platform ρ] (h : Hub Subscriber) (w : World ρ τ) (ms : List Move) (m : Move) :
    w.moves h (ms ++ [m]) = (w.moves h ms).move h m := by
  rw [moves, List.foldl_append]
  rfl

/-! ## Deliveries -/

section Deliveries

variable {w : World ρ τ} {event : Change}

theorem session_notify (s : Subscriber) (event : Change) (w : World ρ τ) :
    (notify s event w).session = w.session := by
  cases s with
  | observed => rfl
  | session number =>
    unfold notify
    dsimp only
    split <;> rfl

theorem lookup?_notify (s : Subscriber) {e : Entity} (he : e ≠ event.subject) (now : Instant) :
    (notify s event w).observed.lookup? now e = w.observed.lookup? now e := by
  cases s with
  | observed => exact Observed.lookup?_update_of_ne he
  | session number =>
    unfold notify
    dsimp only
    split <;> rfl

theorem mem_notify {s : Subscriber} {k : Kind} {a : Entry k.Record}
    (ha : a ∈ ((notify s event w).cache.segment k).entries.list) :
    a ∈ (w.cache.segment k).entries.list := by
  cases s with
  | observed => exact ha
  | session number =>
    unfold notify at ha
    dsimp only at ha
    split at ha
    · exact (Cache.mem_erase.1 ha).1
    · exact ha

/-- The open session drops the entry of the subject. -/
theorem mem_notify_session {number : Nat} (hs : w.session = some number) {k : Kind}
    {a : Entry k.Record}
    (ha : a ∈ ((notify (.session number) event w).cache.segment k).entries.list) :
    ¬(k = event.subject.kind ∧ a.key = event.subject.key) := by
  unfold notify at ha
  dsimp only at ha
  rw [if_pos hs] at ha
  exact (Cache.mem_erase.1 ha).2

/-- Handlers run one after the other on a world. -/
def notifyAll (hs : List Subscriber) (event : Change) (w : World ρ τ) : World ρ τ :=
  hs.foldl (fun w s => notify s event w) w

theorem notifyAll_cons (s : Subscriber) (hs : List Subscriber) (event : Change) (w : World ρ τ) :
    notifyAll (s :: hs) event w = notifyAll hs event (notify s event w) := rfl

theorem session_notifyAll (hs : List Subscriber) (event : Change) (w : World ρ τ) :
    (notifyAll hs event w).session = w.session := by
  induction hs generalizing w with
  | nil => rfl
  | cons s hs ih => rw [notifyAll_cons, ih, session_notify]

theorem lookup?_notifyAll (hs : List Subscriber) {e : Entity} (he : e ≠ event.subject)
    (now : Instant) : (notifyAll hs event w).observed.lookup? now e = w.observed.lookup? now e := by
  induction hs generalizing w with
  | nil => rfl
  | cons s hs ih => rw [notifyAll_cons, ih, lookup?_notify s he]

theorem mem_notifyAll {hs : List Subscriber} {k : Kind} {a : Entry k.Record}
    (ha : a ∈ ((notifyAll hs event w).cache.segment k).entries.list) :
    a ∈ (w.cache.segment k).entries.list := by
  induction hs generalizing w with
  | nil => exact ha
  | cons s hs ih => exact mem_notify (ih ha)

theorem mem_notifyAll_session {hs : List Subscriber} {number : Nat} (hmem : .session number ∈ hs)
    (hw : w.session = some number) {k : Kind} {a : Entry k.Record}
    (ha : a ∈ ((notifyAll hs event w).cache.segment k).entries.list) :
    ¬(k = event.subject.kind ∧ a.key = event.subject.key) := by
  induction hs generalizing w with
  | nil => cases hmem
  | cons s hs ih =>
    rw [notifyAll_cons] at ha
    rcases List.mem_cons.1 hmem with rfl | hmem
    · exact mem_notify_session hw (mem_notifyAll ha)
    · exact ih hmem ((session_notify s event w).trans hw) ha

end Deliveries

/-! ## Where a record comes from -/

section Runs

variable [Platform ρ] {h : Hub Subscriber} {w : World ρ τ} {ms : List Move}

/-- The cache has no live entry of an entity, and below it a record is found. -/
def FindsBelow (w : World ρ τ) (e : Entity) (r : e.Record) : Prop :=
  (w.cache.get e w.now).1 = none ∧
    (w.observed.lookup? w.now e = some r ∨
      w.observed.lookup? w.now e = none ∧ (Session.fetch (w.looked e) e).1 = .ok r)

/-- A record was found below the cache by a lookup that no change of its entity follows. -/
def Obtained (h : Hub Subscriber) (w : World ρ τ) (ms : List Move) (e : Entity) (r : e.Record) : Prop :=
  ∃ before after, ms = before ++ .get e :: after ∧
    (∀ event, .deliver event ∈ after → event.subject ≠ e) ∧ (w.moves h before).FindsBelow e r

theorem Obtained.concat {e : Entity} {r : e.Record} (ho : Obtained h w ms e r) {m : Move}
    (hm : ∀ event, m = .deliver event → event.subject ≠ e) : Obtained h w (ms ++ [m]) e r := by
  obtain ⟨before, after, rfl, hafter, hfinds⟩ := ho
  refine ⟨before, after ++ [m], by simp, ?_, hfinds⟩
  intro event hevent
  rcases List.mem_append.1 hevent with hevent | hevent
  · exact hafter event hevent
  · exact hm event (List.mem_singleton.1 hevent).symm

theorem obtained_get {e : Entity} {r : e.Record} (hf : (w.moves h ms).FindsBelow e r) :
    Obtained h w (ms ++ [.get e]) e r :=
  ⟨ms, [], rfl, fun _ hevent => (nomatch hevent), hf⟩

/-- A record agrees with the observed one, if there is one, and is not older than the last change. -/
def Sound (h : Hub Subscriber) (w : World ρ τ) (ms : List Move) (e : Entity) (r : e.Record) : Prop :=
  (∀ now r', (w.moves h ms).observed.lookup? now e = some r' → SameRecord e r r') ∧ Obtained h w ms e r

/-- A property of records, as one of the entries under the keys of their entities. -/
def EachOf (Q : (e : Entity) → e.Record → Prop) (k : Kind) (a : Entry k.Record) : Prop :=
  ∀ (e : Entity) (r : e.Record), e.Plain → e.kind = k → e.key = a.key → HEq r a.value → Q e r

theorem eachOf_of_self {Q : (e : Entity) → e.Record → Prop} {e : Entity} {r : e.Record}
    (he : e.Plain) (hne : e.key ≠ "") (hQ : Q e r) (x : Option Instant) :
    EachOf Q e.kind ⟨e.key, r, x⟩ := by
  intro e' r' he' hk hkey hr
  obtain rfl := Entity.eq_of_key_eq he he' hk.symm hkey.symm hne
  obtain rfl := eq_of_heq hr
  exact hQ

/-- What was sound stays sound over a step that changes nothing observed and is no change of it. -/
theorem Sound.concat {e : Entity} {r : e.Record} (hs : Sound h w ms e r) {m : Move}
    (hm : ∀ event, m = .deliver event → event.subject ≠ e)
    (hobs : ∀ now, ((w.moves h ms).move h m).observed.lookup? now e =
      (w.moves h ms).observed.lookup? now e) : Sound h w (ms ++ [m]) e r := by
  refine ⟨?_, hs.2.concat hm⟩
  intro now r' hr'
  rw [moves_concat, hobs] at hr'
  exact hs.1 now r' hr'

/-- Entries that were there before a step are sound after it, unless the step is a change of them. -/
theorem holds_concat {c : Cache} (hc : c.Holds (EachOf (Sound h w ms))) {m : Move}
    (hm : ∀ event, m ≠ .deliver event)
    (hobs : ((w.moves h ms).move h m).observed = (w.moves h ms).observed) :
    c.Holds (EachOf (Sound h w (ms ++ [m]))) := by
  refine hc.mono ?_
  intro k a ha e r he hk hkey hr
  have hobs' (now : Instant) : ((w.moves h ms).move h m).observed.lookup? now e =
      (w.moves h ms).observed.lookup? now e := by
    rw [hobs]
  exact (ha e r he hk hkey hr).concat (fun event hevent => absurd hevent (hm event)) hobs'

theorem holds_deliver {number : Nat} (hw : (w.moves h ms).session = some number)
    (ha : h.Attached (.session number)) {event : Change}
    (hc : (w.moves h ms).cache.Holds (EachOf (Sound h w ms))) :
    ((w.moves h ms).move h (.deliver event)).cache.Holds
      (EachOf (Sound h w (ms ++ [.deliver event]))) := by
  intro k a hmem e r he hk hkey hr
  have hold : a ∈ ((w.moves h ms).cache.segment k).entries.list := mem_notifyAll hmem
  have hdropped := mem_notifyAll_session (ha event.kind) hw hmem
  have hne : event.subject ≠ e := by
    rintro rfl
    exact hdropped ⟨hk.symm, hkey.symm⟩
  refine (hc k a hold e r he hk hkey hr).concat ?_ ?_
  · intro event' hevent
    cases hevent
    exact hne
  · intro now
    exact lookup?_notifyAll _ (Ne.symm hne) now

/-- What a lookup finds below the cache is sound. -/
theorem sound_get {e : Entity} {r : e.Record} (hf : (w.moves h ms).FindsBelow e r) :
    Sound h w (ms ++ [.get e]) e r := by
  refine ⟨?_, obtained_get hf⟩
  intro now r' hr'
  rw [moves_concat, show ((w.moves h ms).move h (.get e)).observed = _ from (Session.get_keeps _ e).1] at hr'
  rcases hf.2 with hr | ⟨hnone, -⟩
  · exact Observed.sameRecord_lookup? hr hr'
  · rw [Observed.lookup?_eq_none_of hnone] at hr'
    cases hr'

theorem holds_get_sound {e : Entity} (he : e.Plain)
    (hc : (w.moves h ms).cache.Holds (EachOf (Sound h w ms))) :
    ((w.moves h ms).move h (.get e)).cache.Holds (EachOf (Sound h w (ms ++ [.get e]))) := by
  have hobs := (Session.get_keeps (w.moves h ms) e).1
  have hlooked : ((w.moves h ms).looked e).cache.Holds (EachOf (Sound h w (ms ++ [.get e]))) :=
    holds_concat (holds_looked hc e) (fun _ hm => (nomatch hm)) hobs
  show (Session.get (w.moves h ms) e).2.cache.Holds _
  rcases Session.get_cases (w.moves h ms) e with
    ⟨r, -, hg⟩ | ⟨hmiss, ⟨r, hr, hg⟩ | ⟨hnone, ⟨r, hr, hg⟩ | ⟨err, -, hg⟩⟩⟩
  · rw [hg]
    exact hlooked
  · rw [hg]
    exact holds_remember hlooked fun hne => eachOf_of_self he hne (sound_get ⟨hmiss, .inl hr⟩)
  · have hfetched : (Session.fetch ((w.moves h ms).looked e) e).2.cache.Holds
        (EachOf (Sound h w (ms ++ [.get e]))) := by
      rw [Session.cache_fetch]
      exact hlooked
    rw [hg]
    exact holds_remember hfetched fun hne =>
      eachOf_of_self he hne (sound_get ⟨hmiss, .inr ⟨hnone, hr⟩⟩)
  · rw [hg]
    show (Session.fetch ((w.moves h ms).looked e) e).2.cache.Holds _
    rw [Session.cache_fetch]
    exact hlooked

/-! ## Runs -/

theorem session_move (h : Hub Subscriber) (w : World ρ τ) (m : Move) :
    (w.move h m).session = w.session := by
  cases m with
  | deliver event => exact session_notifyAll _ event w
  | get e => exact (Session.get_keeps w e).2
  | upkeep u => exact session_upkeep w u

theorem session_moves (h : Hub Subscriber) (w : World ρ τ) (ms : List Move) :
    (w.moves h ms).session = w.session :=
  List.foldlRecOn (motive := fun w' : World ρ τ => w'.session = w.session) ms (move h) rfl
    fun w' hw m _ => (session_move h w' m).trans hw

/-- Every entry of every reachable state is sound.  The induction adds the steps at the end of the run. -/
theorem holds_moves {number : Nat} (hw : w.session = some number)
    (ha : h.Attached (.session number)) (hempty : ∀ k, (w.cache.segment k).entries.list = [])
    (ms : List Move) (hplain : ∀ e, .get e ∈ ms → e.Plain) :
    (w.moves h ms).cache.Holds (EachOf (Sound h w ms)) := by
  induction ms using List.reverseRecOn with
  | nil =>
    intro k a hmem
    rw [show w.moves h [] = w from rfl, hempty k] at hmem
    cases hmem
  | append_singleton ms m ih =>
    have hc := ih fun e hmem => hplain e (List.mem_append_left _ hmem)
    have hm := fun e (hmem : m = .get e) => hplain e (by simp [hmem])
    have hsession := (session_moves h w ms).trans hw
    rw [moves_concat]
    cases m with
    | deliver event => exact holds_deliver hsession ha hc
    | get e => exact holds_get_sound (hm e rfl) hc
    | upkeep u =>
      exact holds_concat (holds_upkeep hc u) (fun _ hevent => (nomatch hevent)) (observed_upkeep _ u)

/-- A world whose cache agrees with the observed records about an entity. -/
structure Coherent (h : Hub Subscriber) (w : World ρ τ) (ms : List Move) (e : Entity) : Prop where
  /-- An entry is the observed record, if there is one. -/
  agrees : ∀ a ∈ ((w.moves h ms).cache.segment e.kind).entries.list, a.key = e.key →
    ∀ now r, (w.moves h ms).observed.lookup? now e = some r → SameRecord e a.value r
  /-- An entry was found by a lookup after the last change of the entity. -/
  obtained : ∀ a ∈ ((w.moves h ms).cache.segment e.kind).entries.list, a.key = e.key →
    Obtained h w ms e a.value
  /-- A lookup answers with the observed record, if there is one, and does not ask the platform. -/
  answered : ∀ r, (w.moves h ms).observed.lookup? (w.moves h ms).now e = some r →
    ∃ r' cache, SameRecord e r' r ∧
      Session.get (w.moves h ms) e = (.ok r', { w.moves h ms with cache })

/-- **The cache agrees with the observed records** after every run, whatever the platform answers and whether
the observed records hear of the changes once, often or not at all. -/
theorem coherent {number : Nat} (hw : w.session = some number) (ha : h.Attached (.session number))
    (hempty : ∀ k, (w.cache.segment k).entries.list = []) (ms : List Move)
    (hplain : ∀ e, .get e ∈ ms → e.Plain) {e : Entity} (he : e.Plain) : Coherent h w ms e := by
  have hc := holds_moves hw ha hempty ms hplain
  have hsound : ∀ a ∈ ((w.moves h ms).cache.segment e.kind).entries.list, a.key = e.key →
      Sound h w ms e a.value := fun a hmem hkey => hc e.kind a hmem e a.value he rfl hkey.symm HEq.rfl
  refine ⟨fun a hmem hkey => (hsound a hmem hkey).1, fun a hmem hkey => (hsound a hmem hkey).2, ?_⟩
  intro r hr
  rcases Session.get_cases (w.moves h ms) e with ⟨r', hhit, hg⟩ | ⟨-, ⟨r', hr', hg⟩ | ⟨hnone, -⟩⟩
  · obtain ⟨a, hmem, hkey, rfl⟩ := Cache.mem_of_get hhit
    exact ⟨a.value, _, (hsound a hmem hkey).1 _ r hr, hg⟩
  · exact ⟨r', _, Observed.sameRecord_lookup? hr' hr, hg⟩
  · rw [hr] at hnone
    cases hnone

/-- The observed records hear of a change first, then session 0 does. -/
def sampleHub : Hub Subscriber := (Hub.empty.subscribeAll .observed).subscribeAll (.session 0)

/-- A group is looked up before and after a change of it. -/
def sampleMoves : List Move :=
  [.get (.group "g"), .deliver (.groupUpdated (.new "g" "Group" "u")), .get (.group "g")]

theorem coherent_sample :
    (overDirectory .empty).session = some 0 ∧ sampleHub.Attached (.session 0) ∧
      (∀ k, ((overDirectory .empty).cache.segment k).entries.list = []) ∧
      (∀ e, .get e ∈ sampleMoves → e.Plain) ∧ Entity.Plain (.group "g") ∧
      Coherent sampleHub (overDirectory .empty) sampleMoves (.group "g") := by
  have hattached : sampleHub.Attached (.session 0) := Hub.attached_subscribeAll _ _
  have hempty : ∀ k, ((overDirectory .empty).cache.segment k).entries.list = [] := by
    intro k
    cases k <;> rfl
  have hplain : ∀ e, .get e ∈ sampleMoves → e.Plain := by
    intro e he
    simp only [sampleMoves, List.mem_cons, Move.get.injEq, List.not_mem_nil, or_false, reduceCtorEq,
      false_or, or_self] at he
    rw [he]
    trivial
  exact ⟨rfl, hattached, hempty, hplain, trivial, coherent rfl hattached hempty sampleMoves hplain trivial⟩

end Runs

end World

end Roster
