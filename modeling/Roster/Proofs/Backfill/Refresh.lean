import Mathlib.Data.List.Induction
import Roster.Backfill.Members
import Roster.Proofs.Cache.Memberships
import Roster.Proofs.Cache.Unlimited
import Roster.Proofs.Session.Transparency
import Roster.Proofs.Store.Facts

/-!
# Fetching members again

A refresh asks for members of a group one by one.  It overwrites what is cached of those who are answered and
replaces their facts, with the time at which it began, and leaves everything else alone.

* `TableStore.Replaced`, `replaceFacts_writable` — a store after the facts of one
  member were replaced, row by row.
* `Backfill.Overwrote`, `refreshMember_cases` — everything that one fetch can do.
* `Backfill.AnswersAlike` — a platform that answers for a member the same way every time.
* `Backfill.Refreshed` — what has become of a world once the members of a list were asked for;
  `Refreshed.next`: with one more member.
* `Backfill.refresh_exact` — **a refresh does that and counts the answers**; who is not
  answered keeps entry and facts.
-/

set_option autoImplicit false

namespace Roster

/-! ## The facts of one member -/

/-- The join row of a member: the time that is reported, else the recorded one, else that of the fetch. -/
def JoinFact.replaced (m : Member) (seen now : Instant) (row : Option JoinFact) : JoinFact :=
  ⟨m.joinedAt.getD ((row.map JoinFact.joinedAt).getD (.ofInstant seen)), now⟩

/-- A store after the facts of a member were replaced. -/
structure TableStore.Replaced (m : Member) (seen now : Instant) (s s' : TableStore) : Prop where
  joins : ∀ id, s'.joins[id]? = if id = m.id then some (.replaced m seen now s.joins[m.id]?) else s.joins[id]?
  roles : ∀ id, s'.roles[id]? = if id = m.id then some ⟨m.roleIds, seen, now⟩ else s.roles[id]?
  rows : s'.cacheRows = s.cacheRows
  readOnly : s'.readOnly = s.readOnly

open TableStore

/-- Once the join fact is replaced, the roles are written over what is there. -/
theorem TableStore.Replaced.of_joins {m : Member} {seen now : Instant} {s s' : TableStore}
    (h : s.readOnly = false)
    (hjoins : ∀ id, s'.joins[id]? =
      if id = m.id then some (.replaced m seen now s.joins[m.id]?) else s.joins[id]?)
    (hroles : s'.roles = s.roles) (hrows : s'.cacheRows = s.cacheRows) (hwrite : s'.readOnly = false) :
    Replaced m seen now s (Store.recordRoles now m.id m.roleIds seen s').2 := by
  rw [recordRoles_writable hwrite]
  refine ⟨hjoins, fun id => ?_, hrows, hwrite.trans h.symm⟩
  dsimp only
  rw [getElem?_insert, hroles]

/-- **Replacing the facts of a member** writes its two rows and nothing else. -/
theorem replaceFacts_writable {s : TableStore} (h : s.readOnly = false) (m : Member) (seen now : Instant) :
    Replaced m seen now s (replaceFacts m seen now s).2 := by
  unfold replaceFacts
  dsimp only
  cases hreported : m.joinedAt with
  | some joinedAt =>
    have hjoin : Store.recordJoin now m.id joinedAt s =
        (.ok (), { s with joins := s.joins.insert m.id ⟨joinedAt, now⟩ }) := if_neg (by simp [h])
    dsimp only
    rw [hjoin]
    refine .of_joins h (fun id => ?_) rfl rfl h
    rw [JoinFact.replaced, hreported]
    exact getElem?_insert s.joins m.id _ id
  | none =>
    -- no time is reported, so a recorded one stays
    cases hrow : s.joins[m.id]? with
    | some row =>
      dsimp only
      rw [recordFirstJoin_of_some h hrow]
      refine .of_joins h (fun id => ?_) rfl rfl h
      rw [JoinFact.replaced, hreported, stampJoin, getElem?_modify, hrow]
      rfl
    | none =>
      dsimp only
      rw [recordFirstJoin_of_none h hrow]
      refine .of_joins h (fun id => ?_) rfl rfl h
      rw [JoinFact.replaced, hreported, hrow]
      exact getElem?_insert s.joins m.id _ id

namespace Backfill

variable {ρ : Type}

/-! ## One fetch -/

/-- A world in which one member was overwritten: its cache entry, and its facts as of an instant. -/
structure Overwrote (m : Member) (seen : Instant) (w w' : World ρ TableStore) : Prop where
  entry : ∃ time, Cache.Written .member ⟨m.id.text, m, w.cache.members.expiryFrom time⟩ w.cache w'.cache
  facts : ∃ time, Replaced m seen time w.store w'.store

/-- What has become of one member who was answered, in the course of a refresh. -/
structure Renewed (id : MemberId) (m : Member) (w w' : World ρ TableStore) : Prop where
  /-- It is cached as answered. -/
  entry : ∃ time, w'.cache.slot? .member id.key = some ⟨id.key, m, w.cache.members.expiryFrom time⟩
  /-- The roles are those of the answer, seen when it all began. -/
  roles : ∃ touched, w'.store.roles[id]? = some ⟨m.roleIds, w.now, touched⟩
  /-- The join time is the reported one, else the recorded one, else the time when it all began. -/
  join : w'.store.joinTime? id = some (m.joinedAt.getD ((w.store.joinTime? id).getD (.ofInstant w.now)))

section Renewed

variable {id : MemberId} {m m' : Member} {seen : Instant} {w w' w'' : World ρ TableStore}

/-- A member who is overwritten is as it should be, if no later join time than that
of the start was recorded. -/
theorem Overwrote.renewed (h : Overwrote m w.now w' w'') (hid : m.id = id) (hnamed : id.Named)
    (httl : w'.cache.members.ttlMillis = w.cache.members.ttlMillis)
    (hjoin : m.joinedAt.getD ((w'.store.joinTime? id).getD (.ofInstant w.now)) =
      m.joinedAt.getD ((w.store.joinTime? id).getD (.ofInstant w.now))) : Renewed id m w w'' := by
  subst hid
  obtain ⟨⟨time, hentry⟩, touched, hfacts⟩ := h
  have hexpiry : w'.cache.members.expiryFrom time = w.cache.members.expiryFrom time := by
    unfold Segment.expiryFrom Segment.ttl
    rw [httl]
  rw [hexpiry] at hentry
  refine ⟨⟨time, ?_⟩, ⟨touched, (hfacts.roles _).trans (if_pos rfl)⟩, ?_⟩
  · rw [hnamed.key_eq]
    exact hentry.self
  · have hreplaced : w''.store.joinTime? m.id =
        some (m.joinedAt.getD ((w'.store.joinTime? m.id).getD (.ofInstant w.now))) := by
      unfold TableStore.joinTime?
      rw [hfacts.joins, if_pos rfl]
      rfl
    rw [hreplaced, hjoin]

/-- It stays so when another member is overwritten. -/
theorem Renewed.keep (h : Renewed id m w w') (hwrote : Overwrote m' seen w' w'') (hne : id ≠ m'.id)
    (hkey : id.key ≠ m'.id.text) : Renewed id m w w'' := by
  obtain ⟨⟨time, hslot⟩, ⟨touched, hrow⟩, hjoin⟩ := h
  obtain ⟨⟨_, hentry⟩, _, hfacts⟩ := hwrote
  refine ⟨⟨time, ?_⟩, ⟨touched, ?_⟩, ?_⟩
  · rw [hentry.other .member id.key fun hsame => hkey hsame.2]
    exact hslot
  · rw [hfacts.roles, if_neg hne]
    exact hrow
  · rw [← hjoin]
    unfold TableStore.joinTime?
    rw [hfacts.joins, if_neg hne]

end Renewed

variable [Platform ρ] {b : Backfill} {groupId : String}

/-- Everything that a fetch can do, when members have no limit and facts are recorded. -/
theorem refreshMember_cases (hb : b.recordsFacts = true) {w : World ρ TableStore}
    (hlimit : w.cache.members.limit = 0) (hwritable : w.store.readOnly = false) {user : String}
    (hnamed : MemberId.Named ⟨groupId, user⟩) (seen : Instant) (n : Nat) :
    (∃ e, (w.ask (.member ⟨groupId, user⟩)).1 = .error e ∧
      b.refreshMember groupId seen (n, w) user = (n, (w.ask (.member ⟨groupId, user⟩)).2)) ∨
    (∃ m : Member, (w.ask (.member ⟨groupId, user⟩)).1 = .ok m ∧
      (b.refreshMember groupId seen (n, w) user).1 = n + 1 ∧
      (b.refreshMember groupId seen (n, w) user).2.platform = (w.ask (.member ⟨groupId, user⟩)).2.platform ∧
      (m.id = ⟨groupId, user⟩ → Overwrote m seen w (b.refreshMember groupId seen (n, w) user).2)) := by
  unfold refreshMember
  dsimp only
  split
  · rename_i e w' hask
    exact .inl ⟨e, congrArg Prod.fst hask, by rw [hask]⟩
  · rename_i m w' hask
    have hw' : w' = (w.ask (.member ⟨groupId, user⟩)).2 := by rw [hask]
    refine .inr ⟨m, congrArg Prod.fst hask, rfl, ?_, ?_⟩
    · rw [if_pos hb, hw']
      rfl
    · intro hid
      rw [if_pos hb, hw']
      have hkey : MemberId.key ⟨groupId, user⟩ = m.id.text := by rw [hid, hnamed.key_eq]
      constructor
      · refine ⟨(w.ask (.member ⟨groupId, user⟩)).2.now, ?_⟩
        have hwritten :=
          Segment.insert_written hlimit m.id.text_ne_empty m (w.ask (.member ⟨groupId, user⟩)).2.now
        rw [← hkey] at hwritten ⊢
        exact Cache.written_withSegment (k := .member) hwritten
      · exact ⟨_, replaceFacts_writable hwritable m seen _⟩

/-! ## A list of members -/

/-- A platform that answers for each of some members of a group the same way every time, with a record of that
very member or with an error. -/
structure AnswersAlike (groupId : String) (users : List String) (answer : String → Except PlatformError Member)
    (serving : ρ → Prop) : Prop where
  answers : ∀ user ∈ users, ∀ p now, serving p → (Platform.ask (.member ⟨groupId, user⟩) now p).1 = answer user
  keeps : ∀ user ∈ users, ∀ p now, serving p → serving (Platform.ask (.member ⟨groupId, user⟩) now p).2.2
  own : ∀ user ∈ users, ∀ m, answer user = .ok m → m.id = ⟨groupId, user⟩

/-- A membership among some of a group, and what is answered for it. -/
def Answers (groupId : String) (users : List String) (answer : String → Except PlatformError Member)
    (id : MemberId) (m : Member) : Prop :=
  ∃ user ∈ users, answer user = .ok m ∧ id = ⟨groupId, user⟩

/-- What has become of a world once members of a group were asked for. -/
structure Refreshed (groupId : String) (users : List String) (answer : String → Except PlatformError Member)
    (w w' : World ρ TableStore) : Prop where
  members : ∀ id m, Answers groupId users answer id m → Renewed id m w w'
  otherEntries : ∀ k key, (∀ id m, Answers groupId users answer id m → ¬(k = .member ∧ key = id.key)) →
    w'.cache.slot? k key = w.cache.slot? k key
  otherRows : ∀ id, (∀ m, ¬Answers groupId users answer id m) →
    w'.store.joins[id]? = w.store.joins[id]? ∧ w'.store.roles[id]? = w.store.roles[id]?
  savedRows : w'.store.cacheRows = w.store.cacheRows

section Refreshed

variable {users : List String} {user : String} {answer : String → Except PlatformError Member} {id : MemberId}
  {m : Member} {w w' w'' : World ρ TableStore}

theorem answers_append : Answers groupId (users ++ [user]) answer id m ↔
    Answers groupId users answer id m ∨ answer user = .ok m ∧ id = ⟨groupId, user⟩ := by
  constructor
  · rintro ⟨other, hother, hm, hid⟩
    rcases List.mem_append.1 hother with hother | hlast
    · exact .inl ⟨other, hother, hm, hid⟩
    · rw [List.mem_singleton.1 hlast] at hm hid
      exact .inr ⟨hm, hid⟩
  · rintro (⟨other, hother, hm, hid⟩ | ⟨hm, hid⟩)
    · exact ⟨other, List.mem_append_left _ hother, hm, hid⟩
    · exact ⟨user, List.mem_append_right _ (List.mem_singleton_self user), hm, hid⟩

omit [Platform ρ] in
theorem Refreshed.start (groupId : String) (answer : String → Except PlatformError Member)
    (w : World ρ TableStore) :
    Refreshed groupId [] answer w w where
  members _ _ := by
    rintro ⟨_, hmem, -⟩
    cases hmem
  otherEntries _ _ _ := rfl
  otherRows _ _ := ⟨rfl, rfl⟩
  savedRows := rfl

/-- A request changes neither entries nor rows. -/
theorem Refreshed.asked (h : Refreshed groupId users answer w w') (q : Request) :
    Refreshed groupId users answer w (w'.ask q).2 where
  members id m hm := ⟨(h.members id m hm).entry, (h.members id m hm).roles, (h.members id m hm).join⟩
  otherEntries := h.otherEntries
  otherRows := h.otherRows
  savedRows := h.savedRows

omit [Platform ρ] in
/-- One more member who is not answered makes no difference. -/
theorem Refreshed.skip (h : Refreshed groupId users answer w w') {e : PlatformError}
    (herror : answer user = .error e) :
    Refreshed groupId (users ++ [user]) answer w w' := by
  have hsame (id : MemberId) (m : Member) : Answers groupId (users ++ [user]) answer id m ↔
      Answers groupId users answer id m := by
    rw [answers_append, herror]
    simp
  refine ⟨?_, ?_, ?_, h.savedRows⟩
  · intro id m hm
    exact h.members id m ((hsame id m).1 hm)
  · intro k key hother
    exact h.otherEntries k key fun id m hm => hother id m ((hsame id m).2 hm)
  · intro id hother
    exact h.otherRows id fun m hm => hother m ((hsame id m).2 hm)

omit [Platform ρ] in
/-- The join time that counts is the same before a member is asked for again. -/
theorem Refreshed.join_eq (h : Refreshed groupId users answer w w') (hanswer : answer user = .ok m) :
    m.joinedAt.getD ((w'.store.joinTime? ⟨groupId, user⟩).getD (.ofInstant w.now)) =
      m.joinedAt.getD ((w.store.joinTime? ⟨groupId, user⟩).getD (.ofInstant w.now)) := by
  by_cases hbefore : ∃ m', Answers groupId users answer ⟨groupId, user⟩ m'
  · obtain ⟨m', hm'⟩ := hbefore
    have hjoin := (h.members _ m' hm').join
    obtain ⟨_, -, hanswer', ⟨⟩⟩ := hm'
    obtain rfl : m = m' := Except.ok.inj (hanswer.symm.trans hanswer')
    rw [hjoin]
    cases m.joinedAt <;> rfl
  · have hrow := (h.otherRows ⟨groupId, user⟩ (not_exists.1 hbefore)).1
    unfold TableStore.joinTime?
    rw [hrow]

omit [Platform ρ] in
/-- One more member who is answered is overwritten, whether or not that was done before, and the others stay. -/
theorem Refreshed.next (h : Refreshed groupId users answer w w') (hanswer : answer user = .ok m)
    (hid : m.id = ⟨groupId, user⟩) (hnamed : ∀ other ∈ users ++ [user], MemberId.Named ⟨groupId, other⟩)
    (httl : w'.cache.members.ttlMillis = w.cache.members.ttlMillis) (hwrote : Overwrote m w.now w' w'') :
    Refreshed groupId (users ++ [user]) answer w w'' := by
  have huser : MemberId.Named ⟨groupId, user⟩ :=
    hnamed user (List.mem_append_right _ (List.mem_singleton_self user))
  have hself : Answers groupId (users ++ [user]) answer ⟨groupId, user⟩ m :=
    answers_append.2 (.inr ⟨hanswer, rfl⟩)
  have hlater {id : MemberId} {m : Member} (hm : Answers groupId users answer id m) :
      Answers groupId (users ++ [user]) answer id m := answers_append.2 (.inl hm)
  have hrenewed : Renewed ⟨groupId, user⟩ m w w'' := hwrote.renewed hid huser httl (h.join_eq hanswer)
  obtain ⟨_, hentry⟩ := hwrote.entry
  obtain ⟨_, hfacts⟩ := hwrote.facts
  refine ⟨?_, ?_, ?_, hfacts.rows.trans h.savedRows⟩
  · intro id m' hm'
    by_cases hsame : id = ⟨groupId, user⟩
    · obtain ⟨_, -, hanswer', rfl⟩ := hm'
      obtain ⟨⟩ := hsame
      obtain rfl : m = m' := Except.ok.inj (hanswer.symm.trans hanswer')
      exact hrenewed
    · have hbefore : Answers groupId users answer id m' :=
        (answers_append.1 hm').resolve_right fun hm => hsame hm.2
      have hkept := h.members id m' hbefore
      obtain ⟨other, hother, -, rfl⟩ := hbefore
      refine hkept.keep hwrote (by rwa [hid]) ?_
      rw [hid, (hnamed other (List.mem_append_left _ hother)).key_eq]
      intro htext
      exact hsame (congrArg (MemberId.mk groupId) (MemberId.user_eq_of_text_eq htext))
  · intro k key hother
    rw [hentry.other]
    · exact h.otherEntries k key fun id m hm => hother id m (hlater hm)
    · rintro ⟨rfl, rfl⟩
      refine hother _ m hself ⟨rfl, ?_⟩
      rw [huser.key_eq, hid]
  · intro id hother
    have hne : id ≠ m.id := by
      rw [hid]
      rintro rfl
      exact hother m hself
    rw [hfacts.joins, hfacts.roles, if_neg hne, if_neg hne]
    exact h.otherRows id fun m hm => hother m (hlater hm)

end Refreshed

/-! ## The whole refresh -/

/-- A refresh under way: what it has counted and done, and what the next fetch relies on. -/
structure Refreshing (groupId : String) (users : List String) (answer : String → Except PlatformError Member)
    (serving : ρ → Prop) (w : World ρ TableStore) (acc : Nat × World ρ TableStore) : Prop
    extends Refreshed groupId users answer w acc.2 where
  count : acc.1 = users.countP fun user => (answer user).isOk
  serving : serving acc.2.platform
  limit : acc.2.cache.members.limit = 0
  ttl : acc.2.cache.members.ttlMillis = w.cache.members.ttlMillis
  writable : acc.2.store.readOnly = false

variable {users : List String} {user : String} {answer : String → Except PlatformError Member}
  {serving : ρ → Prop} {w : World ρ TableStore}

/-- **One more fetch** counts if it is answered, and does what `Refreshed` says. -/
theorem Refreshing.refreshMember (hb : b.recordsFacts = true) {acc : Nat × World ρ TableStore}
    (h : Refreshing groupId users answer serving w acc)
    (ha : AnswersAlike groupId (users ++ [user]) answer serving)
    (hnamed : ∀ other ∈ users ++ [user], MemberId.Named ⟨groupId, other⟩) :
    Refreshing groupId (users ++ [user]) answer serving w (b.refreshMember groupId w.now acc user) := by
  obtain ⟨n, w'⟩ := acc
  have huser : user ∈ users ++ [user] := List.mem_append_right _ (List.mem_singleton_self user)
  have hanswer : (w'.ask (.member ⟨groupId, user⟩)).1 = answer user := ha.answers user huser _ _ h.serving
  have hserving : serving (w'.ask (.member ⟨groupId, user⟩)).2.platform := ha.keeps user huser _ _ h.serving
  rcases refreshMember_cases hb h.limit h.writable (hnamed user huser) w.now n with
    ⟨e, herror, hstep⟩ | ⟨m, hok, hcount, hplatform, hwrote⟩
  · rw [hanswer] at herror
    rw [hstep]
    have hskipped : Refreshed groupId (users ++ [user]) answer w (w'.ask (.member ⟨groupId, user⟩)).2 :=
      (h.toRefreshed.asked _).skip herror
    refine ⟨hskipped, ?_, hserving, h.limit, h.ttl, h.writable⟩
    rw [List.countP_append, ← h.count]
    simp [herror, Except.isOk, Except.toBool]
  · rw [hanswer] at hok
    have hid : m.id = ⟨groupId, user⟩ := ha.own user huser m hok
    have hwrote := hwrote hid
    obtain ⟨_, hentry⟩ := hwrote.entry
    obtain ⟨_, hfacts⟩ := hwrote.facts
    refine ⟨h.toRefreshed.next hok hid hnamed h.ttl hwrote, ?_, ?_, (hentry.limit .member).trans h.limit,
      (hentry.ttl .member).trans h.ttl, hfacts.readOnly.trans h.writable⟩
    · rw [hcount, List.countP_append, ← h.count]
      simp [hok, Except.isOk, Except.toBool]
    · rw [hplatform]
      exact hserving

/-- The induction is on the last member: what was done before is known then. -/
theorem refreshing (hb : b.recordsFacts = true) (hwritable : w.store.readOnly = false)
    (hlimit : w.cache.members.limit = 0) (hserving : serving w.platform) (users : List String)
    (ha : AnswersAlike groupId users answer serving) (hnamed : ∀ user ∈ users, MemberId.Named ⟨groupId, user⟩) :
    Refreshing groupId users answer serving w (users.foldl (b.refreshMember groupId w.now) (0, w)) := by
  induction users using List.reverseRecOn with
  | nil => exact ⟨.start groupId answer w, rfl, hserving, hlimit, rfl, hwritable⟩
  | append_singleton users user ih =>
    have hbefore {other : String} (hother : other ∈ users) : other ∈ users ++ [user] :=
      List.mem_append_left _ hother
    have hprefix : AnswersAlike groupId users answer serving :=
      ⟨fun other hother => ha.answers other (hbefore hother),
        fun other hother => ha.keeps other (hbefore hother), fun other hother => ha.own other (hbefore hother)⟩
    rw [List.foldl_append]
    exact (ih hprefix fun other hother => hnamed other (hbefore hother)).refreshMember hb ha hnamed

/-- **A refresh is exact and local.**  It counts the members who are answered, one for each place in the list.
Each of them is cached as answered, with the roles of the answer and the join time that counts; whoever is not
answered keeps entry and facts, and nobody else is concerned. -/
theorem refresh_exact (hb : b.recordsFacts = true) (hwritable : w.store.readOnly = false)
    (hlimit : w.cache.members.limit = 0) (hgroup : groupId ≠ "") (husers : ∀ user ∈ users, user ≠ "")
    (ha : AnswersAlike groupId users answer serving) (hserving : serving w.platform) :
    (b.refresh groupId users w).1 = users.countP (fun user => (answer user).isOk) ∧
      Refreshed groupId users answer w (b.refresh groupId users w).2 ∧
      ∀ user ∈ users, ∀ e, answer user = .error e →
        (b.refresh groupId users w).2.cache.slot? .member (MemberId.key ⟨groupId, user⟩) =
          w.cache.slot? .member (MemberId.key ⟨groupId, user⟩) ∧
        (b.refresh groupId users w).2.store.joins[MemberId.mk groupId user]? =
          w.store.joins[MemberId.mk groupId user]? ∧
        (b.refresh groupId users w).2.store.roles[MemberId.mk groupId user]? =
          w.store.roles[MemberId.mk groupId user]? := by
  have hnamed (user : String) (huser : user ∈ users) : MemberId.Named ⟨groupId, user⟩ :=
    ⟨hgroup, husers user huser⟩
  have hdone := refreshing hb hwritable hlimit hserving users ha hnamed
  refine ⟨hdone.count, hdone.toRefreshed, ?_⟩
  intro user huser e herror
  constructor
  · apply hdone.otherEntries
    rintro id m ⟨other, hother, hok, rfl⟩ ⟨-, hkey⟩
    rw [(hnamed user huser).key_eq, (hnamed other hother).key_eq] at hkey
    rw [← MemberId.user_eq_of_text_eq hkey, herror] at hok
    cases hok
  · apply hdone.otherRows
    rintro m ⟨other, -, hok, hsame⟩
    obtain ⟨⟩ := hsame
    rw [herror] at hok
    cases hok

/-- A directory answers for its members alike. -/
theorem answersAlike_directory (d : Directory) (groupId : String) (users : List String) :
    AnswersAlike groupId users (fun user => d.answer (.member ⟨groupId, user⟩))
      fun p : DirectoryServer => p.directory = d where
  answers _ _ p _ hp := by
    rw [← hp]
    rfl
  keeps _ _ _ _ hp := hp
  own user _ m hm := by
    have hm : d.ofGroup groupId (d.member ⟨groupId, user⟩) = .ok m := hm
    unfold Directory.ofGroup at hm
    split at hm
    · cases hm
    · unfold Directory.member at hm
      split at hm
      · cases hm
      · have hfound := Directory.found_eq_ok.1 hm
        obtain ⟨-, hgroup⟩ := Directory.mem_membersOf.1 (List.mem_of_find?_eq_some hfound)
        have huser : m.userId = user := by simpa using List.find?_some hfound
        rw [Member.id, hgroup, huser]

/-- A world over a directory of one member, without limits. -/
def sampleUnbounded : World DirectoryServer TableStore :=
  { World.overDirectory Session.sampleDirectory with cache := Cache.unboundedMembers }

/-- One member is asked for twice, and one who is not there in between. -/
theorem refresh_exact_sample :
    let b : Backfill := ⟨.standard, true⟩
    let answer (user : String) := Session.sampleDirectory.answer (.member ⟨"g", user⟩)
    b.recordsFacts = true ∧ sampleUnbounded.store.readOnly = false ∧ sampleUnbounded.cache.members.limit = 0 ∧
      "g" ≠ "" ∧ (∀ user ∈ ["u", "v", "u"], user ≠ "") ∧
      AnswersAlike "g" ["u", "v", "u"] answer
        (fun p : DirectoryServer => p.directory = Session.sampleDirectory) ∧
      sampleUnbounded.platform.directory = Session.sampleDirectory ∧
      (b.refresh "g" ["u", "v", "u"] sampleUnbounded).1 = 2 ∧
      Refreshed "g" ["u", "v", "u"] answer sampleUnbounded
        (b.refresh "g" ["u", "v", "u"] sampleUnbounded).2 := by
  intro b answer
  have hlike := answersAlike_directory Session.sampleDirectory "g" ["u", "v", "u"]
  obtain ⟨hcount, hdone, -⟩ := refresh_exact (b := b) (w := sampleUnbounded) rfl rfl rfl (by decide) (by decide)
    hlike rfl
  refine ⟨rfl, rfl, rfl, by decide, by decide, hlike, rfl, ?_, hdone⟩
  rw [hcount]
  decide +kernel

end Backfill

end Roster
