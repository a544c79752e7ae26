import Mathlib.Data.List.Nodup
import Roster.Proofs.Record.MemberKey
import Roster.Proofs.World.Run

/-!
# The cache is transparent

A session over a platform whose records never change answers as the platform itself does, whatever was cached,
saved, reloaded, evicted or dropped before.

* `Directory.Regular` — no request fails, memberships and channels have distinct ids, and no colon is in
  the group id of a membership.
* `Directory.Serves` — the states of a platform from which it answers out of a directory, now and later.
* `Directory.Records` — an entry is the record that the directory has for its key.  `Directory.delivers`: every
  answer brings in such entries, pages of members and lists of channels included.
* `Session.get_transparent` — **every lookup answers what the platform would**.
-/

set_option autoImplicit false

namespace Roster

namespace Directory

/-- A directory without failures whose records are told apart by their ids. -/
structure Regular (d : Directory) : Prop where
  groups : d.failingGroups = []
  users : d.failingUsers = []
  members : (d.members.map Member.id).Nodup
  channels : (d.channels.map Channel.id).Nodup
  plain : ∀ m ∈ d.members, ':' ∉ m.groupId.toList

/-- In these states a platform answers every request out of a directory, now and later. -/
structure Serves {ρ : Type} [Platform ρ] (d : Directory) (serving : ρ → Prop) : Prop where
  answer : ∀ q now p, serving p → (Platform.ask q now p).1 = d.answer q
  keep : ∀ q now p, serving p → serving (Platform.ask q now p).2.2

theorem serves_server (d : Directory) : d.Serves fun p : DirectoryServer => p.directory = d where
  answer _ _ _ hp := by
    rw [← hp]
    rfl
  keep _ _ _ hp := hp

/-- An entry is the record of the directory for its key. -/
def Records (d : Directory) : (k : Kind) → Entry k.Record → Prop
  | .member, a => a.value ∈ d.members ∧ a.key = a.value.id.text
  | .group, a => d.answer (.group a.key) = .ok a.value
  | .roles, a => a.value.groupId = a.key ∧ d.answer (.roles a.key) = .ok a.value.roles
  | .channel, a => d.answer (.channel a.key) = .ok a.value

/-- What a session should answer: what the platform does.  The time at which a role list was fetched is left
open. -/
def Tells (d : Directory) : (e : Entity) → Except PlatformError e.Record → Prop
  | .member id, r => r = d.answer (.member id)
  | .group id, r => r = d.answer (.group id)
  | .channel id, r => r = d.answer (.channel id)
  | .roles g, r => (∀ l, r = .ok l → l.groupId = g) ∧ r.map RoleList.roles = d.answer (.roles g)

variable {d : Directory}

/-! ## Answers -/

theorem found_eq_ok {α : Type} {kind id : String} {o : Option α} {a : α} :
    found kind id o = .ok a ↔ o = some a := by
  cases o <;> simp [found]

theorem Regular.ofGroup_eq (h : d.Regular) {α : Type} (groupId : String)
    (answer : Except PlatformError α) : d.ofGroup groupId answer = answer := by
  unfold ofGroup
  rw [h.groups]
  exact if_neg List.not_mem_nil

theorem Regular.answer_member (h : d.Regular) (id : MemberId) :
    d.answer (.member id) =
      found "member" id.user ((d.membersOf id.group).find? fun m => m.userId = id.user) := by
  show d.ofGroup id.group (d.member id) = _
  rw [h.ofGroup_eq]
  unfold member
  rw [h.users]
  exact if_neg List.not_mem_nil

theorem mem_membersOf {groupId : String} {m : Member} :
    m ∈ d.membersOf groupId ↔ m ∈ d.members ∧ m.groupId = groupId := by
  rw [membersOf, List.mem_mergeSort, List.mem_filter, decide_eq_true_iff]

theorem mem_page {groupId : String} {after : Option String} {limit : Nat} {m : Member}
    (h : m ∈ d.page groupId after limit) : m ∈ d.members :=
  (mem_membersOf.1 (List.mem_filter.1 (List.mem_of_mem_take h)).1).1

/-- The only element of a list that passes a test is the one that is found. -/
theorem find?_of_unique {α : Type} {l : List α} {p : α → Bool} {a : α} (ha : a ∈ l) (hp : p a = true)
    (hunique : ∀ b ∈ l, p b = true → b = a) : l.find? p = some a := by
  cases hf : l.find? p with
  | none => exact absurd hp (List.find?_eq_none.1 hf a ha)
  | some b => rw [hunique b (List.mem_of_find?_eq_some hf) (List.find?_some hf)]

/-- The member of an id is the only one that has it. -/
theorem Regular.answer_member_eq_ok (h : d.Regular) {id : MemberId} {m : Member} :
    d.answer (.member id) = .ok m ↔ m ∈ d.members ∧ m.id = id := by
  rw [h.answer_member, found_eq_ok]
  constructor
  · intro hf
    obtain ⟨hm, hg⟩ := mem_membersOf.1 (List.mem_of_find?_eq_some hf)
    have hu : m.userId = id.user := by simpa using List.find?_some hf
    refine ⟨hm, ?_⟩
    rw [Member.id, hg, hu]
  · rintro ⟨hm, rfl⟩
    refine find?_of_unique (mem_membersOf.2 ⟨hm, rfl⟩) (decide_eq_true rfl) ?_
    intro m' hm' hu
    obtain ⟨hm', hg⟩ := mem_membersOf.1 hm'
    have hid : m'.id = m.id := by rw [Member.id, hg, of_decide_eq_true hu]
    exact List.inj_on_of_nodup_map h.members hm' hm hid

theorem Regular.answer_channel (h : d.Regular) {c : Channel} (hc : c ∈ d.channels) :
    d.answer (.channel c.id) = .ok c := by
  refine found_eq_ok.2 (find?_of_unique hc (decide_eq_true rfl) ?_)
  intro c' hc' hid
  exact List.inj_on_of_nodup_map h.channels hc' hc (of_decide_eq_true hid)

/-! ## Entries -/

/-- Whatever a platform answers out of a directory comes in as the record of its key. -/
theorem delivers {ρ : Type} [Platform ρ] {serving : ρ → Prop} (h : d.Regular) (hs : d.Serves serving) :
    Delivers d.Records serving where
  keep := hs.keep
  member id now p m x hp hk hm := by
    rw [hs.answer _ now p hp, h.answer_member_eq_ok] at hm
    obtain ⟨hmem, hid⟩ := hm
    have hkey : id.key = m.id.text := by
      rw [hid]
      exact MemberId.key_eq_text hk
    exact ⟨hmem, hkey⟩
  group id now p g x hp hg := by
    rw [hs.answer _ now p hp] at hg
    exact hg
  roles g now p rs t x hp hr := by
    rw [hs.answer _ now p hp] at hr
    exact ⟨rfl, hr⟩
  channel id now p c x hp hc := by
    rw [hs.answer _ now p hp] at hc
    exact hc
  channels g now p cs hp hcs c hc x := by
    rw [hs.answer _ now p hp] at hcs
    change d.ofGroup g (.ok (d.channels.filter fun c => c.groupId = g)) = .ok cs at hcs
    rw [h.ofGroup_eq] at hcs
    cases hcs
    exact h.answer_channel (List.mem_filter.1 hc).1
  members g after limit now p ms hp hms m hm x := by
    rw [hs.answer _ now p hp] at hms
    change d.ofGroup g (.ok (d.page g after limit)) = .ok ms at hms
    rw [h.ofGroup_eq] at hms
    cases hms
    exact ⟨mem_page hm, rfl⟩

/-- The record under the key of an entity is what the platform answers for it. -/
theorem Regular.tells_record (h : d.Regular) {e : Entity} (he : e.Plain) {r : e.Record}
    {x : Option Instant} (hr : d.Records e.kind ⟨e.key, r, x⟩) : d.Tells e (.ok r) := by
  cases e with
  | member id =>
    obtain ⟨hm, hkey⟩ := hr
    have hne : id.key ≠ "" := by
      rw [show id.key = r.id.text from hkey]
      exact MemberId.text_ne_empty _
    have hid : r.id = id :=
      MemberId.eq_of_text_eq ((show id.key = r.id.text from hkey) ▸ MemberId.key_eq_text hne) (h.plain r hm) he
    exact (h.answer_member_eq_ok.2 ⟨hm, hid⟩).symm
  | group id => exact Eq.symm hr
  | channel id => exact Eq.symm hr
  | roles g =>
    obtain ⟨hg, hroles⟩ := hr
    refine ⟨?_, hroles.symm⟩
    intro l hl
    cases hl
    exact hg

/-- So is what a session fetches. -/
theorem tells_fetch {ρ τ : Type} [Platform ρ] {serving : ρ → Prop} (hs : d.Serves serving)
    {w : World ρ τ} (hw : serving w.platform) (e : Entity) : d.Tells e (Session.fetch w e).1 := by
  cases e with
  | member id => exact hs.answer _ w.now w.platform hw
  | group id => exact hs.answer _ w.now w.platform hw
  | channel id => exact hs.answer _ w.now w.platform hw
  | roles g =>
    have ha : (w.ask (.roles g)).1 = d.answer (.roles g) := hs.answer _ w.now w.platform hw
    show (∀ l : RoleList, (w.ask (.roles g)).1.map _ = .ok l → l.groupId = g) ∧
      ((w.ask (.roles g)).1.map _).map RoleList.roles = d.answer (.roles g)
    rw [ha]
    cases d.answer (.roles g) with
    | error err => exact ⟨fun l hl => (nomatch hl), rfl⟩
    | ok roles =>
      refine ⟨?_, rfl⟩
      intro l hl
      cases hl
      rfl

end Directory

/-! ## Lookups -/

/-- A world in which nothing is cached, saved or observed. -/
structure World.Blank {ρ : Type} (w : World ρ TableStore) : Prop where
  cache : ∀ k, (w.cache.segment k).entries.list = []
  store : w.store.cacheRows.isEmpty = true
  observed : w.observed = .empty

theorem World.Blank.holds {ρ : Type} {P : (k : Kind) → Entry k.Record → Prop} {serving : ρ → Prop}
    {w : World ρ TableStore} (hw : w.Blank) (hp : serving w.platform) : w.Holds P serving where
  cache k e he := by
    rw [hw.cache k] at he
    cases he
  store := TableStore.holds_of_isEmpty hw.store
  observed e now r x hr := by
    rw [hw.observed] at hr
    cases e <;> simp [Observed.lookup?, Observed.empty] at hr
  platform := hp

theorem World.blank_overDirectory (d : Directory) : (overDirectory d).Blank where
  cache k := by cases k <;> rfl
  store := rfl
  observed := rfl

namespace Session

variable {ρ : Type} [Platform ρ] {d : Directory} {serving : ρ → Prop}

theorem tells_get (h : d.Regular) (hs : d.Serves serving) {w : World ρ TableStore}
    (hw : w.Holds d.Records serving) {e : Entity} (he : e.Plain) : d.Tells e (get w e).1 := by
  rcases get_cases w e with ⟨r, hr, hg⟩ | ⟨-, ⟨r, hr, hg⟩ | ⟨-, ⟨r, hr, hg⟩ | ⟨err, hr, hg⟩⟩⟩
  · obtain ⟨⟨key, value, x⟩, ha, rfl, rfl⟩ := Cache.mem_of_get hr
    rw [hg]
    exact h.tells_record he (hw.cache e.kind _ ha)
  · rw [hg]
    exact h.tells_record (x := none) he (hw.observed e w.now r none hr)
  · have ht := Directory.tells_fetch hs (w := w.looked e) hw.platform e
    rw [hg]
    rwa [hr] at ht
  · have ht := Directory.tells_fetch hs (w := w.looked e) hw.platform e
    rw [hg]
    rwa [hr] at ht

/-- **A session answers what the platform does.** -/
theorem get_transparent (h : d.Regular) (hs : d.Serves serving) {w : World ρ TableStore}
    (hw : w.Blank) (hp : serving w.platform) (actions : List Action) {e : Entity} (he : e.Plain) :
    d.Tells e (get (w.run actions) e).1 :=
  tells_get h hs (World.holds_run (Directory.delivers h hs) (hw.holds hp) actions) he

/-- A directory of one group with a member in it. -/
def sampleDirectory : Directory where
  groups := [.new "g" "Group" "u"]
  roles _ := [.new "r" "Role"]
  channels := [.new "c" "g" "Channel"]
  members := [.new "g" "u" "User"]
  failingGroups := []
  failingUsers := []

/-- A member that was paged in, saved, dropped and reloaded. -/
theorem get_transparent_sample :
    sampleDirectory.Regular ∧ (World.overDirectory sampleDirectory).Blank ∧
      Entity.Plain (.member ⟨"g", "u"⟩) ∧
      sampleDirectory.Tells (.member ⟨"g", "u"⟩)
        (get ((World.overDirectory sampleDirectory).run
          [.fillMembers ⟨.standard, true⟩ "g", .save, .upkeep .clear, .reload])
          (.member ⟨"g", "u"⟩)).1 := by
  have h : sampleDirectory.Regular := ⟨rfl, rfl, by decide, by decide, by decide⟩
  have hw := World.blank_overDirectory sampleDirectory
  have he : Entity.Plain (.member ⟨"g", "u"⟩) := by
    show ':' ∉ "g".toList
    decide
  exact ⟨h, hw, he, get_transparent h (Directory.serves_server _) hw rfl _ he⟩

end Session

end Roster
