import Roster.Cache.Basic
import Roster.Proofs.Record.MemberKey
import Roster.Proofs.Segment.Independence

/-!
# Which memberships the cache tells apart

The memberships of a cache are held under their texts, and two memberships may share one.

* `MemberCall`, `Cache.memberCalls` — the operations on memberships as data, and a run of them.
* `Cache.membership` — what a read of a membership returns.  `membership_concerning`: **in a run only the calls
  under its key count** when memberships have no limit.
* `Cache.membership_insert`, `membership_erase` — what a write and a removal of one
  membership do to a read of another.
* `Cache.membership_untouched_iff` — **a membership is out of reach of another** exactly when the two do not
  differ in where the group id ends.  `memberships_collide`: otherwise they are taken for each other.
-/

set_option autoImplicit false

namespace Roster

/-- An entry is live when it is written. -/
theorem Segment.hasExpired_new {α : Type} (s : Segment α) (key : String) (value : α) (now : Instant) :
    (⟨key, value, s.expiryFrom now⟩ : Entry α).hasExpired now = false := by
  unfold Entry.hasExpired
  dsimp only
  split
  · rfl
  · rename_i expiry hexpiry
    obtain ⟨ttl, httl, hadd⟩ := Option.bind_eq_some_iff.1 hexpiry
    have hexpiry := Instant.add?_eq_some.1 hadd
    have hpos : 0 < ttl.nanos := by
      unfold Segment.ttl at httl
      split at httl
      · cases httl
      · rename_i hne
        cases httl
        exact Nat.mul_pos (Nat.pos_of_ne_zero hne) (by decide)
    apply decide_eq_false
    rw [Instant.le_def]
    omega

/-- A read returns what a look does. -/
theorem Segment.fst_get {α : Type} (s : Segment α) (key : String) (now : Instant) :
    (s.get key now).1 = s.peek key now := by
  unfold peek live?
  rcases s.get_cases key now with ⟨hfind, hg⟩ | ⟨e, hfind, hx, hg⟩ | ⟨e, hfind, hx, hg⟩
  · simp [hg, hfind]
  · simp [hg, hfind, Option.filter, hx]
  · simp [hg, hfind, Option.filter, hx]

namespace MemberId

/-- Both ids are there. -/
def Named (id : MemberId) : Prop := id.group ≠ "" ∧ id.user ≠ ""

instance (id : MemberId) : Decidable id.Named := inferInstanceAs (Decidable (_ ∧ _))

theorem Named.key_eq {id : MemberId} (h : id.Named) : id.key = id.text := if_neg (not_or.2 h)

theorem Named.key_ne {id : MemberId} (h : id.Named) : id.key ≠ "" := by
  rw [h.key_eq]
  exact id.text_ne_empty

theorem key_of_unnamed {id : MemberId} (h : ¬id.Named) : id.key = "" := by
  apply if_pos
  simpa [Named, or_iff_not_imp_left] using h

end MemberId

/-- A call about a membership. -/
inductive MemberCall where
  | get (id : MemberId)
  | insert (id : MemberId) (m : Member)
  | erase (id : MemberId)

namespace MemberCall

def id : MemberCall → MemberId
  | .get id => id
  | .insert id _ => id
  | .erase id => id

/-- The same call of the segment that holds the memberships. -/
def onSegment : MemberCall → SegmentCall Member
  | .get id => .get id.key
  | .insert id m => .insert id.key m
  | .erase id => .erase id.key

theorem limits_onSegment (call : MemberCall) : call.onSegment.limits = false := by
  cases call <;> rfl

theorem concerns_onSegment (call : MemberCall) (key : String) :
    call.onSegment.concerns key = decide (call.id.key = key) := by
  cases call <;> rfl

end MemberCall

namespace Cache

variable {c : Cache}

/-- The cache after a call at an instant. -/
def memberCall (c : Cache) (now : Instant) : MemberCall → Cache
  | .get id => (c.get (.member id) now).2
  | .insert id m => c.insert (.member id) m now
  | .erase id => c.erase (.member id)

/-- The cache after calls at their instants, whichever way the clock goes. -/
def memberCalls (c : Cache) (cs : List (Instant × MemberCall)) : Cache :=
  cs.foldl (fun c x => c.memberCall x.1 x.2) c

/-- What a read of a membership returns. -/
def membership (c : Cache) (id : MemberId) (now : Instant) : Option Member := (c.get (.member id) now).1

theorem membership_eq (c : Cache) (id : MemberId) (now : Instant) :
    c.membership id now = c.members.peek id.key now := c.members.fst_get id.key now

/-- No read finds a membership without a key. -/
theorem membership_of_unnamed {id : MemberId} (h : ¬id.Named) (c : Cache) (now : Instant) :
    c.membership id now = none := by
  rw [membership_eq, MemberId.key_of_unnamed h, Segment.peek, Segment.live?, Segment.find?_empty_key]
  rfl

/-! ## Runs -/

theorem members_memberCall (c : Cache) (now : Instant) (call : MemberCall) :
    (c.memberCall now call).members = (c.members.call now call.onSegment).2 := by
  cases call <;> rfl

theorem members_memberCalls (c : Cache) (cs : List (Instant × MemberCall)) :
    (c.memberCalls cs).members = c.members.calls (cs.map fun x => (x.1, x.2.onSegment)) := by
  induction cs generalizing c with
  | nil => rfl
  | cons x cs ih =>
    show ((c.memberCall x.1 x.2).memberCalls cs).members = _
    rw [ih, members_memberCall]
    rfl

theorem limit_memberCalls (h : c.members.limit = 0) (cs : List (Instant × MemberCall)) :
    (c.memberCalls cs).members.limit = 0 := by
  induction cs generalizing c with
  | nil => exact h
  | cons x cs ih =>
    apply ih
    rw [members_memberCall]
    exact Segment.unlimited_call h x.2.limits_onSegment x.1

/-- **What a membership reads as after a run** depends on the calls under its key alone. -/
theorem membership_concerning (h : c.members.limit = 0) (id : MemberId) (cs : List (Instant × MemberCall))
    (now : Instant) :
    (c.memberCalls cs).membership id now =
      (c.memberCalls (cs.filter fun x => x.2.id.key = id.key)).membership id now := by
  have hlimits : ∀ x ∈ cs.map fun x => (x.1, x.2.onSegment), x.2.limits = false := by
    intro x hx
    obtain ⟨y, -, rfl⟩ := List.mem_map.1 hx
    exact y.2.limits_onSegment
  have hsame := Segment.calls_concerning (Segment.SameUnder.refl h id.key) hlimits
  have hfilter : ((cs.map fun x => (x.1, x.2.onSegment)).filter fun x => x.2.concerns id.key) =
      (cs.filter fun x => x.2.id.key = id.key).map fun x => (x.1, x.2.onSegment) := by
    simp only [List.filter_map, Function.comp_def, MemberCall.concerns_onSegment]
  rw [hfilter] at hsame
  rw [membership_eq, membership_eq, members_memberCalls, members_memberCalls, Segment.peek, Segment.peek,
    hsame.live?]

/-! ## Two memberships -/

/-- A read of one membership after a write of another. -/
theorem membership_insert (h : c.members.limit = 0) {a b : MemberId} (hb : b.key ≠ "") (m : Member)
    (written now : Instant) :
    (c.insert (.member b) m written).membership a now =
      if b.key = a.key then
        (some (⟨b.key, m, c.members.expiryFrom written⟩ : Entry Member)).filter (fun e => !e.hasExpired now)
          |>.map Entry.value
      else c.membership a now := by
  rw [membership_eq, membership_eq, Segment.peek, Segment.peek, Segment.live?]
  have hfind := Segment.find?_insertUntil h b.key a.key m (c.members.expiryFrom written)
  have hfind : (c.insert (.member b) m written).members.find? a.key = _ := hfind
  rw [hfind]
  by_cases hkey : b.key = a.key
  · rw [if_pos ⟨hkey, hb⟩, if_pos hkey]
  · rw [if_neg fun hboth => hkey hboth.1, if_neg hkey]
    rfl

/-- A read of one membership after a removal of another. -/
theorem membership_erase (c : Cache) (a b : MemberId) (now : Instant) :
    (c.erase (.member b)).membership a now = if b.key = a.key then none else c.membership a now := by
  rw [membership_eq, membership_eq, Segment.peek, Segment.peek, Segment.live?]
  have hfind : (c.erase (.member b)).members.find? a.key = _ := c.members.find?_erase b.key a.key
  rw [hfind]
  split <;> rfl

/-- Right after a write, a membership of the same key reads as what was written. -/
theorem membership_insert_of_key_eq (h : c.members.limit = 0) {a b : MemberId} (hb : b.key ≠ "")
    (hkey : b.key = a.key) (m : Member) (now : Instant) :
    (c.insert (.member b) m now).membership a now = some m := by
  rw [membership_insert h hb, if_pos hkey, Option.filter_some, c.members.hasExpired_new]
  rfl

/-- **A membership is out of reach of another**, after any run: writes and removals of the one leave what a read
of the other returns, exactly when it is another one and they do not differ in where the group id ends. -/
theorem membership_untouched_iff (h : c.members.limit = 0) {a b : MemberId} (ha : a.Named) (hb : b.Named) :
    (∀ cs written now,
      (∀ m, ((c.memberCalls cs).insert (.member b) m written).membership a now =
        (c.memberCalls cs).membership a now) ∧
      ((c.memberCalls cs).erase (.member b)).membership a now = (c.memberCalls cs).membership a now) ↔
    a ≠ b ∧ ¬a.Splits b ∧ ¬b.Splits a := by
  have hapart : a ≠ b ∧ ¬a.Splits b ∧ ¬b.Splits a ↔ b.key ≠ a.key := by
    rw [ha.key_eq, hb.key_eq, ne_comm (a := b.text), ne_eq a.text, MemberId.text_eq_iff, not_or, not_or]
  rw [hapart]
  constructor
  · intro hall hkey
    -- Two different records, each of which the read would have to return.
    have hreads (m : Member) : some m = c.membership a .epoch :=
      (membership_insert_of_key_eq h hb.key_ne hkey m .epoch).symm.trans ((hall [] .epoch .epoch).1 m)
    have hsame := (hreads (.new "g" "u" "old")).trans (hreads (.new "g" "u" "new")).symm
    exact absurd (congrArg Member.username (Option.some.inj hsame)) (by decide)
  · intro hkey cs written now
    constructor
    · intro m
      rw [membership_insert (limit_memberCalls h cs) hb.key_ne, if_neg hkey]
    · rw [membership_erase, if_neg hkey]

/-- A cache that holds any number of memberships. -/
def unboundedMembers : Cache := .new { CacheSettings.standard with members := ⟨0, none⟩ } false false .zero

theorem membership_untouched_sample :
    unboundedMembers.members.limit = 0 ∧ MemberId.Named ⟨"g", "u"⟩ ∧ MemberId.Named ⟨"g", "v"⟩ ∧
      ((∀ cs written now,
        (∀ m, ((unboundedMembers.memberCalls cs).insert (.member ⟨"g", "v"⟩) m written).membership
          ⟨"g", "u"⟩ now =
          (unboundedMembers.memberCalls cs).membership ⟨"g", "u"⟩ now) ∧
        ((unboundedMembers.memberCalls cs).erase (.member ⟨"g", "v"⟩)).membership ⟨"g", "u"⟩ now =
          (unboundedMembers.memberCalls cs).membership ⟨"g", "u"⟩ now) ↔
      MemberId.mk "g" "u" ≠ ⟨"g", "v"⟩ ∧ ¬MemberId.Splits ⟨"g", "u"⟩ ⟨"g", "v"⟩ ∧
        ¬MemberId.Splits ⟨"g", "v"⟩ ⟨"g", "u"⟩) := by
  have hu : MemberId.Named ⟨"g", "u"⟩ := by decide
  have hv : MemberId.Named ⟨"g", "v"⟩ := by decide
  exact ⟨rfl, hu, hv, membership_untouched_iff rfl hu hv⟩

/-- Two memberships that are taken for each other: a write of the second is what a read of the first returns,
and a removal of the second is one of the first. -/
theorem memberships_collide :
    ¬∀ c : Cache, c.members.limit = 0 → ∀ a b : MemberId, a.Named → b.Named → a ≠ b → ∀ cs written now,
      (∀ m, ((c.memberCalls cs).insert (.member b) m written).membership a now =
        (c.memberCalls cs).membership a now) ∧
      ((c.memberCalls cs).erase (.member b)).membership a now = (c.memberCalls cs).membership a now := by
  intro hall
  let a : MemberId := ⟨"a", "b:c"⟩
  let b : MemberId := ⟨"a:b", "c"⟩
  let first : Member := .new "a" "b:c" "first"
  have hkey : b.key = a.key := by decide
  have herased := (hall unboundedMembers rfl a b (by decide) (by decide) (by decide)
    [(.epoch, .insert a first)] .epoch .epoch).2
  rw [membership_erase, if_pos hkey] at herased
  have hread : (unboundedMembers.memberCalls [(.epoch, .insert a first)]).membership a .epoch = some first :=
    membership_insert_of_key_eq rfl (by decide) rfl first .epoch
  rw [hread] at herased
  cases herased

end Cache

end Roster
