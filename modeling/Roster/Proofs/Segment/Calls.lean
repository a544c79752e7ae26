import Mathlib.Logic.Function.Iterate
import Roster.Proofs.Segment.Contents

/-!
# Calls of a segment

* `SegmentCall`, `Segment.call` — the operations of a segment as data, and what each replies and does.
* `Segment.evict` — one eviction.  `keepRecent_eq_iterate`: the segment makes room by
  one eviction after the other.
* `Segment.size_call`, `ttlMillis_call`, `limit_call` — what a call does to the count and to the settings.
* `Segment.Step`, `Segment.trace` — the calls of a run with the segment that each of
  them met, the last one first.
* `Step.cases` — everything a step can do to the entries: drop some, or bring one entry to the front.
-/

set_option autoImplicit false

namespace Roster

/-- An operation of a segment. -/
inductive SegmentCall (α : Type) where
  | get (key : String)
  | contains (key : String)
  | peek (key : String)
  | insert (key : String) (value : α)
  | insertUntil (key : String) (value : α) (expiresAt : Option Instant)
  | insertUnlessLive (key : String) (value : α)
  | restore (key : String) (value : α) (expiresAt : Option Instant)
  | erase (key : String)
  | clear
  | sweep (time : Instant)
  | withTtl (ttl : Option Duration)
  | withLimit (limit : Nat)

/-- The entry that a write brings in, if it has an effect and the segment's time to live gives this expiry. -/
def SegmentCall.entry? {α : Type} (expiresAt : Option Instant) : SegmentCall α → Option (Entry α)
  | .insert key value => some ⟨key, value, expiresAt⟩
  | .insertUntil key value expiresAt => some ⟨key, value, expiresAt⟩
  | .insertUnlessLive key value => some ⟨key, value, expiresAt⟩
  | .restore key value expiresAt => some ⟨key, value, expiresAt⟩
  | _ => none

/-- What an operation of a segment replies. -/
inductive SegmentReply (α : Type) where
  | done
  | found (value : Option α)
  | told (flag : Bool)
  | counted (n : Nat)

namespace Segment

variable {α : Type}

/-- The reply to a call at an instant, and the segment after it. -/
def call (s : Segment α) (now : Instant) : SegmentCall α → SegmentReply α × Segment α
  | .get key => (.found (s.get key now).1, (s.get key now).2)
  | .contains key => (.told (s.contains key now), s)
  | .peek key => (.found (s.peek key now), s)
  | .insert key value => (.done, s.insert key value now)
  | .insertUntil key value expiresAt => (.done, s.insertUntil key value expiresAt)
  | .insertUnlessLive key value =>
    (.told (s.insertUnlessLive key value now).1, (s.insertUnlessLive key value now).2)
  | .restore key value expiresAt =>
    (.told (s.restore key value expiresAt).1, (s.restore key value expiresAt).2)
  | .erase key => (.told (s.erase key).1, (s.erase key).2)
  | .clear => (.done, s.clear)
  | .sweep time => (.counted (s.sweep time).1, (s.sweep time).2)
  | .withTtl ttl => (.done, s.withTtl ttl)
  | .withLimit limit => (.done, s.withLimit limit)

/-- The segment after calls at their instants, whichever way the clock goes. -/
def calls (s : Segment α) (cs : List (Instant × SegmentCall α)) : Segment α :=
  cs.foldl (fun s c => (s.call c.1 c.2).2) s

theorem calls_concat (s : Segment α) (cs : List (Instant × SegmentCall α)) (c : Instant × SegmentCall α) :
    s.calls (cs ++ [c]) = ((s.calls cs).call c.1 c.2).2 := by
  rw [calls, List.foldl_append]
  rfl

/-! ## Evictions -/

/-- Evict the entry that was not used for longest. -/
def evict (s : Segment α) : Segment α := s.keepRecent (s.entries.size - 1)

theorem keepRecent_keepRecent (s : Segment α) {m n : Nat} (h : m ≤ n) :
    (s.keepRecent n).keepRecent m = s.keepRecent m := by
  have hentries : (s.entries.take n).take m = s.entries.take m := by
    apply Entries.ext
    show (s.entries.list.take n).take m = s.entries.list.take m
    rw [List.take_take, Nat.min_eq_left h]
  have hevictions : s.evictions + (s.entries.size - n) + ((s.entries.take n).size - m) =
      s.evictions + (s.entries.size - m) := by
    have hsize : (s.entries.take n).size = min n s.entries.size := List.length_take
    omega
  simp only [keepRecent, hentries, hevictions]

theorem keepRecent_size (s : Segment α) : s.keepRecent s.entries.size = s := by
  have hentries : s.entries.take s.entries.size = s.entries := Entries.ext List.take_length
  simp only [keepRecent, hentries, Nat.sub_self, Nat.add_zero]

/-- So many evictions one after the other. -/
theorem iterate_evict (s : Segment α) (n : Nat) :
    evict^[n] s = s.keepRecent (s.entries.size - n) := by
  induction n with
  | zero => exact s.keepRecent_size.symm
  | succ n ih =>
    have hsize := entries_size_keepRecent s (s.entries.size - n)
    rw [Function.iterate_succ_apply', ih, evict, keepRecent_keepRecent s (by omega)]
    congr 1
    omega

/-- The segment makes room by one eviction after the other. -/
theorem keepRecent_eq_iterate {s : Segment α} {n : Nat} (h : n ≤ s.entries.size) :
    s.keepRecent n = evict^[s.entries.size - n] s := by
  rw [iterate_evict]
  congr 1
  omega

/-! ## Counting and timing -/

theorem size_toFront {s : Segment α} (h : s.size = s.entries.size) {e : Entry α} (hk : e.key ≠ "")
    (hp : (s.find? e.key).isSome = true) : (s.toFront e hk).size = (s.toFront e hk).entries.size := by
  show s.size = (s.entries.toFront e hk).list.length
  rw [h, Entries.length_toFront hp]
  rfl

theorem size_get {s : Segment α} (h : s.size = s.entries.size) (key : String) (now : Instant) :
    (s.get key now).2.size = (s.get key now).2.entries.size := by
  rcases s.get_cases key now with ⟨-, hg⟩ | ⟨e, -, -, hg⟩ | ⟨e, he, -, hg⟩
  · rw [hg]
    exact h
  · rw [hg]
    rfl
  · have hp : (s.find? e.key).isSome = true := by rw [Entries.key_of_find? he, he]; rfl
    rw [hg]
    exact size_toFront h (Entries.named_of_find? he) hp

theorem size_insertUntil {s : Segment α} (h : s.size = s.entries.size) (key : String) (value : α)
    (expiresAt : Option Instant) :
    (s.insertUntil key value expiresAt).size = (s.insertUntil key value expiresAt).entries.size := by
  rcases s.insertUntil_cases key value expiresAt with ⟨-, hi⟩ | ⟨hk, hp, hi⟩ | ⟨hk, -, hi⟩
  · rw [hi]
    exact h
  · rw [hi]
    exact size_toFront h hk hp
  · rw [hi]
    rfl

theorem size_insertUnlessLive {s : Segment α} (h : s.size = s.entries.size) (key : String) (value : α)
    (now : Instant) : (s.insertUnlessLive key value now).2.size =
      (s.insertUnlessLive key value now).2.entries.size := by
  rcases s.insertUnlessLive_cases key value now with ⟨-, hi⟩ | ⟨e, -, -, hi⟩ | ⟨hk, -, hi⟩
  · rw [hi]
    exact h
  · rw [hi]
    exact h
  · rw [hi]
    rfl

theorem size_restore {s : Segment α} (h : s.size = s.entries.size) (key : String) (value : α)
    (expiresAt : Option Instant) : (s.restore key value expiresAt).2.size =
      (s.restore key value expiresAt).2.entries.size := by
  rcases s.restore_cases key value expiresAt with ⟨-, hi⟩ | ⟨hk, -, hi⟩
  · rw [hi]
    exact h
  · rw [hi]
    rfl

theorem size_withLimit {s : Segment α} (h : s.size = s.entries.size) (limit : Nat) :
    (s.withLimit limit).size = (s.withLimit limit).entries.size := by
  unfold withLimit
  dsimp only
  split
  · exact h
  · rfl

/-- A count that was right stays right. -/
theorem size_call {s : Segment α} (h : s.size = s.entries.size) (now : Instant) (c : SegmentCall α) :
    (s.call now c).2.size = (s.call now c).2.entries.size := by
  cases c with
  | get key => exact size_get h key now
  | contains key => exact h
  | peek key => exact h
  | insert key value => exact size_insertUntil h key value _
  | insertUntil key value expiresAt => exact size_insertUntil h key value expiresAt
  | insertUnlessLive key value => exact size_insertUnlessLive h key value now
  | restore key value expiresAt => exact size_restore h key value expiresAt
  | erase key => rfl
  | clear => rfl
  | sweep time => rfl
  | withTtl ttl => exact h
  | withLimit limit => exact size_withLimit h limit

/-- Only a call that sets the time to live changes it. -/
theorem ttlMillis_call (s : Segment α) (now : Instant) (c : SegmentCall α) :
    (s.call now c).2.ttlMillis =
      match c with
      | .withTtl ttl => Roster.ttlMillis ttl
      | _ => s.ttlMillis := by
  cases c with
  | get key =>
    show (s.get key now).2.ttlMillis = s.ttlMillis
    rcases s.get_cases key now with ⟨-, hg⟩ | ⟨e, -, -, hg⟩ | ⟨e, he, -, hg⟩ <;> rw [hg] <;> rfl
  | contains key => rfl
  | peek key => rfl
  | insert key value => exact (s.insertUntil_keeps key value _).2.1
  | insertUntil key value expiresAt => exact (s.insertUntil_keeps key value expiresAt).2.1
  | insertUnlessLive key value =>
    show (s.insertUnlessLive key value now).2.ttlMillis = s.ttlMillis
    rcases s.insertUnlessLive_cases key value now with ⟨-, hi⟩ | ⟨e, -, -, hi⟩ | ⟨hk, -, hi⟩
    · rw [hi]
    · rw [hi]
    · rw [hi]
      exact (s.without key).withRoom_keeps.2.1
  | restore key value expiresAt =>
    show (s.restore key value expiresAt).2.ttlMillis = s.ttlMillis
    rcases s.restore_cases key value expiresAt with ⟨-, hi⟩ | ⟨hk, -, hi⟩
    · rw [hi]
    · rw [hi]
      rfl
  | erase key => rfl
  | clear => rfl
  | sweep time => rfl
  | withTtl ttl => rfl
  | withLimit limit =>
    show (s.withLimit limit).ttlMillis = s.ttlMillis
    unfold withLimit
    dsimp only
    split <;> rfl

/-- Only a call that sets the limit changes it. -/
theorem limit_call (s : Segment α) (now : Instant) (c : SegmentCall α) :
    (s.call now c).2.limit =
      match c with
      | .withLimit limit => limit
      | _ => s.limit := by
  cases c with
  | get key =>
    show (s.get key now).2.limit = s.limit
    rcases s.get_cases key now with ⟨-, hg⟩ | ⟨e, -, -, hg⟩ | ⟨e, he, -, hg⟩ <;> rw [hg] <;> rfl
  | contains key => rfl
  | peek key => rfl
  | insert key value => exact (s.insertUntil_keeps key value _).1
  | insertUntil key value expiresAt => exact (s.insertUntil_keeps key value expiresAt).1
  | insertUnlessLive key value =>
    show (s.insertUnlessLive key value now).2.limit = s.limit
    rcases s.insertUnlessLive_cases key value now with ⟨-, hi⟩ | ⟨e, -, -, hi⟩ | ⟨hk, -, hi⟩
    · rw [hi]
    · rw [hi]
    · rw [hi]
      exact (s.without key).withRoom_keeps.1
  | restore key value expiresAt =>
    show (s.restore key value expiresAt).2.limit = s.limit
    rcases s.restore_cases key value expiresAt with ⟨-, hi⟩ | ⟨hk, -, hi⟩
    · rw [hi]
    · rw [hi]
      rfl
  | erase key => rfl
  | clear => rfl
  | sweep time => rfl
  | withTtl ttl => rfl
  | withLimit limit =>
    show (s.withLimit limit).limit = limit
    unfold withLimit
    dsimp only
    split <;> rfl

/-! ## Steps -/

/-- A call, and the segment that it met. -/
structure Step (α : Type) where
  before : Segment α
  now : Instant
  call : SegmentCall α

namespace Step

def reply (st : Step α) : SegmentReply α := (st.before.call st.now st.call).1

def after (st : Step α) : Segment α := (st.before.call st.now st.call).2

/-- The key that a call uses: of a read that hits, and of a write that has an effect. -/
def used? (st : Step α) : Option String :=
  match st.call, st.reply with
  | .get key, .found (some _) => some key
  | .insert key _, _ => if key = "" then none else some key
  | .insertUntil key _ _, _ => if key = "" then none else some key
  | .insertUnlessLive key _, .told true => some key
  | .restore key _ _, .told true => some key
  | _, _ => none

/-- An entry comes to the front; of the others some stay, in their order. -/
def BringsFront (before : List (Entry α)) (e : Entry α) (after : List (Entry α)) : Prop :=
  ∃ rest, after = e :: rest ∧ rest.Sublist before ∧ ∀ a ∈ rest, a.key ≠ e.key

theorem bringsFront_toFront {s : Segment α} {l : List (Entry α)} {e : Entry α} (h : e.key ≠ "")
    (hs : s.entries.list.Sublist l) : BringsFront l e (s.toFront e h).entries.list := by
  refine ⟨_, Entries.list_toFront s.entries e h, List.filter_sublist.trans hs, ?_⟩
  intro a ha
  exact of_decide_eq_true (List.mem_filter.1 ha).2

/-- What a step does to the entries when it uses no key. -/
def DropsSome (st : Step α) : Prop :=
  st.used? = none ∧ st.after.entries.list.Sublist st.before.entries.list

theorem dropsSome_of_unchanged {st : Step α} (hused : st.used? = none) (h : st.after = st.before) :
    st.DropsSome := by
  have hsub : st.before.entries.list.Sublist st.before.entries.list := List.Sublist.refl _
  exact ⟨hused, h ▸ hsub⟩

/-- What a step does to the entries when it uses a key: the entry in front is the one that is written, or it was
there. -/
def UsesOne (st : Step α) (e : Entry α) : Prop :=
  st.used? = some e.key ∧ BringsFront st.before.entries.list e st.after.entries.list ∧
    (st.call.entry? (st.before.expiryFrom st.now) = some e ∨
      st.call.entry? (st.before.expiryFrom st.now) = none ∧ e ∈ st.before.entries.list)

theorem used?_get (s : Segment α) (now : Instant) (key : String) :
    (⟨s, now, .get key⟩ : Step α).used? = (s.get key now).1.map fun _ => key := by
  unfold used? reply
  dsimp only [Segment.call]
  cases (s.get key now).1 <;> rfl

theorem used?_insertUnlessLive (s : Segment α) (now : Instant) (key : String) (value : α) :
    (⟨s, now, .insertUnlessLive key value⟩ : Step α).used? =
      if (s.insertUnlessLive key value now).1 then some key else none := by
  unfold used? reply
  dsimp only [Segment.call]
  cases (s.insertUnlessLive key value now).1 <;> rfl

theorem used?_restore (s : Segment α) (now : Instant) (key : String) (value : α)
    (expiresAt : Option Instant) :
    (⟨s, now, .restore key value expiresAt⟩ : Step α).used? =
      if (s.restore key value expiresAt).1 then some key else none := by
  unfold used? reply
  dsimp only [Segment.call]
  cases (s.restore key value expiresAt).1 <;> rfl

theorem cases_of_insertUntil {st : Step α} {key : String} {value : α} {expiresAt : Option Instant}
    (hused : st.used? = if key = "" then none else some key)
    (hafter : st.after = st.before.insertUntil key value expiresAt)
    (hentry : st.call.entry? (st.before.expiryFrom st.now) = some ⟨key, value, expiresAt⟩) :
    st.DropsSome ∨ ∃ e, st.UsesOne e := by
  rcases st.before.insertUntil_cases key value expiresAt with ⟨hk, hi⟩ | ⟨hk, -, hi⟩ | ⟨hk, -, hi⟩
  · rw [if_pos hk] at hused
    rw [hi] at hafter
    exact .inl ⟨hused, hafter ▸ List.Sublist.refl _⟩
  · rw [if_neg hk] at hused
    refine .inr ⟨⟨key, value, expiresAt⟩, hused, ?_, .inl hentry⟩
    rw [hafter, hi]
    exact bringsFront_toFront hk (List.Sublist.refl _)
  · rw [if_neg hk] at hused
    refine .inr ⟨⟨key, value, expiresAt⟩, hused, ?_, .inl hentry⟩
    rw [hafter, hi]
    exact bringsFront_toFront (s := st.before.withRoom) hk (sublist_withRoom _)

theorem cases_get (s : Segment α) (now : Instant) (key : String) :
    (⟨s, now, .get key⟩ : Step α).DropsSome ∨ ∃ e, (⟨s, now, .get key⟩ : Step α).UsesOne e := by
  have hused := used?_get s now key
  rcases s.get_cases key now with ⟨-, hg⟩ | ⟨e, -, -, hg⟩ | ⟨e, he, -, hg⟩
  · rw [hg] at hused
    refine .inl ⟨hused, ?_⟩
    show (s.get key now).2.entries.list.Sublist s.entries.list
    rw [hg]
    exact List.Sublist.refl _
  · rw [hg] at hused
    refine .inl ⟨hused, ?_⟩
    show (s.get key now).2.entries.list.Sublist s.entries.list
    rw [hg]
    exact sublist_without s key
  · rw [hg] at hused
    obtain ⟨hmem, hkey⟩ := Entries.find?_eq_some_iff.1 he
    refine .inr ⟨e, hused.trans (congrArg some hkey.symm), ?_, .inr ⟨rfl, hmem⟩⟩
    show BringsFront s.entries.list e (s.get key now).2.entries.list
    rw [hg]
    exact bringsFront_toFront (Entries.named_of_find? he) (List.Sublist.refl _)

theorem cases_insertUnlessLive (s : Segment α) (now : Instant) (key : String) (value : α) :
    (⟨s, now, .insertUnlessLive key value⟩ : Step α).DropsSome ∨
      ∃ e, (⟨s, now, .insertUnlessLive key value⟩ : Step α).UsesOne e := by
  have hused := used?_insertUnlessLive s now key value
  have hstays (hi : s.insertUnlessLive key value now = (false, s)) :
      (⟨s, now, .insertUnlessLive key value⟩ : Step α).DropsSome := by
    rw [hi] at hused
    exact dropsSome_of_unchanged hused (congrArg Prod.snd hi)
  rcases s.insertUnlessLive_cases key value now with ⟨-, hi⟩ | ⟨e, -, -, hi⟩ | ⟨hk, -, hi⟩
  · exact .inl (hstays hi)
  · exact .inl (hstays hi)
  · rw [hi] at hused
    refine .inr ⟨⟨key, value, s.expiryFrom now⟩, hused, ?_, .inl rfl⟩
    show BringsFront s.entries.list _ (s.insertUnlessLive key value now).2.entries.list
    rw [hi]
    exact bringsFront_toFront (s := (s.without key).withRoom) hk
      ((sublist_withRoom _).trans (sublist_without s key))

theorem cases_restore (s : Segment α) (now : Instant) (key : String) (value : α)
    (expiresAt : Option Instant) :
    (⟨s, now, .restore key value expiresAt⟩ : Step α).DropsSome ∨
      ∃ e, (⟨s, now, .restore key value expiresAt⟩ : Step α).UsesOne e := by
  have hused := used?_restore s now key value expiresAt
  rcases s.restore_cases key value expiresAt with ⟨-, hi⟩ | ⟨hk, -, hi⟩
  · rw [hi] at hused
    exact .inl (dropsSome_of_unchanged hused (congrArg Prod.snd hi))
  · rw [hi] at hused
    refine .inr ⟨⟨key, value, expiresAt⟩, hused, ?_, .inl rfl⟩
    show BringsFront s.entries.list _ (s.restore key value expiresAt).2.entries.list
    rw [hi]
    exact bringsFront_toFront hk (List.Sublist.refl _)

/-- Everything a step can do to the entries. -/
theorem cases (st : Step α) : st.DropsSome ∨ ∃ e, st.UsesOne e := by
  obtain ⟨s, now, c⟩ := st
  cases c with
  | get key => exact cases_get s now key
  | contains key => exact .inl ⟨rfl, List.Sublist.refl _⟩
  | peek key => exact .inl ⟨rfl, List.Sublist.refl _⟩
  | insert key value => exact cases_of_insertUntil rfl rfl rfl
  | insertUntil key value expiresAt => exact cases_of_insertUntil rfl rfl rfl
  | insertUnlessLive key value => exact cases_insertUnlessLive s now key value
  | restore key value expiresAt => exact cases_restore s now key value expiresAt
  | erase key => exact .inl ⟨rfl, sublist_without s key⟩
  | clear => exact .inl ⟨rfl, List.nil_sublist _⟩
  | sweep time => exact .inl ⟨rfl, List.filter_sublist⟩
  | withTtl ttl => exact .inl ⟨rfl, List.Sublist.refl _⟩
  | withLimit limit => exact .inl ⟨rfl, sublist_withLimit s limit⟩

end Step

/-- The steps of a run, the last one first. -/
def trace (s : Segment α) : List (Instant × SegmentCall α) → List (Step α)
  | [] => []
  | c :: cs => (s.call c.1 c.2).2.trace cs ++ [⟨s, c.1, c.2⟩]

theorem trace_concat (s : Segment α) (cs : List (Instant × SegmentCall α))
    (c : Instant × SegmentCall α) : s.trace (cs ++ [c]) = ⟨s.calls cs, c.1, c.2⟩ :: s.trace cs := by
  induction cs generalizing s with
  | nil => rfl
  | cons c' cs ih =>
    rw [List.cons_append, trace, ih]
    rfl

end Segment

end Roster
