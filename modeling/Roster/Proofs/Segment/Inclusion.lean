import Mathlib.Data.List.Induction
import Roster.Proofs.Segment.Calls

/-!
# More room loses no hit

Two segments that differ in their limits take the same calls at the same instants.

* `SegmentCall.isSequential` — the calls whose effect does not depend on whether a key is absent.
* `Segment.Nested` — the entries of the smaller segment are among those of the larger one, in the
  same order, and the larger one has no more entries over than it has room over.
  `sublist_take_take`: so evictions keep this.
* `Segment.Includes` — the invariant of the two segments; `Includes.call`: one call keeps it.
* `Segment.inclusion` — **after every run the larger segment has every hit of the smaller one**.
-/

set_option autoImplicit false

namespace Roster

/-- Everything but conditional writes, restored entries and changes of the limit. -/
def SegmentCall.isSequential {α : Type} : SegmentCall α → Bool
  | .insertUnlessLive _ _ => false
  | .restore _ _ _ => false
  | .withLimit _ => false
  | _ => true

namespace Segment

variable {α : Type}

/-! ## Lists -/

/-- A list in another one, of which no more is cut off than of the first. -/
theorem sublist_take_take {β : Type} {l l' : List β} (h : l.Sublist l') {a b : Nat}
    (hlen : l'.length + a ≤ l.length + b) : (l.take a).Sublist (l'.take b) := by
  induction h generalizing a b with
  | slnil => simp
  | @cons l l' x hs ih =>
    have hle := hs.length_le
    rw [List.length_cons] at hlen
    cases b with
    | zero => omega
    | succ b =>
      rw [List.take_succ_cons]
      exact (ih (by omega)).cons x
  | @cons_cons l l' x hs ih =>
    have hle := hs.length_le
    rw [List.length_cons, List.length_cons] at hlen
    cases a with
    | zero => exact List.nil_sublist _
    | succ a =>
      cases b with
      | zero => omega
      | succ b =>
        rw [List.take_succ_cons, List.take_succ_cons]
        exact (ih (by omega)).cons_cons x

/-- A filter takes no more from a list than from one that it is in. -/
theorem length_add_length_filter_le {β : Type} {l l' : List β} (h : l.Sublist l') (p : β → Bool) :
    l.length + (l'.filter p).length ≤ l'.length + (l.filter p).length := by
  induction h with
  | slnil => exact Nat.le_refl _
  | @cons l l' x _ ih =>
    have hx : (List.filter p (x :: l')).length ≤ (l'.filter p).length + 1 := by
      rw [List.filter_cons]
      split <;> simp
    rw [List.length_cons]
    omega
  | @cons_cons l l' x _ ih =>
    rw [List.filter_cons, List.filter_cons, List.length_cons, List.length_cons]
    split
    · rw [List.length_cons, List.length_cons]
      omega
    · omega

/-! ## Entries of two segments -/

/-- The entries of a segment of limit `n` among those of one of limit `m`, where zero is no limit. -/
structure Nested (n m : Nat) (small large : List (Entry α)) : Prop where
  sub : small.Sublist large
  fits : small.length ≤ n
  room : m = 0 ∨ large.length + n ≤ small.length + m

namespace Nested

variable {n m : Nat} {small large : List (Entry α)}

theorem filter (h : Nested n m small large) (p : Entry α → Bool) :
    Nested n m (small.filter p) (large.filter p) where
  sub := h.sub.filter p
  fits := by
    have := List.length_filter_le p small
    have := h.fits
    omega
  room := by
    have := length_add_length_filter_le h.sub p
    rcases h.room with hm | hroom
    · exact .inl hm
    · right
      omega

/-- The larger list alone moves or drops entries that the smaller one does not have. -/
theorem large_only (h : Nested n m small large) {large' : List (Entry α)} (hs : small.Sublist large')
    (hlen : large'.length ≤ large.length) : Nested n m small large' where
  sub := hs
  fits := h.fits
  room := by
    rcases h.room with hm | hroom
    · exact .inl hm
    · right
      omega

/-- An entry comes to the front of both lists: of the smaller one after room was made, of the larger one in
place of another. -/
theorem cons_of_present (h : Nested n m small large) (hn : 0 < n) {e : Entry α}
    {small' large' : List (Entry α)} (hs : small'.Sublist large')
    (hsmall : small'.length + 1 = small.length ∨ small'.length = min (n - 1) small.length)
    (hlarge : large'.length + 1 = large.length) : Nested n m (e :: small') (e :: large') where
  sub := hs.cons_cons e
  fits := by
    have := h.fits
    rw [List.length_cons]
    omega
  room := by
    have := h.fits
    rw [List.length_cons, List.length_cons]
    rcases h.room with hm | hroom
    · exact .inl hm
    · right
      omega

/-- An entry comes to the front of both lists after room was made in both. -/
theorem cons_of_absent (h : Nested n m small large) (hn : 0 < n) (e : Entry α) :
    Nested n m (e :: small.take (n - 1)) (e :: if m = 0 then large else large.take (m - 1)) where
  sub := by
    refine List.Sublist.cons_cons e ?_
    split
    · exact (List.take_sublist _ _).trans h.sub
    · rename_i hm0
      have hroom := h.room.resolve_left hm0
      exact sublist_take_take h.sub (by omega)
  fits := by
    rw [List.length_cons, List.length_take]
    omega
  room := by
    rcases Nat.eq_zero_or_pos m with hm0 | hpos
    · exact .inl hm0
    · right
      have hroom := h.room.resolve_left (Nat.ne_of_gt hpos)
      rw [if_neg (Nat.ne_of_gt hpos), List.length_cons, List.length_cons, List.length_take,
        List.length_take]
      omega

end Nested

/-! ## One call -/

/-- What holds between a segment and one with more room. -/
structure Includes (small large : Segment α) : Prop where
  entries : Nested small.limit large.limit small.entries.list large.entries.list
  ttl : small.ttlMillis = large.ttlMillis
  hits : small.hits ≤ large.hits
  positive : 0 < small.limit
  limits : large.limit = 0 ∨ small.limit ≤ large.limit

namespace Includes

variable {small large : Segment α}

theorem find? (h : Includes small large) {key : String} {e : Entry α} (hf : small.find? key = some e) :
    large.find? key = some e := by
  obtain ⟨he, hk⟩ := Entries.find?_eq_some_iff.1 hf
  exact Entries.find?_eq_some_iff.2 ⟨h.entries.sub.subset he, hk⟩

/-- What the smaller segment does not have can leave the larger one. -/
theorem sublist_filter (h : Includes small large) {key : String} (hf : small.find? key = none) :
    small.entries.list.Sublist (large.entries.list.filter fun e => e.key ≠ key) := by
  have hself : small.entries.list.filter (fun e => e.key ≠ key) = small.entries.list :=
    List.filter_eq_self.2 fun e he => decide_eq_true (Entries.key_ne_of_find?_none hf e he)
  rw [← hself]
  exact h.entries.sub.filter _

theorem filtered (h : Includes small large) (p : Entry α → Bool) : Nested small.limit large.limit
    (small.entries.list.filter p) (large.entries.list.filter p) := h.entries.filter p

/-- A read of what only the larger segment may have: the entry moves or leaves there. -/
theorem get_of_absent (h : Includes small large) {key : String} (hs : small.find? key = none)
    (now : Instant) : Includes (small.get key now).2 (large.get key now).2 := by
  have hsub := h.sublist_filter hs
  rw [get_of_find?_none hs]
  rcases large.get_cases key now with ⟨-, hg⟩ | ⟨a, ha, -, hg⟩ | ⟨a, ha, -, hg⟩
  · rw [hg]
    exact ⟨h.entries, h.ttl, h.hits, h.positive, h.limits⟩
  · have hlen := Entries.length_filter (Option.isSome_of_eq_some ha)
    have hlarge : Nested small.limit large.limit small.entries.list
        (large.entries.without key).list := by
      rw [Entries.list_without]
      exact h.entries.large_only hsub (by omega)
    rw [hg]
    exact ⟨hlarge, h.ttl, h.hits, h.positive, h.limits⟩
  · have hk := Entries.key_of_find? ha
    have hlen := Entries.length_filter (Option.isSome_of_eq_some ha)
    have hlarge : Nested small.limit large.limit small.entries.list
        (large.entries.toFront a (Entries.named_of_find? ha)).list := by
      rw [Entries.list_toFront, hk]
      refine h.entries.large_only (hsub.cons a) ?_
      rw [List.length_cons]
      omega
    rw [hg]
    exact ⟨hlarge, h.ttl, Nat.le_succ_of_le h.hits, h.positive, h.limits⟩

/-- A read of what both segments have: the entry moves in both, or leaves both. -/
theorem get_of_present (h : Includes small large) {key : String} {e : Entry α}
    (hs : small.find? key = some e) (now : Instant) :
    Includes (small.get key now).2 (large.get key now).2 := by
  have hl := h.find? hs
  have hk := Entries.key_of_find? hs
  cases hx : e.hasExpired now with
  | true =>
    have hboth : Nested small.limit large.limit (small.entries.without key).list
        (large.entries.without key).list := by
      rw [Entries.list_without, Entries.list_without]
      exact h.filtered _
    rw [get_of_expired hs hx, get_of_expired hl hx]
    exact ⟨hboth, h.ttl, h.hits, h.positive, h.limits⟩
  | false =>
    have hsmall := Entries.length_filter (Option.isSome_of_eq_some hs)
    have hlarge := Entries.length_filter (Option.isSome_of_eq_some hl)
    have hboth : Nested small.limit large.limit
        (small.entries.toFront e (Entries.named_of_find? hs)).list
        (large.entries.toFront e (Entries.named_of_find? hl)).list := by
      rw [Entries.list_toFront, Entries.list_toFront, hk]
      exact h.entries.cons_of_present h.positive (h.entries.sub.filter _) (.inl hsmall) hlarge
    rw [get_of_live hs hx, get_of_live hl hx]
    exact ⟨hboth, h.ttl, Nat.succ_le_succ h.hits, h.positive, h.limits⟩

theorem get (h : Includes small large) (key : String) (now : Instant) :
    Includes (small.get key now).2 (large.get key now).2 := by
  rcases Option.eq_none_or_eq_some (small.find? key) with hs | ⟨e, hs⟩
  · exact h.get_of_absent hs now
  · exact h.get_of_present hs now

/-- A write of a named key, as it changes the entries. -/
theorem nested_insertUntil (h : Includes small large) {key : String} (hk : key ≠ "") (value : α)
    (expiresAt : Option Instant) : Nested small.limit large.limit
      (small.insertUntil key value expiresAt).entries.list
      (large.insertUntil key value expiresAt).entries.list := by
  have hlimit : small.limit ≠ 0 := Nat.ne_of_gt h.positive
  rcases Option.eq_none_or_eq_some (small.find? key) with hs | ⟨e, hs⟩
  · rw [list_insertUntil_of_absent hk hs, if_neg hlimit]
    rcases Option.eq_none_or_eq_some (large.find? key) with hl | ⟨a, hl⟩
    · rw [list_insertUntil_of_absent hk hl]
      exact h.entries.cons_of_absent h.positive _
    · have hp := Option.isSome_of_eq_some hl
      rw [list_insertUntil_of_present hk hp]
      exact h.entries.cons_of_present h.positive ((List.take_sublist _ _).trans (h.sublist_filter hs))
        (.inr List.length_take) (Entries.length_filter hp)
  · have hps := Option.isSome_of_eq_some hs
    have hpl := Option.isSome_of_eq_some (h.find? hs)
    rw [list_insertUntil_of_present hk hps, list_insertUntil_of_present hk hpl]
    exact h.entries.cons_of_present h.positive (h.entries.sub.filter _) (.inl (Entries.length_filter hps))
      (Entries.length_filter hpl)

theorem insertUntil (h : Includes small large) (key : String) (value : α) (expiresAt : Option Instant) :
    Includes (small.insertUntil key value expiresAt) (large.insertUntil key value expiresAt) := by
  by_cases hk : key = ""
  · rw [show small.insertUntil key value expiresAt = small from dif_pos hk,
      show large.insertUntil key value expiresAt = large from dif_pos hk]
    exact h
  · obtain ⟨hn, ht, hh⟩ := small.insertUntil_keeps key value expiresAt
    obtain ⟨hm, ht', hh'⟩ := large.insertUntil_keeps key value expiresAt
    refine ⟨?_, ?_, ?_, ?_, ?_⟩
    · rw [hn, hm]
      exact h.nested_insertUntil hk value expiresAt
    · rw [ht, ht', h.ttl]
    · rw [hh, hh']
      exact h.hits
    · rw [hn]
      exact h.positive
    · rw [hn, hm]
      exact h.limits

/-- One call keeps the larger segment ahead. -/
theorem call (h : Includes small large) (now : Instant) {c : SegmentCall α}
    (hc : c.isSequential = true) : Includes (small.call now c).2 (large.call now c).2 := by
  cases c with
  | get key => exact h.get key now
  | contains key => exact h
  | peek key => exact h
  | insert key value =>
    have hexpiry : small.expiryFrom now = large.expiryFrom now := by
      rw [expiryFrom, expiryFrom, Segment.ttl, Segment.ttl, h.ttl]
    show Includes (small.insertUntil key value _) (large.insertUntil key value _)
    rw [hexpiry]
    exact h.insertUntil key value _
  | insertUntil key value expiresAt => exact h.insertUntil key value expiresAt
  | insertUnlessLive key value => cases hc
  | restore key value expiresAt => cases hc
  | erase key =>
    have hboth : Nested small.limit large.limit (small.entries.without key).list
        (large.entries.without key).list := by
      rw [Entries.list_without, Entries.list_without]
      exact h.filtered _
    exact ⟨hboth, h.ttl, h.hits, h.positive, h.limits⟩
  | clear =>
    have hboth : Nested small.limit large.limit ([] : List (Entry α)) [] :=
      ⟨List.Sublist.refl _, Nat.zero_le _, by have := h.limits; simp only [List.length_nil]; omega⟩
    exact ⟨hboth, h.ttl, h.hits, h.positive, h.limits⟩
  | sweep time => exact ⟨h.filtered _, h.ttl, h.hits, h.positive, h.limits⟩
  | withTtl ttl => exact ⟨h.entries, rfl, h.hits, h.positive, h.limits⟩
  | withLimit limit => cases hc

/-- Two empty segments that live by the same time to live. -/
theorem new (name name' : String) {settings settings' : SegmentSettings}
    (httl : settings.ttl = settings'.ttl) (hpositive : 1 ≤ settings.capacity)
    (hmore : settings'.capacity = 0 ∨ settings.capacity ≤ settings'.capacity) :
    Includes (Segment.new (α := α) name settings) (Segment.new name' settings') where
  entries := ⟨List.Sublist.refl _, Nat.zero_le _, by
    show settings'.capacity = 0 ∨ 0 + settings.capacity ≤ 0 + settings'.capacity
    omega⟩
  ttl := congrArg Roster.ttlMillis httl
  hits := Nat.le_refl 0
  positive := hpositive
  limits := hmore

/-- The induction adds the calls at the end of the run. -/
theorem calls (h : Includes small large) (cs : List (Instant × SegmentCall α))
    (hcs : ∀ c ∈ cs, c.2.isSequential = true) : Includes (small.calls cs) (large.calls cs) := by
  induction cs using List.reverseRecOn with
  | nil => exact h
  | append_singleton cs c ih =>
    have hinit := ih fun c' hc' => hcs c' (List.mem_append_left _ hc')
    have hlast := hcs c (List.mem_append_right _ List.mem_cons_self)
    rw [calls_concat, calls_concat]
    exact hinit.call c.1 hlast

theorem live? (h : Includes small large) {key : String} {now : Instant} {e : Entry α}
    (he : small.live? key now = some e) : large.live? key now = some e := by
  obtain ⟨hf, hx⟩ := Option.filter_eq_some_iff.1 he
  exact Option.filter_eq_some_iff.2 ⟨h.find? hf, hx⟩

end Includes

/-! ## Runs -/

/-- A segment offers all that another one does. -/
structure Offers (small large : Segment α) : Prop where
  /-- The entries of the smaller one, expiries included, are there in the same order. -/
  entries : small.entries.list.Sublist large.entries.list
  get : ∀ key now value, (small.get key now).1 = some value → (large.get key now).1 = some value
  peek : ∀ key now value, small.peek key now = some value → large.peek key now = some value
  contains : ∀ key now, small.contains key now = true → large.contains key now = true
  hits : small.hits ≤ large.hits

theorem Includes.offers {small large : Segment α} (h : Includes small large) : Offers small large where
  entries := h.entries.sub
  get key now value hv := by
    rcases small.get_cases key now with ⟨-, hg⟩ | ⟨e, -, -, hg⟩ | ⟨e, he, hx, hg⟩
    · rw [hg] at hv
      cases hv
    · rw [hg] at hv
      cases hv
    · rw [hg] at hv
      rw [get_of_live (h.find? he) hx]
      exact hv
  peek key now value hv := by
    obtain ⟨e, he, rfl⟩ := Option.map_eq_some_iff.1 hv
    exact Option.map_eq_some_iff.2 ⟨e, h.live? he, rfl⟩
  contains key now hc := by
    obtain ⟨e, he⟩ := Option.isSome_iff_exists.1 hc
    exact Option.isSome_of_eq_some (h.live? he)
  hits := h.hits

/-- **More room loses no hit**, along every run of calls at any instants. -/
theorem inclusion (name name' : String) {settings settings' : SegmentSettings}
    (httl : settings.ttl = settings'.ttl) (hpositive : 1 ≤ settings.capacity)
    (hmore : settings'.capacity = 0 ∨ settings.capacity ≤ settings'.capacity)
    (cs : List (Instant × SegmentCall α)) (hcs : ∀ c ∈ cs, c.2.isSequential = true) :
    Offers ((new name settings).calls cs) ((new name' settings').calls cs) :=
  ((Includes.new name name' httl hpositive hmore).calls cs hcs).offers

/-- Two keys where there is room for one, and where there is room for both. -/
def sampleCalls : List (Instant × SegmentCall Nat) :=
  [(.epoch, .insert "a" 1), (.epoch, .insert "b" 2), (.epoch, .get "a")]

theorem inclusion_sample :
    (SegmentSettings.ofCapacity 1).ttl = (SegmentSettings.ofCapacity 2).ttl ∧
      1 ≤ (SegmentSettings.ofCapacity 1).capacity ∧
      ((SegmentSettings.ofCapacity 2).capacity = 0 ∨
        (SegmentSettings.ofCapacity 1).capacity ≤ (SegmentSettings.ofCapacity 2).capacity) ∧
      (∀ c ∈ sampleCalls, c.2.isSequential = true) ∧
      Offers ((new "one" (.ofCapacity 1)).calls sampleCalls)
        ((new "two" (.ofCapacity 2)).calls sampleCalls) := by
  have httl : (SegmentSettings.ofCapacity 1).ttl = (SegmentSettings.ofCapacity 2).ttl := rfl
  have hpositive : 1 ≤ (SegmentSettings.ofCapacity 1).capacity := Nat.le_refl 1
  have hmore : (SegmentSettings.ofCapacity 2).capacity = 0 ∨
      (SegmentSettings.ofCapacity 1).capacity ≤ (SegmentSettings.ofCapacity 2).capacity :=
    .inr (Nat.le_succ 1)
  have hcs : ∀ c ∈ sampleCalls, c.2.isSequential = true := by
    intro c hc
    simp only [sampleCalls, List.mem_cons, List.not_mem_nil, or_false] at hc
    rcases hc with rfl | rfl | rfl <;> rfl
  exact ⟨httl, hpositive, hmore, hcs, inclusion "one" "two" httl hpositive hmore sampleCalls hcs⟩

end Segment

end Roster
