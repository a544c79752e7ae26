import Roster.Proofs.Cache.Memberships
import Roster.Proofs.Platform
import Roster.Proofs.World.Contents

/-!
# Reading through

What one lookup answers, asks and leaves behind: the cache comes first, then the
observed records, then one request.

* `Entity.request`, `Entity.received` — what is asked of the platform for an entity, and the record that an
  answer brings.  `Session.fetch_eq`: a session asks just that.
* `Segment.Hit`, `Missed`, `Stored` — a segment after a read that found a live entry, after one that
  did not, and after a write that followed it.  `Segment.get_hit`, `get_missed`, `Missed.stored`: the
  reads and the write of a lookup.
* `Session.get_of_live?`, `get_of_lookup?`, `get_of_answer`, `get_of_error` — the four ways a lookup goes.
* `Session.ReadsThrough`, `get_reads_through` — **a lookup tier by tier**, in any world and for any entity; an
  answer is found again without a request.
* `Session.nameless_not_stored` — what has no key is never stored.
-/

set_option autoImplicit false

namespace Roster

/-! ## Requests -/

namespace Entity

/-- What is asked of the platform for an entity. -/
def request : Entity → Request
  | .member id => .member id
  | .group id => .group id
  | .roles groupId => .roles groupId
  | .channel id => .channel id

/-- The record that an answer brings when it arrives at an instant. -/
def received : (e : Entity) → Instant → e.request.Answer → e.Record
  | .member _, _, found => found
  | .group _, _, found => found
  | .roles groupId, now, found => RoleList.fetched groupId found now
  | .channel _, _, found => found

/-- All ids are there. -/
def Named : Entity → Prop
  | .member id => id.Named
  | .group id => id ≠ ""
  | .roles groupId => groupId ≠ ""
  | .channel id => id ≠ ""

/-- An entity has a key when all its ids are there. -/
theorem key_ne_empty_iff {e : Entity} : e.key ≠ "" ↔ e.Named := by
  cases e with
  | member id =>
    constructor
    · intro h
      by_contra hmissing
      refine h (if_pos ?_)
      unfold Named MemberId.Named at hmissing
      tauto
    · exact MemberId.Named.key_ne
  | group id => exact Iff.rfl
  | roles groupId => exact Iff.rfl
  | channel id => exact Iff.rfl

end Entity

variable {ρ τ : Type}

/-- A session asks once, and takes what the answer brings. -/
theorem Session.fetch_eq [Platform ρ] (w : World ρ τ) (e : Entity) :
    fetch w e = ((w.ask e.request).1.map (e.received (w.ask e.request).2.now), (w.ask e.request).2) := by
  have hmap {α : Type} (answer : Except PlatformError α) : answer = answer.map fun a => a := by
    cases answer <;> rfl
  cases e with
  | roles groupId => rfl
  | member id => exact Prod.ext (hmap _) rfl
  | group id => exact Prod.ext (hmap _) rfl
  | channel id => exact Prod.ext (hmap _) rfl

/-! ## One segment -/

/-- What is live at an instant was live before. -/
theorem Entry.not_hasExpired_of_le {α : Type} {a : Entry α} {earlier now : Instant} (hle : earlier ≤ now)
    (h : a.hasExpired now = false) : a.hasExpired earlier = false := by
  by_contra hexpired
  rw [hasExpired_mono hle (eq_true_of_ne_false hexpired)] at h
  cases h

namespace Segment

variable {α : Type} {s m : Segment α} {key : String} {now : Instant}

/-- After a read that found a live entry: the entry is in front of the others, and the hit is counted. -/
structure Hit (a : Entry α) (s s' : Segment α) : Prop where
  entries : s'.entries.list = a :: s.entries.list.filter fun b => b.key ≠ a.key
  rest : s' = { s with entries := s'.entries, hits := s.hits + 1 }

/-- After a read that did not: the key's own entry is gone if it was there, and the miss is counted. -/
structure Missed (key : String) (s s' : Segment α) : Prop where
  entries : s'.entries.list = s.entries.list.filter fun b => b.key ≠ key
  size : s'.size = if (s.find? key).isSome then s'.entries.size else s.size
  rest : s' = { s with entries := s'.entries, size := s'.size, misses := s.misses + 1 }

/-- After a read that did not, and a write of what was found elsewhere.  The empty key is not written. -/
structure Stored (key : String) (value : α) (now : Instant) (s s' : Segment α) : Prop where
  written : ∃ m, Missed key s m ∧ s' = m.insert key value now
  found : s'.find? key = if key = "" then none else some ⟨key, value, s.expiryFrom now⟩
  nameless : key = "" → Missed key s s'

theorem get_hit {a : Entry α} (h : s.live? key now = some a) :
    (s.get key now).1 = some a.value ∧ Hit a s (s.get key now).2 := by
  obtain ⟨hfind, hlive⟩ := find?_of_live? h
  rw [get_of_live hfind hlive]
  exact ⟨rfl, Entries.list_toFront s.entries a (Entries.named_of_find? hfind), rfl⟩

theorem get_missed (h : s.live? key now = none) :
    (s.get key now).1 = none ∧ Missed key s (s.get key now).2 := by
  rcases s.get_cases key now with ⟨hfind, hg⟩ | ⟨a, hfind, -, hg⟩ | ⟨a, hfind, hlive, -⟩
  · rw [hg]
    refine ⟨rfl, ?_, by simp [hfind, miss], rfl⟩
    symm
    refine List.filter_eq_self.2 ?_
    intro b hb
    simpa using Entries.key_ne_of_find?_none hfind b hb
  · rw [hg]
    refine ⟨rfl, Entries.list_without s.entries key, ?_, rfl⟩
    simp [hfind, miss, recount]
  · rw [hasExpired_of_live?_none h hfind] at hlive
    cases hlive

/-- A write after a miss, with the segment's time to live. -/
theorem Missed.stored (h : Missed key s m) (value : α) (now : Instant) :
    Stored key value now s (m.insert key value now) where
  written := ⟨m, h, rfl⟩
  nameless hk := by
    have hidle : m.insert key value now = m := dif_pos hk
    rwa [hidle]
  found := by
    have hexpiry : m.expiryFrom now = s.expiryFrom now := by rw [h.rest]; rfl
    split
    · rename_i hk
      rw [hk]
      exact find?_empty_key _
    · rename_i hk
      rw [← hexpiry]
      exact find?_insertUntil_self m hk value _

/-- What was hit is found again while it is live. -/
theorem Hit.live? {a : Entry α} {s' : Segment α} (h : Hit a s s') (hlive : a.hasExpired now = false) :
    s'.live? a.key now = some a := by
  have hfind : s'.find? a.key = some a := by
    refine Entries.find?_eq_some_iff.2 ⟨?_, rfl⟩
    rw [h.entries]
    exact List.mem_cons_self
  simp [Segment.live?, hfind, hlive, Option.filter]

/-- What was stored is live, and would have been before. -/
theorem Stored.live? {value : α} {s' : Segment α} {earlier : Instant} (h : Stored key value now s s')
    (hk : key ≠ "") (hle : earlier ≤ now) : s'.live? key earlier = some ⟨key, value, s.expiryFrom now⟩ := by
  have hfind := h.found
  rw [if_neg hk] at hfind
  have hlive := Entry.not_hasExpired_of_le hle (s.hasExpired_new key value now)
  simp [Segment.live?, hfind, hlive, Option.filter]

end Segment

/-! ## One lookup -/

/-- Another segment in the place of the one of a kind. -/
def World.withSegment (w : World ρ τ) (k : Kind) (s : Segment k.Record) : World ρ τ :=
  { w with cache := w.cache.withSegment k s }

theorem World.remember_withSegment (w : World ρ τ) (e : Entity) (s : Segment e.Record) (r : e.Record) :
    (w.withSegment e.kind s).remember e r = w.withSegment e.kind (s.insert e.key r w.now) := by
  unfold remember withSegment Cache.insert
  rw [Cache.segment_withSegment, Cache.withSegment_withSegment]

namespace Session

variable [Platform ρ]

/-- What a lookup answers, asks and leaves behind. -/
structure ReadsThrough (w : World (Logged ρ) τ) (e : Entity) : Prop where
  /-- A live entry is the answer.  It comes to the front, and nothing else changes but the count of hits. -/
  cached : ∀ a, (w.cache.segment e.kind).live? e.key w.now = some a →
    ∃ s, Segment.Hit a (w.cache.segment e.kind) s ∧ get w e = (.ok a.value, w.withSegment e.kind s)
  /-- Without one an observed record is the answer, and is stored. -/
  observed : (w.cache.segment e.kind).live? e.key w.now = none → ∀ r, w.observed.lookup? w.now e = some r →
    ∃ s, Segment.Stored e.key r w.now (w.cache.segment e.kind) s ∧ get w e = (.ok r, w.withSegment e.kind s)
  /-- Without either the platform is asked once. -/
  asked : (w.cache.segment e.kind).live? e.key w.now = none → w.observed.lookup? w.now e = none →
    (get w e).2.platform.exchanges = w.platform.exchanges ++ [⟨e.request, (w.ask e.request).1⟩]
  /-- What the platform answers is stored when the answer arrives. -/
  fetched : (w.cache.segment e.kind).live? e.key w.now = none → w.observed.lookup? w.now e = none →
    ∀ answer w', w.ask e.request = (.ok answer, w') →
      ∃ s, Segment.Stored e.key (e.received w'.now answer) w'.now (w.cache.segment e.kind) s ∧
        get w e = (.ok (e.received w'.now answer), w'.withSegment e.kind s)
  /-- An error is handed on.  The miss is counted, and an expired entry of the key is gone. -/
  failed : (w.cache.segment e.kind).live? e.key w.now = none → w.observed.lookup? w.now e = none →
    ∀ err w', w.ask e.request = (.error err, w') →
      ∃ s, Segment.Missed e.key (w.cache.segment e.kind) s ∧ get w e = (.error err, w'.withSegment e.kind s)
  /-- An answer is found again, and nothing is asked. -/
  again : e.Named → ∀ r w', get w e = (.ok r, w') → ∀ now ≤ w'.now,
    (get { w' with now } e).1 = .ok r ∧ (get { w' with now } e).2.platform = w'.platform

/-! ### Tier by tier -/

section Tiers

variable {w : World ρ τ} {e : Entity}

theorem get_of_live? {a : Entry e.Record} (h : (w.cache.segment e.kind).live? e.key w.now = some a) :
    ∃ s, Segment.Hit a (w.cache.segment e.kind) s ∧ get w e = (.ok a.value, w.withSegment e.kind s) := by
  obtain ⟨hfound, hhit⟩ := Segment.get_hit h
  exact ⟨_, hhit, get_of_hit hfound⟩

/-- Without a live entry the lookup goes on below the cache. -/
theorem get_of_live?_none (h : (w.cache.segment e.kind).live? e.key w.now = none) :
    ∃ s, Segment.Missed e.key (w.cache.segment e.kind) s ∧ get w e = getBelow (w.withSegment e.kind s) e := by
  obtain ⟨hfound, hmissed⟩ := Segment.get_missed h
  have hread : w.cache.get e w.now = (none, (w.looked e).cache) := Prod.ext hfound rfl
  refine ⟨_, hmissed, ?_⟩
  rw [get, hread]
  rfl

theorem get_of_lookup? (h : (w.cache.segment e.kind).live? e.key w.now = none) {r : e.Record}
    (hr : w.observed.lookup? w.now e = some r) :
    ∃ s, Segment.Stored e.key r w.now (w.cache.segment e.kind) s ∧
      get w e = (.ok r, w.withSegment e.kind s) := by
  obtain ⟨m, hmissed, hg⟩ := get_of_live?_none h
  refine ⟨_, hmissed.stored r w.now, ?_⟩
  have hr : (w.withSegment e.kind m).observed.lookup? (w.withSegment e.kind m).now e = some r := hr
  rw [hg, getBelow, hr, ← World.remember_withSegment]

/-- A miss in the cache and in the observed records is one request. -/
theorem get_of_lookup?_none (h : (w.cache.segment e.kind).live? e.key w.now = none)
    (hr : w.observed.lookup? w.now e = none) :
    ∃ m, Segment.Missed e.key (w.cache.segment e.kind) m ∧
      get w e =
        match w.ask e.request with
        | (.ok answer, w') => (.ok (e.received w'.now answer),
            w'.withSegment e.kind (m.insert e.key (e.received w'.now answer) w'.now))
        | (.error err, w') => (.error err, w'.withSegment e.kind m) := by
  obtain ⟨m, hmissed, hg⟩ := get_of_live?_none h
  refine ⟨m, hmissed, ?_⟩
  have hr : (w.withSegment e.kind m).observed.lookup? (w.withSegment e.kind m).now e = none := hr
  have hask : (w.withSegment e.kind m).ask e.request =
      ((w.ask e.request).1, (w.ask e.request).2.withSegment e.kind m) := rfl
  rw [hg, getBelow, hr, fetch_eq, hask]
  rcases w.ask e.request with ⟨answer | err, w'⟩
  · rfl
  · exact Prod.ext rfl (World.remember_withSegment _ _ _ _)

theorem platform_get (h : (w.cache.segment e.kind).live? e.key w.now = none)
    (hr : w.observed.lookup? w.now e = none) : (get w e).2.platform = (w.ask e.request).2.platform := by
  obtain ⟨m, -, hg⟩ := get_of_lookup?_none h hr
  rw [hg]
  rcases w.ask e.request with ⟨answer | err, w'⟩ <;> rfl

theorem get_of_answer (h : (w.cache.segment e.kind).live? e.key w.now = none)
    (hr : w.observed.lookup? w.now e = none) {answer : e.request.Answer} {w' : World ρ τ}
    (hask : w.ask e.request = (.ok answer, w')) :
    ∃ s, Segment.Stored e.key (e.received w'.now answer) w'.now (w.cache.segment e.kind) s ∧
      get w e = (.ok (e.received w'.now answer), w'.withSegment e.kind s) := by
  obtain ⟨m, hmissed, hg⟩ := get_of_lookup?_none h hr
  rw [hask] at hg
  exact ⟨_, hmissed.stored _ _, hg⟩

theorem get_of_error (h : (w.cache.segment e.kind).live? e.key w.now = none)
    (hr : w.observed.lookup? w.now e = none) {err : PlatformError} {w' : World ρ τ}
    (hask : w.ask e.request = (.error err, w')) :
    ∃ s, Segment.Missed e.key (w.cache.segment e.kind) s ∧ get w e = (.error err, w'.withSegment e.kind s) := by
  obtain ⟨m, hmissed, hg⟩ := get_of_lookup?_none h hr
  rw [hask] at hg
  exact ⟨m, hmissed, hg⟩

/-- What is live under the key of an entity answers a lookup of it, and nothing is asked. -/
theorem get_withSegment {s : Segment e.Record} {a : Entry e.Record} {now : Instant}
    (h : s.live? e.key now = some a) :
    (get { w.withSegment e.kind s with now } e).1 = .ok a.value ∧
      (get { w.withSegment e.kind s with now } e).2.platform = w.platform := by
  have hlive : (({ w.withSegment e.kind s with now } : World ρ τ).cache.segment e.kind).live?
      e.key now = some a := by
    rw [← h]
    exact congrArg (fun s => s.live? e.key now) (Cache.segment_withSegment w.cache e.kind s)
  obtain ⟨s', -, hg⟩ := get_of_live? hlive
  rw [hg]
  exact ⟨rfl, rfl⟩

/-- An answer is found again. -/
theorem get_again (hnamed : e.Named) {r : e.Record} {w' : World ρ τ} (hget : get w e = (.ok r, w'))
    {now : Instant} (hle : now ≤ w'.now) :
    (get { w' with now } e).1 = .ok r ∧ (get { w' with now } e).2.platform = w'.platform := by
  have hkey : e.key ≠ "" := Entity.key_ne_empty_iff.2 hnamed
  cases h : (w.cache.segment e.kind).live? e.key w.now with
  | some a =>
    obtain ⟨s, hhit, hg⟩ := get_of_live? h
    rw [hg] at hget
    cases hget
    obtain ⟨hfind, hlive⟩ := Segment.find?_of_live? h
    have := hhit.live? (Entry.not_hasExpired_of_le hle hlive)
    rw [Entries.key_of_find? hfind] at this
    exact get_withSegment this
  | none =>
    cases hr : w.observed.lookup? w.now e with
    | some found =>
      obtain ⟨s, hstored, hg⟩ := get_of_lookup? h hr
      rw [hg] at hget
      cases hget
      exact get_withSegment (hstored.live? hkey hle)
    | none =>
      rcases hask : w.ask e.request with ⟨answer | err, w''⟩
      · obtain ⟨s, -, hg⟩ := get_of_error h hr hask
        rw [hg] at hget
        cases hget
      · obtain ⟨s, hstored, hg⟩ := get_of_answer h hr hask
        rw [hg] at hget
        cases hget
        exact get_withSegment (hstored.live? hkey hle)

end Tiers

/-- **A lookup, tier by tier**, in any world and for any entity. -/
theorem get_reads_through (w : World (Logged ρ) τ) (e : Entity) : ReadsThrough w e where
  cached _ h := get_of_live? h
  observed h _ hr := get_of_lookup? h hr
  asked h hr := (congrArg Logged.exchanges (platform_get h hr)).trans (Logged.exchanges_ask e.request)
  fetched h hr _ _ hask := get_of_answer h hr hask
  failed h hr _ _ hask := get_of_error h hr hask
  again hnamed _ _ hget _ hle := get_again hnamed hget hle

/-- A world over an empty directory in which a group without an id was observed. -/
def namelessWorld : World (Logged DirectoryServer) TableStore :=
  { World.overDirectory .empty with
    platform := ⟨⟨.empty, []⟩, []⟩
    observed := Observed.empty.putGroup (.new "" "G" "u") }

/-- What is observed without an id is the answer to a lookup, but it is not stored. -/
theorem nameless_not_stored :
    ¬∀ (w : World (Logged DirectoryServer) TableStore) (e : Entity) (r : e.Record),
      (w.cache.segment e.kind).live? e.key w.now = none → w.observed.lookup? w.now e = some r →
        (get w e).1 = .ok r ∧ ∃ a, ((get w e).2.cache.segment e.kind).find? e.key = some a ∧ a.value = r := by
  intro hall
  have hobserved : namelessWorld.observed.lookup? namelessWorld.now (.group "") = some (Group.new "" "G" "u") :=
    Std.TreeMap.getElem?_insert_self
  obtain ⟨-, a, hfind, -⟩ := hall namelessWorld (.group "") _ rfl hobserved
  have hnone := ((get namelessWorld (.group "")).2.cache.segment .group).find?_empty_key
  rw [show Entity.key (.group "") = "" from rfl, hnone] at hfind
  cases hfind

end Session

end Roster
