import Roster.Directory
import Roster.Proofs.Cache.Contents
import Roster.Session
import Roster.Store.Tables

/-!
# What a session and the upkeep leave behind

* `World.overDirectory` — a world over a directory in which nothing is cached, saved or observed.
* `Session.cache_fetch`, `observed_fetch`, `session_fetch` — a request leaves all but the
  clock and the platform alone.
* `Session.get_cases` — everything a lookup can do: a hit, an observed record, an answer or an error.
* `Upkeep`, `World.upkeep` — what is done to the cache from outside a lookup, moves of the clock included.
* `World.holds_upkeep` — the upkeep brings no entry in.
-/

set_option autoImplicit false

namespace Roster

/-- A world over a directory: an empty cache that is saved, an empty store, nothing observed. -/
def World.overDirectory (d : Directory) : World DirectoryServer TableStore where
  now := .epoch
  platform := ⟨d, []⟩
  store := .new TableStore.defaultRetention
  cache := .new { CacheSettings.standard with persistence := true } true false .zero
  observed := .empty
  session := some 0

variable {ρ τ : Type}

/-! ## Requests -/

section Requests

variable [Platform ρ]

@[simp] theorem Session.cache_fetch (w : World ρ τ) (e : Entity) : (fetch w e).2.cache = w.cache := by
  cases e <;> rfl

@[simp] theorem Session.observed_fetch (w : World ρ τ) (e : Entity) :
    (fetch w e).2.observed = w.observed := by
  cases e <;> rfl

@[simp] theorem Session.session_fetch (w : World ρ τ) (e : Entity) :
    (fetch w e).2.session = w.session := by
  cases e <;> rfl

end Requests

/-! ## Lookups -/

/-- After a look into the cache. -/
def World.looked (w : World ρ τ) (e : Entity) : World ρ τ :=
  { w with cache := (w.cache.get e w.now).2 }

/-- Everything a lookup can do. -/
theorem Session.get_cases [Platform ρ] (w : World ρ τ) (e : Entity) :
    (∃ r, (w.cache.get e w.now).1 = some r ∧ get w e = (.ok r, w.looked e)) ∨
    ((w.cache.get e w.now).1 = none ∧
      ((∃ r, w.observed.lookup? w.now e = some r ∧
        get w e = (.ok r, (w.looked e).remember e r)) ∨
      (w.observed.lookup? w.now e = none ∧
        ((∃ r, (fetch (w.looked e) e).1 = .ok r ∧
          get w e = (.ok r, (fetch (w.looked e) e).2.remember e r)) ∨
        (∃ err, (fetch (w.looked e) e).1 = .error err ∧
          get w e = (.error err, (fetch (w.looked e) e).2)))))) := by
  unfold get
  split
  · rename_i r cache hc
    exact .inl ⟨r, congrArg Prod.fst hc, by rw [World.looked, hc]⟩
  · rename_i cache hc
    have hw : ({ w with cache } : World ρ τ) = w.looked e := by rw [World.looked, hc]
    refine .inr ⟨congrArg Prod.fst hc, ?_⟩
    rw [hw, getBelow]
    show _ ∨ _
    split
    · rename_i r hr
      exact .inl ⟨r, hr, rfl⟩
    · rename_i hr
      refine .inr ⟨hr, ?_⟩
      split
      · rename_i r w' hf
        exact .inl ⟨r, congrArg Prod.fst hf, by rw [hf]⟩
      · rename_i err w' hf
        exact .inr ⟨err, congrArg Prod.fst hf, by rw [hf]⟩

/-- A live entry is a hit. -/
theorem Cache.get_of_live {c : Cache} {e : Entity} {a : Entry e.kind.Record} {now : Instant}
    (ha : a ∈ (c.segment e.kind).entries.list) (hkey : a.key = e.key) (hlive : a.hasExpired now = false) :
    (c.get e now).1 = some a.value :=
  congrArg Prod.fst (Segment.get_of_live (Entries.find?_eq_some_iff.2 ⟨ha, hkey⟩) hlive)

/-- A hit is answered from the cache. -/
theorem Session.get_of_hit [Platform ρ] {w : World ρ τ} {e : Entity} {r : e.Record}
    (h : (w.cache.get e w.now).1 = some r) : get w e = (.ok r, w.looked e) := by
  rcases get_cases w e with ⟨r', hr', hg⟩ | ⟨hmiss, -⟩
  · rw [h] at hr'
    cases hr'
    exact hg
  · rw [h] at hmiss
    cases hmiss

/-- A lookup observes nothing and leaves the session as it is. -/
theorem Session.get_keeps [Platform ρ] (w : World ρ τ) (e : Entity) :
    (get w e).2.observed = w.observed ∧ (get w e).2.session = w.session := by
  rcases get_cases w e with ⟨r, -, hg⟩ | ⟨-, ⟨r, -, hg⟩ | ⟨-, ⟨r, -, hg⟩ | ⟨err, -, hg⟩⟩⟩
  · rw [hg]
    exact ⟨rfl, rfl⟩
  · rw [hg]
    exact ⟨rfl, rfl⟩
  · rw [hg]
    exact ⟨observed_fetch (w.looked e) e, session_fetch (w.looked e) e⟩
  · rw [hg]
    exact ⟨observed_fetch (w.looked e) e, session_fetch (w.looked e) e⟩

/-- What a hit returns is held under the key of the entity. -/
theorem Cache.mem_of_get {c : Cache} {e : Entity} {now : Instant} {r : e.Record}
    (h : (c.get e now).1 = some r) :
    ∃ a ∈ (c.segment e.kind).entries.list, a.key = e.key ∧ a.value = r := Segment.mem_of_get h

/-! ## Upkeep -/

/-- What is done to the cache from outside a lookup. -/
inductive Upkeep where
  | sweep
  | clear
  | limit (k : Kind) (limit : Nat)
  | ttl (k : Kind) (ttl : Option Duration)
  /-- The clock shows another instant, earlier or later. -/
  | clock (now : Instant)
deriving DecidableEq, Repr

namespace World

def upkeep (w : World ρ τ) : Upkeep → World ρ τ
  | .sweep => { w with cache := (w.cache.sweep w.now).2 }
  | .clear => { w with cache := w.cache.clear }
  | .limit k limit => { w with cache := w.cache.withLimit k limit }
  | .ttl k ttl => { w with cache := w.cache.withTtl k ttl }
  | .clock now => { w with now }

variable {P : (k : Kind) → Entry k.Record → Prop}

/-- The upkeep brings no entry in. -/
theorem holds_upkeep {w : World ρ τ} (h : w.cache.Holds P) (u : Upkeep) :
    (w.upkeep u).cache.Holds P := by
  cases u with
  | sweep => exact Cache.holds_sweep h w.now
  | clear => exact Cache.holds_clear P w.cache
  | limit k limit => exact Cache.holds_withLimit h k limit
  | ttl k ttl => exact Cache.holds_withTtl h k ttl
  | clock now => exact h

@[simp] theorem observed_upkeep (w : World ρ τ) (u : Upkeep) :
    (w.upkeep u).observed = w.observed := by
  cases u <;> rfl

@[simp] theorem session_upkeep (w : World ρ τ) (u : Upkeep) : (w.upkeep u).session = w.session := by
  cases u <;> rfl

theorem holds_looked {w : World ρ τ} (h : w.cache.Holds P) (e : Entity) :
    (w.looked e).cache.Holds P := Cache.holds_get h e w.now

theorem holds_remember {w : World ρ τ} (h : w.cache.Holds P) {e : Entity} {r : e.Record}
    (hr : e.key ≠ "" → ∀ x, P e.kind ⟨e.key, r, x⟩) : (w.remember e r).cache.Holds P :=
  Cache.holds_insert h hr

theorem holds_forget {w : World ρ τ} (h : w.cache.Holds P) (event : Change) :
    (w.forget event).cache.Holds P := Cache.holds_erase h event.subject

end World

end Roster
