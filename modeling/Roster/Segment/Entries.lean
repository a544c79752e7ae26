import Roster.Time.Instant

/-!
# Entries in order of use

* `Entry` — a record under a text key, and when it expires.
* `Entries` — entries, the most recently used first.  No key is there twice, and none is empty.
* `Entries.toFront` — the only way in: an entry comes to the front in place of any other under its key.
* `Entries.keep`, `without`, `take` — the ways out; what stays keeps its order.
* `Entries.find?_eq_some_iff` — a lookup finds exactly the entries; `find?_toFront`, `find?_keep` say what
  the operations do to a lookup.
-/

set_option autoImplicit false

namespace Roster

/-- A stored record and when it expires, if ever. -/
structure Entry (α : Type) where
  key : String
  value : α
  expiresAt : Option Instant
deriving DecidableEq, Repr

/-- An entry has expired once the clock shows its expiry. -/
def Entry.hasExpired {α : Type} (e : Entry α) (now : Instant) : Bool :=
  match e.expiresAt with
  | none => false
  | some expiry => decide (expiry ≤ now)

/-- Entries in order of use. -/
structure Entries (α : Type) where
  list : List (Entry α)
  nodup : (list.map Entry.key).Nodup
  named : ∀ e ∈ list, e.key ≠ ""
deriving Repr

namespace Entries

variable {α : Type}

/-- No entries. -/
def empty : Entries α := ⟨[], List.nodup_nil, fun _ h => nomatch h⟩

/-- Number of entries. -/
def size (es : Entries α) : Nat := es.list.length

/-- The keys, most recently used first. -/
def keys (es : Entries α) : List String := es.list.map Entry.key

/-- The entry under a key. -/
def find? (es : Entries α) (key : String) : Option (Entry α) := es.list.find? fun e => e.key = key

/-- The entries that pass a test. -/
def keep (es : Entries α) (p : Entry α → Bool) : Entries α :=
  ⟨es.list.filter p, es.nodup.sublist (List.filter_sublist.map _),
   fun e h => es.named e (List.mem_filter.1 h).1⟩

/-- Without the entry under a key. -/
def without (es : Entries α) (key : String) : Entries α :=
  if (es.find? key).isSome then es.keep fun e => e.key ≠ key else es

/-- The `n` most recently used entries. -/
def take (es : Entries α) (n : Nat) : Entries α :=
  ⟨es.list.take n, es.nodup.sublist ((List.take_sublist n _).map _),
   fun e h => es.named e (List.mem_of_mem_take h)⟩

/-! ## Lookups -/

theorem find?_eq_some_iff {es : Entries α} {key : String} {e : Entry α} :
    es.find? key = some e ↔ e ∈ es.list ∧ e.key = key := by
  obtain ⟨list, hn, hnamed⟩ := es
  show list.find? (fun a => a.key = key) = some e ↔ e ∈ list ∧ e.key = key
  clear hnamed
  induction list with
  | nil => simp
  | cons a list ih =>
    have ha : a.key ∉ list.map Entry.key := (List.nodup_cons.1 hn).1
    have hl := ih (List.nodup_cons.1 hn).2
    by_cases h : a.key = key
    · have hm : ¬(e ∈ list ∧ e.key = key) := fun hm =>
        ha (List.mem_map.2 ⟨e, hm.1, hm.2.trans h.symm⟩)
      simp only [List.find?_cons, h, decide_true, List.mem_cons, Option.some.injEq]
      constructor
      · rintro rfl
        exact ⟨.inl rfl, h⟩
      · rintro ⟨rfl | he, hk⟩
        · rfl
        · exact absurd ⟨he, hk⟩ hm
    · have hne : e.key = key → e ≠ a := fun hk he => h (he ▸ hk)
      simp only [List.find?_cons, h, decide_false, List.mem_cons]
      rw [hl]
      constructor
      · exact fun ⟨he, hk⟩ => ⟨.inr he, hk⟩
      · exact fun ⟨he, hk⟩ => ⟨he.resolve_left (hne hk), hk⟩

theorem key_of_find? {es : Entries α} {key : String} {e : Entry α}
    (h : es.find? key = some e) : e.key = key := (find?_eq_some_iff.1 h).2

theorem named_of_find? {es : Entries α} {key : String} {e : Entry α}
    (h : es.find? key = some e) : e.key ≠ "" := es.named e (find?_eq_some_iff.1 h).1

theorem find?_keep (es : Entries α) (p : Entry α → Bool) (key : String) :
    (es.keep p).find? key = (es.find? key).filter p := by
  apply Option.ext
  intro e
  rw [find?_eq_some_iff, Option.filter_eq_some_iff, find?_eq_some_iff]
  simp only [keep, List.mem_filter]
  exact ⟨fun ⟨⟨he, hp⟩, hk⟩ => ⟨⟨he, hk⟩, hp⟩, fun ⟨⟨he, hk⟩, hp⟩ => ⟨⟨he, hp⟩, hk⟩⟩

theorem find?_without (es : Entries α) (key key' : String) :
    (es.without key).find? key' = if key = key' then none else es.find? key' := by
  unfold without
  split
  · rw [find?_keep]
    cases h : es.find? key' with
    | none => simp
    | some e => by_cases hk : key = key' <;> simp [Option.filter_some, key_of_find? h, hk, eq_comm]
  · rename_i h
    split
    · rename_i hk
      simpa [hk] using h
    · rfl

/-- With an entry in front, in place of any other under its key. -/
def toFront (es : Entries α) (e : Entry α) (h : e.key ≠ "") : Entries α where
  list := e :: (es.without e.key).list
  nodup := by
    refine List.nodup_cons.2 ⟨fun hm => ?_, (es.without e.key).nodup⟩
    obtain ⟨e', he', hk⟩ := List.mem_map.1 hm
    have := find?_eq_some_iff.2 ⟨he', hk⟩
    simp [find?_without] at this
  named e' he' := by
    rcases List.mem_cons.1 he' with rfl | he'
    · exact h
    · exact (es.without e.key).named e' he'

theorem find?_toFront (es : Entries α) (e : Entry α) (h : e.key ≠ "") (key : String) :
    (es.toFront e h).find? key = if e.key = key then some e else es.find? key := by
  by_cases hk : e.key = key
  · simp [find?, toFront, hk]
  · have := find?_without es e.key key
    simp only [hk, if_false] at this
    simpa [find?, toFront, hk] using this

theorem find?_empty_key (es : Entries α) : es.find? "" = none := by
  rw [Option.eq_none_iff_forall_ne_some]
  exact fun e h => named_of_find? h (key_of_find? h)

end Entries

end Roster
