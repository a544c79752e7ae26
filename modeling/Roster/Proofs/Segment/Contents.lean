import Roster.Segment.Lemmas

/-!
# What a segment holds after each operation

* `Entries.list_without`, `list_toFront` — the two moves, as lists.
* `Segment.get_cases`, `insertUntil_cases`, `insertUnlessLive_cases`, `restore_cases` — everything a read and
  the writes can do, with the condition of each case.
* `Segment.sublist_withRoom`, `sublist_withLimit` — what stays when room is made keeps its order.
* `Segment.mem_get`, `mem_insertUntil`, `mem_insertUnlessLive`, `mem_restore_iff` — an entry that is there
  afterwards was there before or is the one that was written.
-/

set_option autoImplicit false

namespace Roster

namespace Entries

variable {α : Type}

theorem ext {es es' : Entries α} (h : es.list = es'.list) : es = es' := by
  obtain ⟨list, _, _⟩ := es
  cases h
  rfl

theorem key_ne_of_find?_none {es : Entries α} {key : String} (h : es.find? key = none) :
    ∀ e ∈ es.list, e.key ≠ key := by
  intro e he hk
  rw [find?_eq_some_iff.2 ⟨he, hk⟩] at h
  cases h

theorem list_without (es : Entries α) (key : String) :
    (es.without key).list = es.list.filter fun e => e.key ≠ key := by
  unfold without
  split
  · rfl
  · rename_i h
    have hnone := key_ne_of_find?_none (Option.not_isSome_iff_eq_none.1 h)
    symm
    apply List.filter_eq_self.2
    intro e he
    simpa using hnone e he

theorem without_of_find?_none {es : Entries α} {key : String} (h : es.find? key = none) :
    es.without key = es := by
  unfold without
  rw [h]
  rfl

theorem list_toFront (es : Entries α) (e : Entry α) (h : e.key ≠ "") :
    (es.toFront e h).list = e :: es.list.filter fun a => a.key ≠ e.key := by
  rw [← list_without]
  rfl

theorem mem_without {es : Entries α} {key : String} {e : Entry α} :
    e ∈ (es.without key).list ↔ e ∈ es.list ∧ e.key ≠ key := by
  rw [list_without, List.mem_filter, decide_eq_true_iff]

theorem mem_toFront {es : Entries α} {a e : Entry α} (h : a.key ≠ "") :
    e ∈ (es.toFront a h).list ↔ e = a ∨ e ∈ es.list ∧ e.key ≠ a.key := by
  rw [list_toFront, List.mem_cons, List.mem_filter, decide_eq_true_iff]

/-- A key that is present is there once. -/
theorem length_filter_key_ne {key : String} : ∀ {l : List (Entry α)}, (l.map Entry.key).Nodup →
    key ∈ l.map Entry.key → (l.filter fun e => e.key ≠ key).length + 1 = l.length
  | [], _, hm => by cases hm
  | a :: l, hn, hm => by
    obtain ⟨hnot, hn⟩ := List.nodup_cons.1 hn
    by_cases hk : a.key = key
    · have hself : l.filter (fun e => e.key ≠ key) = l := by
        refine List.filter_eq_self.2 fun e he => decide_eq_true ?_
        rintro rfl
        exact hnot (List.mem_map.2 ⟨e, he, hk.symm⟩)
      rw [List.filter_cons_of_neg (by simpa using hk), hself, List.length_cons]
    · have hm := (List.mem_cons.1 hm).resolve_left (Ne.symm hk)
      rw [List.filter_cons_of_pos (by simpa using hk), List.length_cons, List.length_cons,
        length_filter_key_ne hn hm]

theorem length_filter {es : Entries α} {key : String} (h : (es.find? key).isSome = true) :
    (es.list.filter fun e => e.key ≠ key).length + 1 = es.list.length := by
  obtain ⟨e, he⟩ := Option.isSome_iff_exists.1 h
  obtain ⟨hmem, hk⟩ := find?_eq_some_iff.1 he
  exact length_filter_key_ne es.nodup (List.mem_map.2 ⟨e, hmem, hk⟩)

/-- An entry that takes the place of another leaves the number as it is. -/
theorem length_toFront {es : Entries α} {e : Entry α} {h : e.key ≠ ""}
    (hp : (es.find? e.key).isSome = true) : (es.toFront e h).list.length = es.list.length := by
  rw [list_toFront, List.length_cons, length_filter hp]

/-- No two entries have the same key. -/
theorem eq_of_key_eq {es : Entries α} {a b : Entry α} (ha : a ∈ es.list) (hb : b ∈ es.list)
    (h : a.key = b.key) : a = b := by
  have hfa := find?_eq_some_iff.2 ⟨ha, h⟩
  rw [find?_eq_some_iff.2 ⟨hb, rfl⟩] at hfa
  exact (Option.some.inj hfa).symm

end Entries

namespace Segment

variable {α : Type}

/-! ## What an operation can do -/

theorem without_of_find?_none {s : Segment α} {key : String} (h : s.find? key = none) :
    s.without key = s := by
  show { s with entries := s.entries.without key } = s
  rw [Entries.without_of_find?_none h]

theorem list_withRoom (s : Segment α) :
    s.withRoom.entries.list =
      if s.limit = 0 then s.entries.list else s.entries.list.take (s.limit - 1) := by
  unfold withRoom
  split
  · rename_i h
    split
    · rfl
    · rename_i hl
      have hs : s.entries.list.length < s.limit := h.resolve_left hl
      rw [List.take_of_length_le (by omega)]
  · rename_i h
    rw [if_neg fun hl => h (.inl hl)]
    rfl

theorem sublist_without (s : Segment α) (key : String) :
    (s.without key).entries.list.Sublist s.entries.list := by
  show (s.entries.without key).list.Sublist s.entries.list
  rw [Entries.list_without]
  exact List.filter_sublist

theorem sublist_withRoom (s : Segment α) : s.withRoom.entries.list.Sublist s.entries.list := by
  rw [list_withRoom]
  split
  · exact List.Sublist.refl _
  · exact List.take_sublist _ _

theorem sublist_withLimit (s : Segment α) (limit : Nat) :
    (s.withLimit limit).entries.list.Sublist s.entries.list := by
  unfold withLimit
  dsimp only
  split
  · exact List.Sublist.refl _
  · exact List.take_sublist _ _

/-- What room is made from keeps its settings and hits. -/
theorem withRoom_keeps (s : Segment α) : s.withRoom.limit = s.limit ∧
    s.withRoom.ttlMillis = s.ttlMillis ∧ s.withRoom.hits = s.hits := by
  unfold withRoom
  split <;> exact ⟨rfl, rfl, rfl⟩

/-- What is found under a key is live until it expires. -/
theorem live?_of_find? {s : Segment α} {key : String} {e : Entry α} (h : s.find? key = some e) {now : Instant} :
    s.live? key now = if e.hasExpired now then none else some e := by
  unfold live?
  rw [h, Option.filter_some]
  cases e.hasExpired now <;> rfl

theorem get_of_find?_none {s : Segment α} {key : String} (h : s.find? key = none) (now : Instant) :
    s.get key now = (none, s.miss) := by
  unfold get
  split
  · rfl
  · rename_i e he
    rw [h] at he
    cases he

theorem get_of_expired {s : Segment α} {key : String} {e : Entry α} (h : s.find? key = some e)
    {now : Instant} (hx : e.hasExpired now = true) :
    s.get key now = (none, (s.without key).recount.miss) := by
  unfold get
  split
  · rename_i hnone
    rw [h] at hnone
    cases hnone
  · rename_i e' he
    obtain rfl := Option.some.inj (h.symm.trans he)
    exact if_pos hx

theorem get_of_live {s : Segment α} {key : String} {e : Entry α} (h : s.find? key = some e)
    {now : Instant} (hx : e.hasExpired now = false) :
    s.get key now =
      (some e.value, { s.toFront e (Entries.named_of_find? h) with hits := s.hits + 1 }) := by
  unfold get
  split
  · rename_i hnone
    rw [h] at hnone
    cases hnone
  · rename_i e' he
    obtain rfl := Option.some.inj (h.symm.trans he)
    exact if_neg (Bool.eq_false_iff.1 hx)

/-- A read misses, drops an expired entry, or moves a live one to the front. -/
theorem get_cases (s : Segment α) (key : String) (now : Instant) :
    (s.find? key = none ∧ s.get key now = (none, s.miss)) ∨
    (∃ e, s.find? key = some e ∧ e.hasExpired now = true ∧
      s.get key now = (none, (s.without key).recount.miss)) ∨
    (∃ e, ∃ h : s.find? key = some e, e.hasExpired now = false ∧
      s.get key now =
        (some e.value, { s.toFront e (Entries.named_of_find? h) with hits := s.hits + 1 })) := by
  rcases Option.eq_none_or_eq_some (s.find? key) with h | ⟨e, h⟩
  · exact .inl ⟨h, get_of_find?_none h now⟩
  · cases hx : e.hasExpired now with
    | true => exact .inr (.inl ⟨e, h, hx, get_of_expired h hx⟩)
    | false => exact .inr (.inr ⟨e, h, hx, get_of_live h hx⟩)

theorem insertUntil_of_present {s : Segment α} {key : String} (hk : key ≠ "")
    (h : (s.find? key).isSome = true) (value : α) (expiresAt : Option Instant) :
    s.insertUntil key value expiresAt = s.toFront ⟨key, value, expiresAt⟩ hk := by
  unfold insertUntil
  rw [dif_neg hk, if_pos h]

theorem insertUntil_of_absent {s : Segment α} {key : String} (hk : key ≠ "") (h : s.find? key = none)
    (value : α) (expiresAt : Option Instant) :
    s.insertUntil key value expiresAt = (s.withRoom.toFront ⟨key, value, expiresAt⟩ hk).recount := by
  unfold insertUntil
  rw [dif_neg hk, h]
  rfl

theorem list_insertUntil_of_present {s : Segment α} {key : String} (hk : key ≠ "")
    (h : (s.find? key).isSome = true) (value : α) (expiresAt : Option Instant) :
    (s.insertUntil key value expiresAt).entries.list =
      ⟨key, value, expiresAt⟩ :: s.entries.list.filter fun e => e.key ≠ key := by
  rw [insertUntil_of_present hk h]
  exact Entries.list_toFront s.entries ⟨key, value, expiresAt⟩ hk

theorem list_insertUntil_of_absent {s : Segment α} {key : String} (hk : key ≠ "")
    (h : s.find? key = none) (value : α) (expiresAt : Option Instant) :
    (s.insertUntil key value expiresAt).entries.list =
      ⟨key, value, expiresAt⟩ ::
        if s.limit = 0 then s.entries.list else s.entries.list.take (s.limit - 1) := by
  rw [insertUntil_of_absent hk h, ← list_withRoom]
  have hroom : ∀ e ∈ s.withRoom.entries.list, e.key ≠ key := fun e he =>
    Entries.key_ne_of_find?_none h e ((sublist_withRoom s).subset he)
  show (s.withRoom.entries.toFront ⟨key, value, expiresAt⟩ hk).list = _
  rw [Entries.list_toFront, List.filter_eq_self.2 fun e he => decide_eq_true (hroom e he)]

/-- A write of the empty key does nothing, a present key comes to the front, a new one makes room first. -/
theorem insertUntil_cases (s : Segment α) (key : String) (value : α) (expiresAt : Option Instant) :
    (key = "" ∧ s.insertUntil key value expiresAt = s) ∨
    (∃ h : key ≠ "", (s.find? key).isSome = true ∧
      s.insertUntil key value expiresAt = s.toFront ⟨key, value, expiresAt⟩ h) ∨
    (∃ h : key ≠ "", s.find? key = none ∧
      s.insertUntil key value expiresAt =
        (s.withRoom.toFront ⟨key, value, expiresAt⟩ h).recount) := by
  by_cases hk : key = ""
  · exact .inl ⟨hk, dif_pos hk⟩
  · rcases Option.eq_none_or_eq_some (s.find? key) with h | ⟨e, h⟩
    · exact .inr (.inr ⟨hk, h, insertUntil_of_absent hk h value expiresAt⟩)
    · have hp : (s.find? key).isSome = true := Option.isSome_of_eq_some h
      exact .inr (.inl ⟨hk, hp, insertUntil_of_present hk hp value expiresAt⟩)

theorem insertUntil_keeps (s : Segment α) (key : String) (value : α) (expiresAt : Option Instant) :
    (s.insertUntil key value expiresAt).limit = s.limit ∧
      (s.insertUntil key value expiresAt).ttlMillis = s.ttlMillis ∧
      (s.insertUntil key value expiresAt).hits = s.hits := by
  rcases s.insertUntil_cases key value expiresAt with ⟨-, hi⟩ | ⟨hk, -, hi⟩ | ⟨hk, -, hi⟩
  · rw [hi]
    exact ⟨rfl, rfl, rfl⟩
  · rw [hi]
    exact ⟨rfl, rfl, rfl⟩
  · rw [hi]
    exact s.withRoom_keeps

/-- A conditional write does nothing for the empty key and a live one; else the key's own expired entry
leaves, and the new one makes room first. -/
theorem insertUnlessLive_cases (s : Segment α) (key : String) (value : α) (now : Instant) :
    (key = "" ∧ s.insertUnlessLive key value now = (false, s)) ∨
    (∃ e, s.find? key = some e ∧ e.hasExpired now = false ∧
      s.insertUnlessLive key value now = (false, s)) ∨
    (∃ h : key ≠ "", (∀ e, s.find? key = some e → e.hasExpired now = true) ∧
      s.insertUnlessLive key value now =
        (true, ((s.without key).withRoom.toFront ⟨key, value, s.expiryFrom now⟩ h).recount)) := by
  unfold insertUnlessLive
  split
  · rename_i h
    exact .inl ⟨h, rfl⟩
  · rename_i h
    dsimp only
    split
    · rename_i hf
      refine .inr (.inr ⟨h, ?_, ?_⟩)
      · intro e he
        rw [hf] at he
        cases he
      · rw [without_of_find?_none hf]
    · rename_i e hf
      split
      · rename_i hx
        refine .inr (.inr ⟨h, ?_, rfl⟩)
        intro e' he
        rw [hf] at he
        cases he
        exact hx
      · rename_i hx
        exact .inr (.inl ⟨e, hf, Bool.eq_false_iff.2 hx, rfl⟩)

/-- A saved entry comes back only under a key that is named and absent. -/
theorem restore_cases (s : Segment α) (key : String) (value : α) (expiresAt : Option Instant) :
    ((key = "" ∨ (s.find? key).isSome = true) ∧ s.restore key value expiresAt = (false, s)) ∨
    (∃ h : key ≠ "", s.find? key = none ∧
      s.restore key value expiresAt = (true, (s.toFront ⟨key, value, expiresAt⟩ h).recount)) := by
  unfold restore
  split
  · rename_i h
    exact .inl ⟨.inl h, rfl⟩
  · rename_i h
    split
    · rename_i hp
      exact .inl ⟨.inr hp, rfl⟩
    · rename_i hp
      exact .inr ⟨h, Option.not_isSome_iff_eq_none.1 hp, rfl⟩

/-! ## Which keys are there -/

/-- A key that is present is one that a lookup finds. -/
theorem exists_find?_of_mem_keys {s : Segment α} {key : String} (h : key ∈ s.keys) :
    ∃ e, s.find? key = some e := by
  obtain ⟨e, he, hk⟩ := List.mem_map.1 h
  exact ⟨e, Entries.find?_eq_some_iff.2 ⟨he, hk⟩⟩

theorem find?_of_not_mem_keys {s : Segment α} {key : String} (h : key ∉ s.keys) : s.find? key = none := by
  cases hfind : s.find? key with
  | none => rfl
  | some e =>
    obtain ⟨hmem, hkey⟩ := Entries.find?_eq_some_iff.1 hfind
    exact absurd (List.mem_map.2 ⟨e, hmem, hkey⟩) h

/-- There is an entry under a key exactly when the key is among the keys. -/
theorem isSome_find?_iff {s : Segment α} {key : String} : (s.find? key).isSome = true ↔ key ∈ s.keys := by
  constructor
  · intro h
    obtain ⟨e, he⟩ := Option.isSome_iff_exists.1 h
    obtain ⟨hmem, hkey⟩ := Entries.find?_eq_some_iff.1 he
    exact List.mem_map.2 ⟨e, hmem, hkey⟩
  · intro h
    obtain ⟨e, he⟩ := exists_find?_of_mem_keys h
    rw [he]
    rfl

theorem mem_keys_without {s : Segment α} {key key' : String} :
    key' ∈ (s.without key).keys ↔ key' ∈ s.keys ∧ key' ≠ key := by
  constructor
  · intro h
    obtain ⟨e, he, rfl⟩ := List.mem_map.1 h
    obtain ⟨he, hne⟩ := Entries.mem_without.1 he
    exact ⟨List.mem_map.2 ⟨e, he, rfl⟩, hne⟩
  · rintro ⟨h, hne⟩
    obtain ⟨e, he, rfl⟩ := List.mem_map.1 h
    exact List.mem_map.2 ⟨e, Entries.mem_without.2 ⟨he, hne⟩, rfl⟩

theorem mem_keys_toFront {s : Segment α} {e : Entry α} (h : e.key ≠ "") {key : String} :
    key ∈ (s.toFront e h).keys ↔ key = e.key ∨ key ∈ s.keys := by
  show key ∈ e.key :: (s.without e.key).keys ↔ _
  rw [List.mem_cons, mem_keys_without]
  by_cases hk : key = e.key <;> simp [hk]

/-- A restored entry pushes no other out. -/
theorem mem_keys_restore {s : Segment α} {key key' : String} (hin : key ∈ s.keys) (value : α)
    (expiresAt : Option Instant) : key ∈ (s.restore key' value expiresAt).2.keys := by
  rcases s.restore_cases key' value expiresAt with ⟨-, hi⟩ | ⟨hk, -, hi⟩
  · rw [hi]
    exact hin
  · rw [hi]
    exact (mem_keys_toFront hk).2 (.inr hin)

/-! ## Where an entry comes from -/

theorem mem_get {s : Segment α} {key : String} {now : Instant} {e : Entry α}
    (h : e ∈ (s.get key now).2.entries.list) : e ∈ s.entries.list := by
  rcases s.get_cases key now with ⟨-, hg⟩ | ⟨a, -, -, hg⟩ | ⟨a, ha, -, hg⟩
  · rw [hg] at h
    exact h
  · rw [hg] at h
    exact (Entries.mem_without.1 h).1
  · rw [hg] at h
    rcases (Entries.mem_toFront (Entries.named_of_find? ha)).1 h with rfl | h
    · exact (Entries.find?_eq_some_iff.1 ha).1
    · exact h.1

/-- What a read returns is held under its key. -/
theorem mem_of_get {s : Segment α} {key : String} {now : Instant} {value : α}
    (h : (s.get key now).1 = some value) : ∃ e ∈ s.entries.list, e.key = key ∧ e.value = value := by
  rcases s.get_cases key now with ⟨-, hg⟩ | ⟨a, -, -, hg⟩ | ⟨a, ha, -, hg⟩
  · rw [hg] at h
    cases h
  · rw [hg] at h
    cases h
  · rw [hg] at h
    obtain ⟨hm, hk⟩ := Entries.find?_eq_some_iff.1 ha
    exact ⟨a, hm, hk, Option.some.inj h⟩

theorem mem_insertUntil {s : Segment α} {key : String} {value : α} {expiresAt : Option Instant}
    {e : Entry α} (h : e ∈ (s.insertUntil key value expiresAt).entries.list) :
    key ≠ "" ∧ e = ⟨key, value, expiresAt⟩ ∨ e ∈ s.entries.list := by
  rcases s.insertUntil_cases key value expiresAt with ⟨-, hi⟩ | ⟨hk, -, hi⟩ | ⟨hk, -, hi⟩
  · rw [hi] at h
    exact .inr h
  · rw [hi] at h
    rcases (Entries.mem_toFront hk).1 h with rfl | h
    · exact .inl ⟨hk, rfl⟩
    · exact .inr h.1
  · rw [hi] at h
    rcases (Entries.mem_toFront hk).1 h with rfl | h
    · exact .inl ⟨hk, rfl⟩
    · exact .inr ((sublist_withRoom s).subset h.1)

theorem mem_insertUnlessLive {s : Segment α} {key : String} {value : α} {now : Instant} {e : Entry α}
    (h : e ∈ (s.insertUnlessLive key value now).2.entries.list) :
    key ≠ "" ∧ e = ⟨key, value, s.expiryFrom now⟩ ∨ e ∈ s.entries.list := by
  rcases s.insertUnlessLive_cases key value now with ⟨-, hi⟩ | ⟨a, -, -, hi⟩ | ⟨hk, -, hi⟩
  · rw [hi] at h
    exact .inr h
  · rw [hi] at h
    exact .inr h
  · rw [hi] at h
    rcases (Entries.mem_toFront hk).1 h with rfl | h
    · exact .inl ⟨hk, rfl⟩
    · exact .inr ((sublist_without s key).subset ((sublist_withRoom _).subset h.1))

/-- An entry comes back under a key that is named and absent; the others stay. -/
theorem mem_restore_iff {s : Segment α} {key : String} {value : α} {expiresAt : Option Instant}
    {a : Entry α} : a ∈ (s.restore key value expiresAt).2.entries.list ↔
      a ∈ s.entries.list ∨ a.key ≠ "" ∧ a.key ∉ s.keys ∧ a = ⟨key, value, expiresAt⟩ := by
  rcases s.restore_cases key value expiresAt with ⟨hstays, hi⟩ | ⟨hk, hfind, hi⟩
  · rw [hi]
    refine ⟨.inl, fun h => h.resolve_right ?_⟩
    rintro ⟨hne, habsent, rfl⟩
    rcases hstays with hempty | hpresent
    · exact hne hempty
    · obtain ⟨e, he⟩ := Option.isSome_iff_exists.1 hpresent
      obtain ⟨hmem, hkey⟩ := Entries.find?_eq_some_iff.1 he
      exact habsent (List.mem_map.2 ⟨e, hmem, hkey⟩)
  · have habsent : key ∉ s.keys := by
      intro hmem
      obtain ⟨e, he⟩ := exists_find?_of_mem_keys hmem
      rw [hfind] at he
      cases he
    rw [hi]
    constructor
    · intro h
      rcases (Entries.mem_toFront hk).1 h with rfl | h
      · exact .inr ⟨hk, habsent, rfl⟩
      · exact .inl h.1
    · rintro (h | ⟨-, -, rfl⟩)
      · exact (Entries.mem_toFront hk).2 (.inr ⟨h, Entries.key_ne_of_find?_none hfind a h⟩)
      · exact (Entries.mem_toFront hk).2 (.inl rfl)

theorem mem_erase {s : Segment α} {key : String} {e : Entry α} :
    e ∈ (s.erase key).2.entries.list ↔ e ∈ s.entries.list ∧ e.key ≠ key := Entries.mem_without

theorem mem_sweep {s : Segment α} {time : Instant} {e : Entry α} :
    e ∈ (s.sweep time).2.entries.list ↔ e ∈ s.entries.list ∧ e.hasExpired time = false := by
  show e ∈ s.entries.list.filter (fun e => !e.hasExpired time) ↔ _
  rw [List.mem_filter, Bool.not_eq_true']

end Segment

end Roster
