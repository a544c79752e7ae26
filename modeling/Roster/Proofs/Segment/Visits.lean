import Roster.Proofs.Segment.Ledger

/-!
# A sweep with visits

* `Entries.drain`, `Entries.drain_keep` — entries taken out key by key are those that a filter takes out at
  once, because no key is there twice.
* `Segment.Parts`, `Segment.parts_splitExpired` — a sweep splits a segment in two, and no
  entry is lost, doubled or moved.
* `Segment.Program.play` — a run that notes its calls down; `Program.play_calls` — those calls make the same of
  a segment, `Program.run_play` — a run that keeps the ledger does the same.
* `Segment.Visited` — visits one after the other: each meets what the one before has left.
* `Segment.SweepsThenVisits`, `Segment.sweepWith_exactly` — **a sweep with visits is a sweep, and then the calls
  of the visits**, so that nothing that a visit writes is swept.
-/

set_option autoImplicit false

namespace Roster

/-! ## Taking entries out -/

namespace Entries

variable {α : Type}

/-- Take out the entries under some keys, one after the other. -/
def drain (es : Entries α) : List String → List (Entry α) × Entries α
  | [] => ([], es)
  | key :: keys =>
    let (taken, rest) := (es.without key).drain keys
    ((es.find? key).toList ++ taken, rest)

theorem drain_map_key {l : List (Entry α)} {es : Entries α} (hnodup : (l.map Entry.key).Nodup)
    (hmem : ∀ e ∈ l, e ∈ es.list) :
    es.drain (l.map Entry.key) = (l, es.keep fun e => decide (e.key ∉ l.map Entry.key)) := by
  induction l generalizing es with
  | nil =>
    refine Prod.ext rfl (ext ?_)
    exact (List.filter_eq_self.2 fun e _ => by simp).symm
  | cons a l ih =>
    obtain ⟨hnot, hnodup⟩ := List.nodup_cons.1 hnodup
    have hfind : es.find? a.key = some a := find?_eq_some_iff.2 ⟨hmem a List.mem_cons_self, rfl⟩
    have hleft : ∀ e ∈ l, e ∈ (es.without a.key).list := fun e he => mem_without.2
      ⟨hmem e (List.mem_cons_of_mem a he), fun hk => hnot (hk ▸ List.mem_map_of_mem he)⟩
    rw [List.map_cons, drain, ih hnodup hleft, hfind]
    refine Prod.ext rfl (ext ?_)
    show (es.without a.key).list.filter _ = es.list.filter _
    rw [list_without, List.filter_filter]
    refine List.filter_congr fun e _ => ?_
    by_cases hk : e.key = a.key <;> simp [hk]

/-- **Taking the entries that pass a test out key by key** leaves the others as they are. -/
theorem drain_keep (es : Entries α) (p : Entry α → Bool) :
    es.drain (es.keep p).keys = ((es.keep p).list, es.keep fun e => !p e) := by
  have hmem : ∀ e ∈ (es.keep p).list, e ∈ es.list := fun e he => (List.mem_filter.1 he).1
  refine (drain_map_key (es.keep p).nodup hmem).trans (Prod.ext rfl (ext (List.filter_congr fun e he => ?_)))
  cases hp : p e with
  | true => exact decide_eq_false (not_not.2 (List.mem_map_of_mem (List.mem_filter.2 ⟨he, hp⟩)))
  | false =>
    -- another entry under the key would have to be this one
    refine decide_eq_true fun hkey => ?_
    obtain ⟨a, ha, hk⟩ := List.mem_map.1 hkey
    rw [eq_of_key_eq (hmem a ha) he hk] at ha
    exact Bool.false_ne_true (hp.symm.trans (List.mem_filter.1 ha).2)

end Entries

theorem Entry.hasExpired_iff {α : Type} {e : Entry α} {now : Instant} :
    e.hasExpired now = true ↔ ∃ expiry, e.expiresAt = some expiry ∧ expiry ≤ now := by
  unfold hasExpired
  cases e.expiresAt <;> simp

theorem Entry.not_hasExpired_iff {α : Type} {e : Entry α} {now : Instant} :
    (!e.hasExpired now) = true ↔ ∀ expiry, e.expiresAt = some expiry → now < expiry := by
  unfold hasExpired
  cases e.expiresAt <;> simp [Instant.le_def, Instant.lt_def]

namespace Segment

variable {α : Type} {s : Segment α}

/-! ## The two parts -/

/-- A segment that was split in what has expired at a time and the rest. -/
structure Parts (s : Segment α) (time : Instant) (removed : List (Entry α)) (rest : Segment α) : Prop where
  removed_iff : ∀ e, e ∈ removed ↔ e ∈ s.entries.list ∧ ∃ expiry, e.expiresAt = some expiry ∧ expiry ≤ time
  kept_iff : ∀ e, e ∈ rest.entries.list ↔
    e ∈ s.entries.list ∧ ∀ expiry, e.expiresAt = some expiry → time < expiry
  removed_order : removed.Sublist s.entries.list
  kept_order : rest.entries.list.Sublist s.entries.list
  /-- The keys may be collected first, and the entries be taken out one by one. -/
  drained : s.entries.drain (removed.map Entry.key) = (removed, rest.entries)
  size : rest.size = rest.entries.size
  /-- The settings and the counters stay. -/
  same : rest = { s with entries := rest.entries, size := rest.size }

theorem parts_splitExpired (s : Segment α) (time : Instant) :
    Parts s time (s.splitExpired time).1 (s.splitExpired time).2 where
  removed_iff e := by
    rw [← Entry.hasExpired_iff]
    exact List.mem_filter
  kept_iff e := by
    rw [← Entry.not_hasExpired_iff]
    exact List.mem_filter
  removed_order := List.filter_sublist
  kept_order := List.filter_sublist
  drained := s.entries.drain_keep fun e => e.hasExpired time
  size := rfl
  same := rfl

/-! ## Runs that note their calls down -/

/-- A visit of a sweep: the entry, the segment that the visit met, and its calls. -/
structure Visit (α : Type) where
  entry : Entry α
  met : Segment α
  calls : List (Instant × SegmentCall α)

/-- Run a program, and note its calls down: the value, the segment at the end and the calls. -/
def Program.play {β : Type} : Program α β → Segment α → β × Segment α × List (Instant × SegmentCall α)
  | .done value, s => (value, s, [])
  | .look next, s => (next s).play s
  | .call now c next, s =>
    let (value, left, calls) := (next (s.call now c).1).play (s.call now c).2
    (value, left, (now, c) :: calls)
  | .sweepWith time visit init next, s =>
    let visitEntry (e : Entry α) (x : Segment α × List (Visit α) × _) : Segment α × List (Visit α) × _ :=
      let (value, left, calls) := (visit e x.2.2).play x.1
      (left, x.2.1 ++ [⟨e, x.1, calls⟩], value)
    let (n, left, visits, value) := s.sweepWith time visitEntry ([], init)
    let (value, left, calls) := (next n value).play left
    (value, left, (time, .sweep time) :: (visits.flatMap Visit.calls ++ calls))

/-- Visit an entry with a program, and note the visit down. -/
def noteVisit {σ : Type} (visit : Entry α → σ → Program α σ) (e : Entry α)
    (x : Segment α × List (Visit α) × σ) :
    Segment α × List (Visit α) × σ :=
  let (value, left, calls) := (visit e x.2.2).play x.1
  (left, x.2.1 ++ [⟨e, x.1, calls⟩], value)

/-- Visits with a program one after the other: each meets the segment and the value
that the one before has left. -/
inductive Visited {σ : Type} (visit : Entry α → σ → Program α σ) :
    Segment α → σ → List (Visit α) → Segment α → σ → Prop where
  | nil (s : Segment α) (x : σ) : Visited visit s x [] s x
  | cons {e : Entry α} {s left last : Segment α} {x y z : σ} {calls : List (Instant × SegmentCall α)}
    {visits : List (Visit α)} : (visit e x).play s = (y, left, calls) → Visited visit left y visits last z →
      Visited visit s x (⟨e, s, calls⟩ :: visits) last z

section Visits

variable {σ : Type} {visit : Entry α → σ → Program α σ}

/-- The visits of some entries, behind others that were noted down already. -/
theorem visited_foldl (visit : Entry α → σ → Program α σ) (l : List (Entry α)) (noted : List (Visit α))
    (s : Segment α) (x : σ) :
    ∃ visits, (l.foldl (fun x e => noteVisit visit e x) (s, noted, x)).2.1 = noted ++ visits ∧
      visits.map Visit.entry = l ∧
      Visited visit s x visits (l.foldl (fun x e => noteVisit visit e x) (s, noted, x)).1
        (l.foldl (fun x e => noteVisit visit e x) (s, noted, x)).2.2 := by
  induction l generalizing noted s x with
  | nil => exact ⟨[], (List.append_nil noted).symm, rfl, .nil s x⟩
  | cons e l ih =>
    obtain ⟨visits, hnoted, hentries, hvisited⟩ := ih (noted ++ [⟨e, s, ((visit e x).play s).2.2⟩])
      ((visit e x).play s).2.1 ((visit e x).play s).1
    refine ⟨⟨e, s, ((visit e x).play s).2.2⟩ :: visits, ?_, ?_, .cons rfl hvisited⟩
    · exact hnoted.trans (List.append_assoc ..)
    · rw [List.map_cons, hentries]

theorem calls_append (s : Segment α) (cs cs' : List (Instant × SegmentCall α)) :
    s.calls (cs ++ cs') = (s.calls cs).calls cs' := List.foldl_append

/-- What visits make of a segment, their calls make of it too, if this is so for each of them. -/
theorem Visited.calls {s s' : Segment α} {x x' : σ} {visits : List (Visit α)}
    (h : Visited visit s x visits s' x')
    (hplay : ∀ e x s, ((visit e x).play s).2.1 = s.calls ((visit e x).play s).2.2) :
    s' = s.calls (visits.flatMap Visit.calls) := by
  induction h with
  | nil s x => rfl
  | @cons e s left last x y z calls visits hvisit _ ih =>
    have hleft : left = s.calls calls := by simpa only [hvisit] using hplay e x s
    rw [ih, List.flatMap_cons, calls_append, ← hleft]

end Visits

/-- The visits of a sweep. -/
theorem visited_sweepWith {σ : Type} (visit : Entry α → σ → Program α σ) (s : Segment α)
    (time : Instant) (init : σ) :
    (s.sweepWith time (noteVisit visit) ([], init)).2.2.1.map Visit.entry = (s.splitExpired time).1 ∧
      Visited visit (s.sweep time).2 init (s.sweepWith time (noteVisit visit) ([], init)).2.2.1
        (s.sweepWith time (noteVisit visit) ([], init)).2.1
          (s.sweepWith time (noteVisit visit) ([], init)).2.2.2 := by
  obtain ⟨visits, hnoted, hentries, hvisited⟩ :=
    visited_foldl visit (s.splitExpired time).1 [] (s.splitExpired time).2 init
  rw [List.nil_append] at hnoted
  subst hnoted
  exact ⟨hentries, hvisited⟩

/-- A sweep with visits notes the sweep down, then the calls of the visits, then those of the rest. -/
theorem Program.play_sweepWith {σ β : Type} (time : Instant) (visit : Entry α → σ → Program α σ) (init : σ)
    (next : Nat → σ → Program α β) (s : Segment α) :
    (Program.sweepWith time visit init next).play s =
      let swept := s.sweepWith time (noteVisit visit) ([], init)
      let rest := (next swept.1 swept.2.2.2).play swept.2.1
      (rest.1, rest.2.1, (time, .sweep time) :: (swept.2.2.1.flatMap Visit.calls ++ rest.2.2)) := rfl

/-- **The calls that a program notes down make the same of a segment.** -/
theorem Program.play_calls {β : Type} (p : Program α β) (s : Segment α) :
    (p.play s).2.1 = s.calls (p.play s).2.2 := by
  induction p generalizing s with
  | done value => rfl
  | look next ih => exact ih s s
  | call now c next ih => exact ih _ _
  | sweepWith time visit init next ihvisit ihnext =>
    obtain ⟨-, hvisited⟩ := visited_sweepWith visit s time init
    rw [play_sweepWith]
    dsimp only
    rw [ihnext, hvisited.calls ihvisit]
    exact (calls_append (s.sweep time).2 _ _).symm

/-! ## Runs that keep the ledger -/

/-- Visit an entry with a program, and keep the ledger. -/
def keepVisit {σ : Type} (visit : Entry α → σ → Program α σ) (e : Entry α) (x : Segment α × Ledger × σ) :
    Segment α × Ledger × σ :=
  let (value, left, ledger) := (visit e x.2.2).run x.1 x.2.1
  (left, ledger, value)

theorem foldl_keepVisit {σ : Type} {visit : Entry α → σ → Program α σ}
    (hvisit : ∀ e x s l, ((visit e x).run s l).1 = ((visit e x).play s).1 ∧
      ((visit e x).run s l).2.1 = ((visit e x).play s).2.1)
    (es : List (Entry α)) (s : Segment α) (l : Ledger) (noted : List (Visit α)) (x : σ) :
    (es.foldl (fun x e => keepVisit visit e x) (s, l, x)).1 =
        (es.foldl (fun x e => noteVisit visit e x) (s, noted, x)).1 ∧
      (es.foldl (fun x e => keepVisit visit e x) (s, l, x)).2.2 =
        (es.foldl (fun x e => noteVisit visit e x) (s, noted, x)).2.2 := by
  induction es generalizing s l noted x with
  | nil => exact ⟨rfl, rfl⟩
  | cons e es ih =>
    obtain ⟨hvalue, hleft⟩ := hvisit e x s l
    have hkept : keepVisit visit e (s, l, x) =
        (((visit e x).play s).2.1, ((visit e x).run s l).2.2, ((visit e x).play s).1) := by
      rw [← hvalue, ← hleft]
      rfl
    rw [List.foldl_cons, List.foldl_cons, hkept]
    exact ih _ _ _ _

/-- A run that keeps the ledger comes to the same value and the same segment. -/
theorem Program.run_play {β : Type} (p : Program α β) (s : Segment α) (l : Ledger) :
    (p.run s l).1 = (p.play s).1 ∧ (p.run s l).2.1 = (p.play s).2.1 := by
  induction p generalizing s l with
  | done value => exact ⟨rfl, rfl⟩
  | look next ih => exact ih s s l
  | call now c next ih => exact ih _ _ _
  | sweepWith time visit init next ihvisit ihnext =>
    obtain ⟨hleft, hvalue⟩ := foldl_keepVisit ihvisit (s.splitExpired time).1 (s.splitExpired time).2 l [] init
    have hrun : (Program.sweepWith time visit init next).run s l =
        let swept := s.sweepWith time (keepVisit visit) (l, init)
        (next swept.1 swept.2.2.2).run swept.2.1 { swept.2.2.1 with swept := swept.2.2.1.swept + swept.1 } :=
          rfl
    rw [play_sweepWith, hrun]
    dsimp only [Segment.sweepWith]
    rw [hleft, hvalue]
    exact ihnext _ _ _ _

/-! ## What a visit writes -/

/-- An entry that is not there any more after some calls was taken out or replaced by one of them. -/
theorem find?_calls_or_taken {key : String} {e : Entry α} (hfind : s.find? key = some e)
    (cs : List (Instant × SegmentCall α)) : (s.calls cs).find? key = some e ∨
      ∃ before c after, cs = before ++ c :: after ∧ (s.calls before).find? key = some e ∧
        (s.calls (before ++ [c])).find? key ≠ some e := by
  induction cs generalizing s with
  | nil => exact .inl hfind
  | cons c cs ih =>
    by_cases hnext : (s.call c.1 c.2).2.find? key = some e
    · rcases ih hnext with hlast | ⟨before, c', after, rfl, hthere, htaken⟩
      · exact .inl hlast
      · exact .inr ⟨c :: before, c', after, rfl, hthere, htaken⟩
    · exact .inr ⟨[], c, cs, rfl, hfind, hnext⟩

/-- A visit that writes its entry anew. -/
def rewrites (now : Instant) (again : Entry α → α × Option Instant) (e : Entry α) (_ : Unit) : Program α Unit :=
  .call now (.insertUntil e.key (again e).1 (again e).2) fun _ => .done ()

theorem calls_of_rewrites {now : Instant} {again : Entry α → α × Option Instant}
    {s s' : Segment α} {x x' : Unit} {visits : List (Visit α)}
    (h : Visited (rewrites now again) s x visits s' x') :
    visits.flatMap Visit.calls =
      (visits.map Visit.entry).map fun e => (now, .insertUntil e.key (again e).1 (again e).2) := by
  induction h with
  | nil s x => rfl
  | cons hvisit _ ih =>
    cases hvisit
    rw [List.flatMap_cons, ih]
    rfl

/-- Entries under keys that have none come to the front one after the other while there is room. -/
theorem list_calls_insertUntil (now : Instant) (again : Entry α → α × Option Instant) {es : List (Entry α)}
    (hnodup : (es.map Entry.key).Nodup) (hnamed : ∀ e ∈ es, e.key ≠ "") (habsent : ∀ e ∈ es, e.key ∉ s.keys)
    (hroom : s.limit = 0 ∨ es.length + s.entries.list.length ≤ s.limit) :
    (s.calls (es.map fun e => (now, .insertUntil e.key (again e).1 (again e).2))).entries.list =
      (es.map fun e => ⟨e.key, (again e).1, (again e).2⟩).reverse ++ s.entries.list := by
  induction es generalizing s with
  | nil => rfl
  | cons e es ih =>
    obtain ⟨hnot, hnodup⟩ := List.nodup_cons.1 hnodup
    obtain ⟨hkey, hnamed⟩ := List.forall_mem_cons.1 hnamed
    obtain ⟨hnone, habsent⟩ := List.forall_mem_cons.1 habsent
    have hlimit := (s.insertUntil_keeps e.key (again e).1 (again e).2).1
    have hlist : (s.insertUntil e.key (again e).1 (again e).2).entries.list =
        ⟨e.key, (again e).1, (again e).2⟩ :: s.entries.list := by
      rw [list_insertUntil_of_absent hkey (find?_of_not_mem_keys hnone)]
      split
      · rfl
      · rename_i hbounded
        have hfits := hroom.resolve_left hbounded
        rw [List.length_cons] at hfits
        rw [List.take_of_length_le (by omega)]
    refine (ih (s := s.insertUntil e.key (again e).1 (again e).2) hnodup hnamed ?_ ?_).trans ?_
    · intro a ha
      show a.key ∉ (s.insertUntil e.key (again e).1 (again e).2).entries.list.map Entry.key
      rw [hlist, List.map_cons, List.mem_cons, not_or]
      exact ⟨fun hk => hnot (hk ▸ List.mem_map_of_mem ha), habsent a ha⟩
    · rw [hlimit, hlist, List.length_cons]
      rw [List.length_cons] at hroom
      omega
    · rw [hlist, List.map_cons, List.reverse_cons, List.append_assoc]
      rfl

/-! ## The sweep and the visits -/

/-- What came of a sweep with visits: how many entries it removed, the segment and the value at the end, and the
visits. -/
structure SweepsThenVisits {σ : Type} (s : Segment α) (time : Instant)
    (visit : Entry α → σ → Program α σ) (init : σ) (n : Nat) (last : Segment α) (visits : List (Visit α))
    (value : σ) : Prop where
  count : n = (s.splitExpired time).1.length
  /-- One visit for each removed entry, in the order that they had. -/
  entries : visits.map Visit.entry = (s.splitExpired time).1
  /-- The first visit meets the swept segment. -/
  visited : Visited visit (s.sweep time).2 init visits last value
  /-- The segment at the end is what the sweep alone and the calls of the visits behind it make of it. -/
  last_eq : last = s.calls ((time, .sweep time) :: visits.flatMap Visit.calls)
  /-- An entry that is there after a call of a visit, expired or not, is there at the end unless a later
  call of a visit takes it out. -/
  spared : ∀ before c after e, visits.flatMap Visit.calls = before ++ c :: after →
    ((s.sweep time).2.calls (before ++ [c])).find? e.key = some e → last.find? e.key = some e ∨
      ∃ between c' rest, after = between ++ c' :: rest ∧
        ((s.sweep time).2.calls (before ++ [c] ++ between)).find? e.key = some e ∧
        ((s.sweep time).2.calls (before ++ [c] ++ (between ++ [c']))).find? e.key ≠ some e

theorem sweepsThenVisits {σ : Type} (s : Segment α) (time : Instant)
    (visit : Entry α → σ → Program α σ) (init : σ) :
    let swept := s.sweepWith time (noteVisit visit) ([], init)
    SweepsThenVisits s time visit init swept.1 swept.2.1 swept.2.2.1 swept.2.2.2 := by
  obtain ⟨hentries, hvisited⟩ := visited_sweepWith visit s time init
  have hlast := hvisited.calls fun e x => (visit e x).play_calls
  refine ⟨rfl, hentries, hvisited, hlast, ?_⟩
  intro before c after e hcalls hfind
  rw [hlast, hcalls, List.append_cons, calls_append]
  rcases find?_calls_or_taken hfind after with hthere | ⟨between, c', rest, hafter, hthere, htaken⟩
  · exact .inl hthere
  · rw [← calls_append] at hthere htaken
    exact .inr ⟨between, c', rest, hafter, hthere, htaken⟩

/-- **A sweep with visits is a sweep, and then the calls of the visits.**  It takes out exactly what has
expired, and visits each such entry once; nothing that a visit writes is swept, so that an entry that is written
anew, with whatever expiry, is there at the end, as long as there is room. -/
theorem sweepWith_exactly (s : Segment α) (time : Instant) :
    Parts s time (s.splitExpired time).1 (s.sweep time).2 ∧
    (∀ {σ : Type} (visit : Entry α → σ → Program α σ) (init : σ),
      let swept := s.sweepWith time (noteVisit visit) ([], init)
      SweepsThenVisits s time visit init swept.1 swept.2.1 swept.2.2.1 swept.2.2.2) ∧
    ∀ (now : Instant) (again : Entry α → α × Option Instant), s.limit = 0 ∨ s.entries.size ≤ s.limit →
      (s.sweepWith time (noteVisit (rewrites now again)) ([], ())).2.1.entries.list =
        ((s.splitExpired time).1.map fun e => ⟨e.key, (again e).1, (again e).2⟩).reverse ++
          (s.sweep time).2.entries.list := by
  refine ⟨s.parts_splitExpired time, sweepsThenVisits s time, ?_⟩
  intro now again hroom
  obtain ⟨-, hentries, hvisited, hlast, -⟩ := sweepsThenVisits s time (rewrites now again) ()
  have hparts := s.parts_splitExpired time
  have hsize : (s.splitExpired time).1.length + (s.sweep time).2.entries.list.length = s.entries.size :=
    s.sweep_add_size time
  rw [hlast, calls_of_rewrites hvisited, hentries]
  refine list_calls_insertUntil (s := (s.sweep time).2) now again ?_ ?_ ?_ ?_
  · exact s.entries.nodup.sublist (hparts.removed_order.map _)
  · exact fun e he => s.entries.named e (hparts.removed_order.subset he)
  · -- a key that is left would be there twice
    intro e he hkey
    obtain ⟨a, ha, hk⟩ := List.mem_map.1 hkey
    obtain ⟨hmem, expiry, hexpiry, hle⟩ := (hparts.removed_iff e).1 he
    obtain ⟨hkept, hlater⟩ := (hparts.kept_iff a).1 ha
    obtain rfl := Entries.eq_of_key_eq hkept hmem hk
    have hlt := hlater expiry hexpiry
    rw [Instant.le_def] at hle
    rw [Instant.lt_def] at hlt
    omega
  · rw [hsize]
    exact hroom

/-- Two entries that have expired, and one that has not. -/
def sampleDue : Segment Nat := (new "s" ⟨0, none⟩).calls
  [(.epoch, .insertUntil "a" 1 (some .first)), (.epoch, .insert "b" 2),
    (.epoch, .insertUntil "c" 3 (some .epoch))]

/-- Both are swept, and written anew they stay, although they have expired. -/
theorem sweepWith_exactly_sample :
    let again (e : Entry Nat) : Nat × Option Instant := (e.value + 1, some .first)
    sampleDue.limit = 0 ∧
      (sampleDue.sweepWith .epoch (noteVisit (rewrites .epoch again)) ([], ())).2.1.entries.list =
        [⟨"a", 2, some .first⟩, ⟨"c", 4, some .first⟩, ⟨"b", 2, none⟩] :=
  ⟨rfl, ((sweepWith_exactly sampleDue .epoch).2.2 .epoch _ (.inl rfl)).trans (by decide)⟩

end Segment

end Roster
