import Roster.Proofs.Segment.Capacity

/-!
# Accounting for entries

Where the entries of a segment come from and by which doors they leave, over every program that uses the
segment, also one whose callbacks use it while a sweep is under way.

* `Segment.Ledger` — how many reads there were and how many found a record, how many entries were created, and
  how many were erased, swept, dropped by a use of their own key, or cleared.
* `Step.posting` — what a call adds to the ledger.  `Step.Balanced`, `Step.balanced`: the counters and the
  number of entries move by just that, one case for each call.
* `Segment.Program`, `Program.run` — a program of calls, looks and sweeps with a program for each swept
  entry; its run keeps the ledger.
* `Segment.Leads`, `Program.leads_run` — what a program makes of a segment, a run of calls makes of it too.
* `Segment.Accounts`, `Program.accounts_run` — **the ledger accounts for a segment** up to the entries of the
  sweeps under way, and a run keeps it so.
* `Segment.accounts_of_new` — every run from the empty segment.
-/

set_option autoImplicit false

namespace Roster.Segment

variable {α : Type} {s : Segment α}

/-! ## The ledger -/

/-- What came of the calls of a run. -/
structure Ledger where
  /-- Reads, those of the empty key too. -/
  reads : Nat := 0
  /-- Reads that found a record. -/
  found : Nat := 0
  /-- Entries under a key that had none, or none that was live. -/
  created : Nat := 0
  erased : Nat := 0
  swept : Nat := 0
  /-- Expired entries that a read or a conditional write of their own key took out. -/
  dropped : Nat := 0
  cleared : Nat := 0

namespace Ledger

instance : Add Ledger where
  add l m :=
    ⟨l.reads + m.reads, l.found + m.found, l.created + m.created, l.erased + m.erased, l.swept + m.swept,
    l.dropped + m.dropped, l.cleared + m.cleared⟩

/-- The entries that left by the doors that the ledger keeps; evictions the segment counts itself. -/
def gone (l : Ledger) : Nat := l.erased + l.swept + l.dropped + l.cleared

theorem gone_add (l m : Ledger) : (l + m).gone = l.gone + m.gone := by
  show (l.erased + m.erased) + (l.swept + m.swept) + (l.dropped + m.dropped) + (l.cleared + m.cleared) = _
  unfold gone
  omega

end Ledger

/-- What a call adds to the ledger. -/
def Step.posting (st : Step α) : Ledger where
  reads := match st.call with
    | .get _ => 1
    | _ => 0
  found := match st.call, st.reply with
    | .get _, .found (some _) => 1
    | _, _ => 0
  created := (st.inserts || st.restores).toNat
  erased := match st.call, st.reply with
    | .erase _, .told true => 1
    | _, _ => 0
  swept := match st.call, st.reply with
    | .sweep _, .counted n => n
    | _, _ => 0
  dropped := match st.call with
    | .get key => ((st.before.find? key).any fun e => e.hasExpired st.now).toNat
    | .insertUnlessLive key _ => ((st.before.find? key).any fun e => e.hasExpired st.now).toNat
    | _ => 0
  cleared := match st.call with
    | .clear => st.before.entries.size
    | _ => 0

/-! ## One call -/

/-- A call moves the counters and the number of entries by what it posts. -/
structure Step.Balanced (st : Step α) : Prop where
  reads : st.after.hits + st.after.misses = st.before.hits + st.before.misses + st.posting.reads
  found : st.after.hits = st.before.hits + st.posting.found
  entries : st.after.entries.size + st.after.evictions + st.posting.gone =
    st.before.entries.size + st.before.evictions + st.posting.created

theorem reads_withRoom (s : Segment α) : s.withRoom.hits + s.withRoom.misses = s.hits + s.misses := by
  unfold withRoom
  split <;> rfl

theorem size_withRoom_add_evictions (s : Segment α) :
    s.withRoom.entries.size + s.withRoom.evictions = s.entries.size + s.evictions := by
  unfold withRoom
  split
  · rfl
  · exact s.size_keepRecent_add_evictions _

theorem size_without_add (s : Segment α) (key : String) :
    (s.without key).entries.size + (s.find? key).isSome.toNat = s.entries.size := by
  show (s.entries.without key).list.length + _ = _
  cases h : (s.find? key).isSome with
  | true =>
    rw [Entries.list_without]
    exact Entries.length_filter h
  | false =>
    rw [Entries.without_of_find?_none (Option.not_isSome_iff_eq_none.1 (Bool.eq_false_iff.1 h))]
    rfl

theorem size_toFront_of_absent {e : Entry α} (hk : e.key ≠ "") (h : s.find? e.key = none) :
    (s.toFront e hk).entries.size = s.entries.size + 1 := by
  have hwithout := s.entries.list_without e.key
  rw [Entries.without_of_find?_none h] at hwithout
  show (s.entries.toFront e hk).list.length = s.entries.list.length + 1
  rw [Entries.list_toFront, ← hwithout, List.length_cons]

/-- A new entry comes in, and what makes room for it is evicted. -/
theorem size_withRoom_toFront {e : Entry α} (hk : e.key ≠ "") (h : s.find? e.key = none) :
    (s.withRoom.toFront e hk).entries.size + (s.withRoom.toFront e hk).evictions =
      s.entries.size + s.evictions + 1 := by
  have hroom := s.size_withRoom_add_evictions
  have hsize : (s.withRoom.toFront e hk).entries.size = s.withRoom.entries.size + 1 :=
    congrArg List.length (list_withRoom_toFront hk h)
  have hevictions : (s.withRoom.toFront e hk).evictions = s.withRoom.evictions := rfl
  omega

namespace Step

theorem Balanced.of {st : Step α} {after : Segment α} {l : Ledger} (hafter : st.after = after)
    (hposting : st.posting = l)
    (reads : after.hits + after.misses = st.before.hits + st.before.misses + l.reads)
    (found : after.hits = st.before.hits + l.found)
    (entries : after.entries.size + after.evictions + l.gone =
      st.before.entries.size + st.before.evictions + l.created) : st.Balanced := by
  subst hafter hposting
  exact ⟨reads, found, entries⟩

theorem posting_get (s : Segment α) (now : Instant) (key : String) :
    (⟨s, now, .get key⟩ : Step α).posting =
      { reads := 1
        found := (s.get key now).1.isSome.toNat
        dropped := ((s.find? key).any fun e => e.hasExpired now).toNat } := by
  unfold posting reply
  dsimp only [Segment.call]
  cases (s.get key now).1 <;> rfl

theorem balanced_get (s : Segment α) (now : Instant) (key : String) :
    (⟨s, now, .get key⟩ : Step α).Balanced := by
  have hafter : (⟨s, now, .get key⟩ : Step α).after = (s.get key now).2 := rfl
  have hposting := posting_get s now key
  rcases s.get_cases key now with ⟨hnone, hg⟩ | ⟨e, he, hx, hg⟩ | ⟨e, he, hx, hg⟩
  · rw [hg] at hafter
    rw [hg, hnone] at hposting
    exact .of hafter hposting rfl rfl rfl
  · rw [hg] at hafter
    rw [hg, he, Option.any_some, hx] at hposting
    have hsize : (s.without key).entries.size + 1 = s.entries.size := by simpa [he] using s.size_without_add key
    refine .of hafter hposting rfl rfl ?_
    show (s.without key).entries.size + s.evictions + 1 = s.entries.size + s.evictions
    omega
  · rw [hg] at hafter
    rw [hg, he, Option.any_some, hx] at hposting
    have hthere : (s.find? e.key).isSome = true := by rw [Entries.key_of_find? he, he]; rfl
    have hsize := entries_size_toFront (Entries.named_of_find? he) hthere
    refine .of hafter hposting ?_ rfl ?_
    · show s.hits + 1 + s.misses = s.hits + s.misses + 1
      omega
    · exact congrArg (· + s.evictions) hsize

theorem balanced_insertUntil {st : Step α} {key : String} {value : α} {expiresAt : Option Instant}
    (hafter : st.after = st.before.insertUntil key value expiresAt)
    (hposting : st.posting = { created := (decide (key ≠ "") && (st.before.find? key).isNone).toNat }) :
    st.Balanced := by
  rcases st.before.insertUntil_cases key value expiresAt with ⟨rfl, hi⟩ | ⟨hk, hthere, hi⟩ | ⟨hk, hnone, hi⟩
  · exact .of (hafter.trans hi) hposting rfl rfl rfl
  · have hcreated : (decide (key ≠ "") && (st.before.find? key).isNone) = false := by
      rw [Option.isNone_eq_false_iff.2 hthere, Bool.and_false]
    have hsize := entries_size_toFront (e := ⟨key, value, expiresAt⟩) hk hthere
    rw [hcreated] at hposting
    exact .of (hafter.trans hi) hposting rfl rfl (congrArg (· + st.before.evictions) hsize)
  · have hcreated : (decide (key ≠ "") && (st.before.find? key).isNone) = true := by simp [hk, hnone]
    have hsize := size_withRoom_toFront (e := ⟨key, value, expiresAt⟩) hk hnone
    rw [hcreated] at hposting
    exact .of (hafter.trans hi) hposting st.before.reads_withRoom st.before.withRoom_keeps.2.2 hsize

theorem posting_insertUnlessLive (s : Segment α) (now : Instant) (key : String) (value : α) :
    (⟨s, now, .insertUnlessLive key value⟩ : Step α).posting =
      { created := (s.insertUnlessLive key value now).1.toNat
        dropped := ((s.find? key).any fun e => e.hasExpired now).toNat } := by
  unfold posting inserts restores reply
  dsimp only [Segment.call]
  cases (s.insertUnlessLive key value now).1 <;> rfl

theorem balanced_insertUnlessLive (s : Segment α) (now : Instant) (key : String) (value : α) :
    (⟨s, now, .insertUnlessLive key value⟩ : Step α).Balanced := by
  have hafter : (⟨s, now, .insertUnlessLive key value⟩ : Step α).after = (s.insertUnlessLive key value now).2 :=
    rfl
  have hposting := posting_insertUnlessLive s now key value
  rcases s.insertUnlessLive_cases key value now with ⟨rfl, hi⟩ | ⟨e, he, hx, hi⟩ | ⟨hk, hx, hi⟩
  · rw [hi] at hafter
    rw [hi, find?_empty_key] at hposting
    exact .of hafter hposting rfl rfl rfl
  · rw [hi] at hafter
    rw [hi, he, Option.any_some, hx] at hposting
    exact .of hafter hposting rfl rfl rfl
  · -- an entry that is there has expired, so it is dropped
    have hdropped : ((s.find? key).any fun e => e.hasExpired now) = (s.find? key).isSome := by
      cases hfind : s.find? key with
      | none => rfl
      | some e => exact hx e hfind
    have hnone : (s.without key).find? key = none := by rw [find?_without, if_pos rfl]
    have hsize := size_withRoom_toFront (e := ⟨key, value, s.expiryFrom now⟩) hk hnone
    have hwithout := s.size_without_add key
    rw [hi] at hafter
    rw [hi, hdropped] at hposting
    refine .of hafter hposting (s.without key).reads_withRoom (s.without key).withRoom_keeps.2.2 ?_
    show _ + (0 + 0 + (s.find? key).isSome.toNat + 0) = s.entries.size + s.evictions + 1
    have hevictions : (s.without key).evictions = s.evictions := rfl
    simp only [recount] at hsize ⊢
    omega

theorem posting_restore (s : Segment α) (now : Instant) (key : String) (value : α)
    (expiresAt : Option Instant) :
    (⟨s, now, .restore key value expiresAt⟩ : Step α).posting =
      { created := (s.restore key value expiresAt).1.toNat } := by
  unfold posting inserts restores reply
  dsimp only [Segment.call]
  cases (s.restore key value expiresAt).1 <;> rfl

theorem balanced_restore (s : Segment α) (now : Instant) (key : String) (value : α)
    (expiresAt : Option Instant) :
    (⟨s, now, .restore key value expiresAt⟩ : Step α).Balanced := by
  have hafter : (⟨s, now, .restore key value expiresAt⟩ : Step α).after = (s.restore key value expiresAt).2 :=
    rfl
  have hposting := posting_restore s now key value expiresAt
  rcases s.restore_cases key value expiresAt with ⟨-, hr⟩ | ⟨hk, hnone, hr⟩
  · rw [hr] at hafter hposting
    exact .of hafter hposting rfl rfl rfl
  · rw [hr] at hafter hposting
    have hsize := size_toFront_of_absent (e := ⟨key, value, expiresAt⟩) hk hnone
    refine .of hafter hposting rfl rfl ?_
    show (s.toFront ⟨key, value, expiresAt⟩ hk).entries.size + s.evictions = s.entries.size + s.evictions + 1
    omega

theorem posting_erase (s : Segment α) (now : Instant) (key : String) :
    (⟨s, now, .erase key⟩ : Step α).posting = { erased := (s.find? key).isSome.toNat } := by
  unfold posting reply
  dsimp only [Segment.call, Segment.erase]
  cases (s.find? key).isSome <;> rfl

theorem balanced_erase (s : Segment α) (now : Instant) (key : String) :
    (⟨s, now, .erase key⟩ : Step α).Balanced := by
  have hsize := s.size_without_add key
  refine .of rfl (posting_erase s now key) rfl rfl ?_
  show (s.without key).entries.size + s.evictions + ((s.find? key).isSome.toNat + 0 + 0 + 0) =
    s.entries.size + s.evictions
  omega

theorem balanced_withLimit (s : Segment α) (now : Instant) (limit : Nat) :
    (⟨s, now, .withLimit limit⟩ : Step α).Balanced := by
  by_cases h : limit = 0
  · subst h
    exact ⟨rfl, rfl, rfl⟩
  · have hafter : s.withLimit limit = (keepRecent { s with limit } limit).recount := if_neg h
    refine .of hafter rfl rfl rfl ?_
    exact size_keepRecent_add_evictions { s with limit } limit

/-- **A call moves the counters and the number of entries by what it posts.** -/
theorem balanced (st : Step α) : st.Balanced := by
  obtain ⟨s, now, c⟩ := st
  cases c with
  | get key => exact balanced_get s now key
  | contains key => exact ⟨rfl, rfl, rfl⟩
  | peek key => exact ⟨rfl, rfl, rfl⟩
  | insert key value => exact balanced_insertUntil rfl (by simp [posting, inserts, restores])
  | insertUntil key value expiresAt => exact balanced_insertUntil rfl (by simp [posting, inserts, restores])
  | insertUnlessLive key value => exact balanced_insertUnlessLive s now key value
  | restore key value expiresAt => exact balanced_restore s now key value expiresAt
  | erase key => exact balanced_erase s now key
  | clear =>
    refine .of rfl rfl rfl rfl ?_
    show 0 + s.evictions + (0 + 0 + 0 + s.entries.size) = s.entries.size + s.evictions
    omega
  | sweep time =>
    have hsize := s.sweep_add_size time
    refine .of rfl rfl rfl rfl ?_
    show (s.sweep time).2.size + s.evictions + (0 + (s.sweep time).1 + 0 + 0) = s.entries.size + s.evictions
    omega
  | withTtl ttl => exact ⟨rfl, rfl, rfl⟩
  | withLimit limit => exact balanced_withLimit s now limit

end Step

/-! ## Programs -/

/-- A program over a segment that ends with a value.  What it does next may depend on every reply and on what it
sees when it looks at the segment.  A sweep may come with a program for each entry that it removes. -/
inductive Program (α : Type) : Type → Type 1 where
  | done {β : Type} (value : β) : Program α β
  | look {β : Type} (next : Segment α → Program α β) : Program α β
  | call {β : Type} (now : Instant) (c : SegmentCall α) (next : SegmentReply α → Program α β) : Program α β
  | sweepWith {σ β : Type} (time : Instant) (visit : Entry α → σ → Program α σ) (init : σ)
    (next : Nat → σ → Program α β) : Program α β

/-- Run a program, and keep the ledger: the value, the segment and the ledger at the end. -/
def Program.run {β : Type} : Program α β → Segment α → Ledger → β × Segment α × Ledger
  | .done value, s, l => (value, s, l)
  | .look next, s, l => (next s).run s l
  | .call now c next, s, l =>
    let st : Step α := ⟨s, now, c⟩
    (next st.reply).run st.after (l + st.posting)
  | .sweepWith time visit init next, s, l =>
    let visitEntry (e : Entry α) (x : Segment α × Ledger × _) : Segment α × Ledger × _ :=
      let (value, s, l) := (visit e x.2.2).run x.1 x.2.1
      (s, l, value)
    let (n, s, l, value) := s.sweepWith time visitEntry (l, init)
    (next n value).run s { l with swept := l.swept + n }

/-- Some calls lead from a segment to another. -/
def Leads (s s' : Segment α) : Prop := ∃ cs, s' = s.calls cs

theorem Leads.refl (s : Segment α) : Leads s s := ⟨[], rfl⟩

theorem Leads.trans {s s' s'' : Segment α} (h : Leads s s') (h' : Leads s' s'') : Leads s s'' := by
  obtain ⟨cs, rfl⟩ := h
  obtain ⟨cs', rfl⟩ := h'
  exact ⟨cs ++ cs', List.foldl_append.symm⟩

theorem leads_call (s : Segment α) (now : Instant) (c : SegmentCall α) : Leads s (s.call now c).2 :=
  ⟨[(now, c)], rfl⟩

/-- **What a program makes of a segment, a run of calls makes of it too**: a sweep with visits is a sweep, and
then the calls of the visits. -/
theorem Program.leads_run {β : Type} (p : Program α β) (s : Segment α) (l : Ledger) :
    Leads s (p.run s l).2.1 := by
  induction p generalizing s l with
  | done value => exact .refl s
  | look next ih => exact ih s s l
  | call now c next ih => exact (leads_call s now c).trans (ih _ _ _)
  | sweepWith time visit init next ihvisit ihnext =>
    refine Leads.trans ?_ (ihnext _ _ _ _)
    exact List.foldlRecOn (motive := fun x : Segment α × Ledger × _ => Leads s x.1) _ _
      (leads_call s time (.sweep time))
      fun x hx e _ => hx.trans (ihvisit e x.2.2 x.1 x.2.1)

/-! ## Runs -/

/-- The ledger accounts for a segment, but for the entries of the sweeps that are under way: those have left,
and it is not told yet how many they are. -/
structure Accounts (l : Ledger) (s : Segment α) (underWay : Nat) : Prop where
  reads : s.hits + s.misses = l.reads
  found : s.hits = l.found
  size : s.size = s.entries.size
  entries : l.created = s.size + s.evictions + l.gone + underWay

variable {l : Ledger} {underWay : Nat}

theorem Accounts.new (name : String) (settings : SegmentSettings) :
    Accounts {} (new (α := α) name settings) 0 :=
  ⟨rfl, rfl, rfl, rfl⟩

/-- A call keeps the account. -/
theorem Accounts.step (h : Accounts l s underWay) (now : Instant) (c : SegmentCall α) :
    Accounts (l + (⟨s, now, c⟩ : Step α).posting) (s.call now c).2 underWay := by
  obtain ⟨hreads, hfound, hentries⟩ := Step.balanced ⟨s, now, c⟩
  have hsize := size_call h.size now c
  refine ⟨?_, ?_, hsize, ?_⟩
  · exact hreads.trans (congrArg (· + _) h.reads)
  · exact hfound.trans (congrArg (· + _) h.found)
  · have hbefore := h.entries
    rw [h.size] at hbefore
    show l.created + (⟨s, now, c⟩ : Step α).posting.created = _
    rw [hsize, Ledger.gone_add]
    simp only [Step.after] at hentries
    omega

/-- The entries of a sweep leave before it is told how many they are. -/
theorem Accounts.splitExpired (h : Accounts l s underWay) (time : Instant) :
    Accounts l (s.splitExpired time).2 (underWay + (s.splitExpired time).1.length) := by
  have hsplit : (s.splitExpired time).1.length + (s.splitExpired time).2.size = s.entries.size :=
    s.sweep_add_size time
  have hevictions : (s.splitExpired time).2.evictions = s.evictions := rfl
  have hentries := h.entries
  rw [h.size] at hentries
  refine ⟨h.reads, h.found, rfl, ?_⟩
  omega

theorem Accounts.sweepTold {n : Nat} (h : Accounts l s (underWay + n)) :
    Accounts { l with swept := l.swept + n } s underWay := by
  refine ⟨h.reads, h.found, h.size, ?_⟩
  have hentries := h.entries
  unfold Ledger.gone at hentries ⊢
  show l.created = s.size + s.evictions + (l.erased + (l.swept + n) + l.dropped + l.cleared) + underWay
  omega

/-- **A run keeps the account.**  The induction is on the program; while the entries of a sweep are visited,
they are under way, so it is done for any number of these. -/
theorem Program.accounts_run {β : Type} (p : Program α β) (h : Accounts l s underWay) :
    Accounts (p.run s l).2.2 (p.run s l).2.1 underWay := by
  induction p generalizing s l underWay with
  | done value => exact h
  | look next ih => exact ih s h
  | call now c next ih => exact ih _ (h.step now c)
  | sweepWith time visit init next ihvisit ihnext =>
    refine ihnext _ _ (Accounts.sweepTold ?_)
    exact List.foldlRecOn (motive := fun x : Segment α × Ledger × _ =>
      Accounts x.2.1 x.1 (underWay + (s.splitExpired time).1.length)) _ _ (h.splitExpired time)
      fun x hx e _ => ihvisit e x.2.2 hx

/-- **Every entry is accounted for**, in every run from the empty segment. -/
theorem accounts_of_new {β : Type} (name : String) (settings : SegmentSettings) (p : Program α β) :
    Accounts (p.run (new name settings) {}).2.2 (p.run (new name settings) {}).2.1 0 :=
  p.accounts_run (.new name settings)

/-- An entry that has expired is swept, and the visit writes it anew. -/
example :
    let revive (e : Entry Nat) (n : Nat) : Program Nat Nat :=
      .call .epoch (.insert e.key e.value) fun _ => .done (n + 1)
    let p : Program Nat Nat := .call .epoch (.insertUntil "a" 1 (some .epoch)) fun _ =>
      .sweepWith .epoch revive 0 fun _ n => .done n
    let final := p.run (new "s" ⟨0, none⟩) {}
    final.1 = 1 ∧ final.2.1.keys = ["a"] ∧ final.2.2.created = 2 ∧ final.2.2.swept = 1 := by
  decide

end Roster.Segment
