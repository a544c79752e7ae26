import Roster.Backfill.Members
import Roster.Config.Basic
import Roster.Proofs.Store.Calls

/-!
# How long facts are kept

A pruning drops the facts that were last touched before a cutoff.  A retention in days stops at 64 bits of
seconds; it may be too long to be given a sign; and the cutoff stops at the first instant.  None of this ever
drops a fact too early or keeps one too long.

* `Instant.LongerAgo` — a touch is longer ago than a window of time, in whole nanoseconds without bounds.
* `oldestKept_le_iff`, `retentionOf_actsAs` — **the cutoff is exact**, and so is a number of days.
* `TableStore.Prunes`, `prunes_prune` — what a pruning drops, counts and keeps.
* `TableStore.TouchedSince`, `TouchedSince.calls` — **a fact stays** through a run whose
  prunings come within the window.
* `TableStore.store_keepFresh` — keeping facts fresh stamps those of the named members.
* `TableStore.Retains`, `TableStore.retains_exactly` — all of it, for the retention of
  a store and for one in days.
-/

set_option autoImplicit false

namespace Roster

/-! ## The cutoff -/

/-- A touch is longer ago than a window of time. -/
def Instant.LongerAgo (touched : Instant) (window : Duration) (now : Instant) : Prop :=
  (window.nanos : Int) < now.nanos - touched.nanos

instance (touched now : Instant) (window : Duration) : Decidable (touched.LongerAgo window now) :=
  inferInstanceAs (Decidable ((window.nanos : Int) < now.nanos - touched.nanos))

/-- A retention drops what a window drops. -/
def Duration.ActsAs (retention window : Duration) : Prop :=
  ∀ touched now : Instant, touched.LongerAgo retention now ↔ touched.LongerAgo window now

theorem Duration.ActsAs.refl (window : Duration) : window.ActsAs window := fun _ _ => Iff.rfl

/-- So many days. -/
def Duration.ofDays (days : Nat) : Duration := .ofSeconds (days * 86400)

/-- **The cutoff is exact**: where it would lie before the first instant, no touch is longer ago. -/
theorem oldestKept_le_iff {now touched : Instant} {retention : Duration} :
    oldestKept now retention ≤ touched ↔ ¬touched.LongerAgo retention now := by
  have hfirst := touched.first_le
  have hlast := now.le_last
  unfold oldestKept Instant.LongerAgo
  rw [Instant.sub?_eq]
  cases hcut : Instant.ofNanos? (now.nanos - retention.nanos) with
  | some cutoff =>
    have hnanos := Instant.ofNanos?_eq_some.1 hcut
    rw [Option.getD_some, Instant.le_def]
    omega
  | none =>
    have hout := Instant.ofNanos?_eq_none.1 hcut
    have hle : Instant.first ≤ touched := hfirst
    rw [Option.getD_none]
    constructor
    · intro _
      omega
    · intro _
      exact hle

/-- **A number of days is exact**: where it is cut off, it is longer than all of the clock's time. -/
theorem retentionOf_actsAs (days : Option Nat) :
    (Config.retentionOf days).ActsAs (.ofDays (days.getD 30)) := by
  intro touched now
  have hfirst := touched.first_le
  have hlast := now.le_last
  simp only [Instant.firstNanos, Instant.lastNanos] at hfirst hlast
  simp only [Instant.LongerAgo, Config.retentionOf, Duration.ofDays, Duration.ofSeconds,
    nanosPerSecond, maxWord]
  omega

/-- The retention of a configuration is that of its number of days. -/
theorem Config.retention_of_load {vars : Variables} {config : Config} {days : Option Nat}
    (h : Config.load vars = .ok config) (hdays : vars.number? "FACT_RETENTION_DAYS" = .ok days) :
    config.retention = retentionOf days := by
  unfold load at h
  simp only [hdays, bind, Except.bind] at h
  repeat' split at h
  all_goals cases h
  all_goals rfl

/-! ## A pruning -/

namespace TableStore

section Filter

variable {κ β : Type} [Ord κ] {keep : β → Bool}

theorem getElem?_filter_eq_some [Std.TransOrd κ] [Std.LawfulEqOrd κ] {rows : Std.TreeMap κ β}
    {id : κ} {row : β} :
    (rows.filter fun _ r => keep r)[id]? = some row ↔ rows[id]? = some row ∧ keep row = true := by
  rw [Std.TreeMap.getElem?_filter', Option.filter_eq_some_iff]

/-- The rows that are dropped are as many as the table gets smaller. -/
theorem size_sub_size_filter (rows : Std.TreeMap κ β) (keep : β → Bool) :
    rows.size - (rows.filter fun _ r => keep r).size = (rows.toList.filter fun r => !keep r.2).length := by
  have hsplit := List.length_eq_countP_add_countP (fun r : κ × β => keep r.2) (l := rows.toList)
  rw [← Std.TreeMap.length_toList, ← Std.TreeMap.length_toList, Std.TreeMap.toList_filter,
    ← List.countP_eq_length_filter, ← List.countP_eq_length_filter]
  simp only [Bool.not_eq_true, Bool.decide_eq_false] at hsplit
  omega

end Filter

/-- What a pruning does that keeps facts for a window of time. -/
structure Prunes (s : TableStore) (window : Duration) (now : Instant) (n : PruneCount)
    (s' : TableStore) : Prop where
  /-- A saved row stays as it is, unless it has expired. -/
  rows : ∀ (id : RowId) (row : SavedRow), s'.cacheRows[id]? = some row ↔
    s.cacheRows[id]? = some row ∧ ∀ expiry, row.expiresAt = some expiry → now < expiry
  /-- A join row stays as it is, unless its last touch is longer ago than the window. -/
  joins : ∀ (id : MemberId) (row : JoinFact), s'.joins[id]? = some row ↔
    s.joins[id]? = some row ∧ ¬row.lastTouched.LongerAgo window now
  /-- A roles row too. -/
  roles : ∀ (id : MemberId) (row : RolesFact), s'.roles[id]? = some row ↔
    s.roles[id]? = some row ∧ ¬row.lastTouched.LongerAgo window now
  settings : s'.retention = s.retention ∧ s'.readOnly = s.readOnly
  /-- The answer is how many rows of each table do not stay. -/
  entryCount : n.entries =
    (s.cacheRows.toList.filter fun r => r.2.expiresAt.any fun expiry => expiry ≤ now).length
  joinCount : n.joins = (s.joins.toList.filter fun r => r.2.lastTouched.LongerAgo window now).length
  roleCount : n.roles = (s.roles.toList.filter fun r => r.2.lastTouched.LongerAgo window now).length

theorem keepsRow_iff {now : Instant} {row : SavedRow} :
    keepsRow now row = true ↔ ∀ expiry, row.expiresAt = some expiry → now < expiry := by
  unfold keepsRow
  cases row.expiresAt <;> simp

theorem not_keepsRow (now : Instant) (row : SavedRow) :
    (!keepsRow now row) = row.expiresAt.any fun expiry => expiry ≤ now := by
  unfold keepsRow
  cases row.expiresAt with
  | none => rfl
  | some expiry =>
    rw [← decide_not]
    refine decide_eq_decide.2 ?_
    rw [Instant.lt_def, Instant.le_def]
    omega

/-- **A pruning is exact** for every window that the retention acts as. -/
theorem prunes_prune {s : TableStore} {window : Duration} (h : s.retention.ActsAs window) (now : Instant) :
    ∃ n, (Store.prune now s).1 = .ok n ∧ s.Prunes window now n (Store.prune now s).2 := by
  have hcut (touched : Instant) : oldestKept now s.retention ≤ touched ↔ ¬touched.LongerAgo window now := by
    rw [oldestKept_le_iff, h touched now]
  have hdropped (touched : Instant) :
      (!decide (oldestKept now s.retention ≤ touched)) = decide (touched.LongerAgo window now) := by
    rw [← decide_not]
    refine decide_eq_decide.2 ?_
    rw [hcut, Decidable.not_not]
  refine ⟨_, rfl, ?_, ?_, ?_, ⟨rfl, rfl⟩, ?_, ?_, ?_⟩
  · intro id row
    exact getElem?_filter_eq_some.trans (and_congr_right fun _ => keepsRow_iff)
  · intro id row
    refine getElem?_filter_eq_some.trans (and_congr_right fun _ => ?_)
    rw [decide_eq_true_iff, hcut]
  · intro id row
    refine getElem?_filter_eq_some.trans (and_congr_right fun _ => ?_)
    rw [decide_eq_true_iff, hcut]
  · refine (size_sub_size_filter s.cacheRows (keepsRow now)).trans ?_
    simp only [not_keepsRow]
  · refine (size_sub_size_filter s.joins fun r => decide (oldestKept now s.retention ≤ r.lastTouched)).trans ?_
    simp only [hdropped]
  · refine (size_sub_size_filter s.roles fun r => decide (oldestKept now s.retention ≤ r.lastTouched)).trans ?_
    simp only [hdropped]

/-! ## Runs -/

/-- A pruning no later than a window after an instant, or a use that does not touch
the fact at an earlier one. -/
def Within (start : Instant) (window : Duration) (id : MemberId) (fact : Fact)
    (u : Instant × StoreCall) : Prop :=
  match u.2 with
  | .prune => u.1.nanos ≤ start.nanos + window.nanos
  | c => c.About id fact → start ≤ u.1

/-- A fact is there, and was touched no earlier than at an instant. -/
def TouchedSince (s : TableStore) (start : Instant) (id : MemberId) (fact : Fact) : Prop :=
  ∃ touched, s.lastTouch? id fact = some touched ∧ start ≤ touched

variable {s s' : TableStore} {window : Duration} {start : Instant} {id : MemberId} {fact : Fact}

theorem TouchedSince.of_touchedAt {now : Instant} {p : Prop} (h : s.TouchedSince start id fact)
    (hnow : p → start ≤ now) (hstep : TouchedAt p id fact now s s') : s'.TouchedSince start id fact := by
  obtain ⟨touched, htouched, hle⟩ := h
  rcases hstep with hsame | ⟨hp, hlater⟩
  · exact ⟨touched, hsame.trans htouched, hle⟩
  · exact ⟨now, hlater, hnow hp⟩

theorem TouchedSince.prune (h : s.TouchedSince start id fact) (hacts : s.retention.ActsAs window)
    {now : Instant} (hnow : now.nanos ≤ start.nanos + window.nanos) :
    (s.call now .prune).TouchedSince start id fact := by
  obtain ⟨touched, htouched, hle⟩ := h
  have hkept : oldestKept now s.retention ≤ touched := by
    rw [oldestKept_le_iff, hacts touched now, Instant.LongerAgo]
    rw [Instant.le_def] at hle
    omega
  refine ⟨touched, ?_, hle⟩
  rw [lastTouch?_prune, htouched, Option.filter_some, if_pos (decide_eq_true hkept)]

/-- One use keeps a fact. -/
theorem TouchedSince.call (h : s.TouchedSince start id fact) (hacts : s.retention.ActsAs window)
    {u : Instant × StoreCall} (hu : Within start window id fact u) :
      (s.call u.1 u.2).TouchedSince start id fact := by
  obtain ⟨now, c⟩ := u
  cases c with
  | prune => exact h.prune hacts hu
  | _ => exact h.of_touchedAt hu (touchedAt_call s now (by simp))

/-- **A fact stays** through a run.  The induction is on the uses to come; none of
them changes the retention. -/
theorem TouchedSince.calls {later : List (Instant × StoreCall)} (h : s.TouchedSince start id fact)
    (hacts : s.retention.ActsAs window) (hlater : ∀ u ∈ later, Within start window id fact u) :
    (s.calls later).TouchedSince start id fact := by
  induction later generalizing s with
  | nil => exact h
  | cons u later ih =>
    obtain ⟨hu, hlater⟩ := List.forall_mem_cons.1 hlater
    exact ih (h.call hacts hu) ((retention_call s u.1 u.2).symm ▸ hacts) hlater

/-! ## Keeping facts fresh -/

theorem touchFacts_writable (hwrite : s.readOnly = false) (id : MemberId) (now : Instant) :
    touchFacts id now s = (.ok (), s.backdate id now) := by
  have hroles : Store.touchRoles now id (s.stampJoin id now) = _ := touchRoles_writable hwrite
  unfold touchFacts
  rw [touchJoin_writable hwrite]
  dsimp only
  rw [hroles]
  rfl

/-- **Keeping facts fresh** stamps both facts of each member. -/
theorem store_keepFresh {ρ : Type} {b : Backfill} (hfacts : b.recordsFacts = true) (groupId : String)
    (users : List String) {w : World ρ TableStore} (hwrite : w.store.readOnly = false) :
    (b.keepFresh groupId users w).2.store =
      users.foldl (fun s user => s.backdate ⟨groupId, user⟩ w.now) w.store := by
  unfold Backfill.keepFresh
  rw [if_pos hfacts]
  generalize 0 = n
  induction users generalizing n w with
  | nil => rfl
  | cons user users ih =>
    have hmember : Backfill.keepFreshMember groupId (n, w) user =
        (n + 1, { w with store := w.store.backdate ⟨groupId, user⟩ w.now }) := by
      unfold Backfill.keepFreshMember World.useStore
      dsimp only
      rw [touchFacts_writable hwrite]
    rw [List.foldl_cons, List.foldl_cons, hmember]
    exact ih (w := { w with store := w.store.backdate ⟨groupId, user⟩ w.now }) hwrite (n + 1)

theorem lastTouch?_backdate (s : TableStore) (id' : MemberId) (now : Instant) :
    (s.backdate id' now).lastTouch? id fact =
      if id = id' then (s.lastTouch? id fact).map fun _ => now else s.lastTouch? id fact := by
  unfold backdate
  rw [lastTouch?_stampRoles, lastTouch?_stampJoin]
  by_cases hid : id = id'
  · cases fact <;> simp [hid]
  · simp [hid]

/-- Facts that are there are touched when members are kept fresh. -/
theorem touchedSince_foldl_backdate {groupId user : String} {users : List String} (hmem : user ∈ users)
    (hthere : (s.lastTouch? ⟨groupId, user⟩ fact).isSome = true) (now : Instant) :
    (users.foldl (fun s user => s.backdate ⟨groupId, user⟩ now) s).TouchedSince now ⟨groupId, user⟩ fact := by
  -- the member's own turn stamps the facts, and a later turn leaves the stamp or repeats it
  have hlater (s : TableStore) (users : List String) (h : s.TouchedSince now ⟨groupId, user⟩ fact) :
      (users.foldl (fun s user => s.backdate ⟨groupId, user⟩ now) s).TouchedSince now ⟨groupId, user⟩ fact :=
    List.foldlRecOn (motive := fun s' : TableStore => s'.TouchedSince now ⟨groupId, user⟩ fact) users _ h
      fun s' hs user' _ => hs.of_touchedAt (fun _ => now.le_refl)
        (touchedAt_stamp (lastTouch?_backdate s' ⟨groupId, user'⟩ now))
  induction users generalizing s with
  | nil => cases hmem
  | cons user' users ih =>
    rw [List.foldl_cons]
    by_cases huser : user = user'
    · subst huser
      refine hlater _ users ⟨now, ?_, now.le_refl⟩
      exact lastTouch?_of_stamp rfl hthere (lastTouch?_backdate s ⟨groupId, user⟩ now)
    · have hother : (⟨groupId, user⟩ : MemberId) ≠ ⟨groupId, user'⟩ := fun h => huser (congrArg MemberId.user h)
      refine ih ((List.mem_cons.1 hmem).resolve_left huser) ?_
      rw [lastTouch?_backdate, if_neg hother]
      exact hthere

theorem retention_foldl_backdate (s : TableStore) (groupId : String) (users : List String) (now : Instant) :
    (users.foldl (fun s user => s.backdate ⟨groupId, user⟩ now) s).retention = s.retention :=
  List.foldlRecOn (motive := fun s' : TableStore => s'.retention = s.retention) users _ rfl fun _ h _ _ => h

/-! ## The whole of it -/

/-- A store keeps facts for a window of time. -/
structure Retains (s : TableStore) (window : Duration) : Prop where
  /-- A pruning drops the facts whose last touch is longer ago, and the saved rows that have expired. -/
  pruned : ∀ now, ∃ n, (Store.prune now s).1 = .ok n ∧ s.Prunes window now n (Store.prune now s).2
  /-- A fact that is recorded or touched outlasts every run whose prunings come within the window. -/
  touched : s.readOnly = false → ∀ (start : Instant) (c : StoreCall) (id : MemberId) (fact : Fact)
    (later : List (Instant × StoreCall)), c.Touches s id fact → (∀ u ∈ later, Within start window id fact u) →
      ((s.call start c).calls later).TouchedSince start id fact
  /-- So does a fact that is there when its member is kept fresh. -/
  keptFresh : s.readOnly = false → ∀ {ρ : Type} (b : Backfill) (groupId : String) (users : List String)
    (w : World ρ TableStore) (fact : Fact) (later : List (Instant × StoreCall)), b.recordsFacts = true →
      w.store = s → ∀ user ∈ users, (s.lastTouch? ⟨groupId, user⟩ fact).isSome = true →
      (∀ u ∈ later, Within w.now window ⟨groupId, user⟩ fact u) →
        ((b.keepFresh groupId users w).2.store.calls later).TouchedSince w.now ⟨groupId, user⟩ fact

theorem retains_of_actsAs (hacts : s.retention.ActsAs window) : s.Retains window where
  pruned now := prunes_prune hacts now
  touched hwrite start c id fact later htouches hlater := by
    have hfresh : (s.call start c).TouchedSince start id fact :=
      ⟨start, lastTouch?_of_touches hwrite start htouches, start.le_refl⟩
    exact hfresh.calls ((retention_call s start c).symm ▸ hacts) hlater
  keptFresh hwrite _ b groupId users w fact later hfacts hstore user huser hthere hlater := by
    subst hstore
    rw [store_keepFresh hfacts groupId users hwrite]
    have hfresh := touchedSince_foldl_backdate huser hthere w.now
    exact hfresh.calls ((retention_foldl_backdate w.store groupId users w.now).symm ▸ hacts) hlater

/-- **A store keeps facts for its retention to the nanosecond**, and a store that is opened with the retention
of a configuration for exactly its number of days. -/
theorem retains_exactly (s : TableStore) : s.Retains s.retention ∧
    ∀ (vars : Variables) (config : Config) (days : Option Nat), Config.load vars = .ok config →
      vars.number? "FACT_RETENTION_DAYS" = .ok days →
      { s with retention := config.retention }.Retains (.ofDays (days.getD 30)) := by
  refine ⟨retains_of_actsAs (.refl s.retention), ?_⟩
  intro vars config days hload hdays
  refine retains_of_actsAs ?_
  rw [Config.retention_of_load hload hdays]
  exact retentionOf_actsAs days

/-- More days than 64 bits of seconds have room for. -/
def sampleDays : Variables := fun name => if name = "FACT_RETENTION_DAYS" then some "213503982334602" else none

/-- A retention that is cut off, and then too long to be given a sign, keeps a join time from the
first instant to the last. -/
theorem retains_exactly_sample : ∃ config last s, Config.load sampleDays = .ok config ∧
    sampleDays.number? "FACT_RETENTION_DAYS" = .ok (some 213503982334602) ∧
    config.retention = .ofSeconds maxWord ∧ config.retention.toDelta? = none ∧ last.nanos = Instant.lastNanos ∧
    s = { TableStore.new .zero with retention := config.retention } ∧ s.Retains (.ofDays 213503982334602) ∧
    ((s.call .first (.recordJoin ⟨"g", "u"⟩ default)).calls [(last, .prune)]).TouchedSince .first
      ⟨"g", "u"⟩ .join := by
  have hdays : sampleDays.number? "FACT_RETENTION_DAYS" = .ok (some 213503982334602) := rfl
  have hloads : (Config.load sampleDays).toOption.isSome = true := by decide +kernel
  cases hload : Config.load sampleDays with
  | error fault =>
    rw [hload] at hloads
    cases hloads
  | ok config =>
    have hretains := (retains_exactly (TableStore.new .zero)).2 sampleDays config _ hload hdays
    have hretention := Config.retention_of_load hload hdays
    refine ⟨config, ⟨Instant.lastNanos, by decide, by decide⟩, _, rfl, hdays, ?_, ?_, rfl, rfl, hretains, ?_⟩
    · rw [hretention]
      decide
    · rw [hretention]
      decide
    · refine hretains.touched rfl .first _ ⟨"g", "u"⟩ .join _ ⟨⟨rfl, rfl⟩, trivial⟩ ?_
      intro u hu
      obtain rfl := List.mem_singleton.1 hu
      show Instant.lastNanos ≤ Instant.firstNanos + (Duration.ofDays 213503982334602).nanos
      decide

end TableStore

end Roster
