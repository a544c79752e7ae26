import Roster.Proofs.Store.Facts

/-!
# Facts noted down on a stale reading

An earlier reading of the join rows says whether the member has one.  Since it was taken another pass may have
made the row, or a pruning may have dropped it, so the reading may say anything.

* `JoinFact.notedOn` — the join row of a member afterwards: one that the reading knows of is not made.
* `noteJoin_on`, `noteFacts_on` — the rows of the member on any reading, and what is told of them.
* `JoinFact.isSome_notedOn`, `RolesFact.roleIds_noted` — the rows that were made.
* `TableStore.NotedAs`, `noteFacts_stale` — **noting facts down is right on every reading**: a row that is there
  keeps what it records, and what is told is what has happened.
-/

set_option autoImplicit false

namespace Roster

/-! ## Rows -/

/-- The join row of a member on a reading: one that is there is stamped, one that the
reading knows of is not made. -/
def JoinFact.notedOn (m : Member) (known : Option Bool) (seen now : Instant) (row? : Option JoinFact) :
    Option JoinFact :=
  if known = some true then row?.map fun row => { row with lastTouched := now }
  else some (.noted m seen now row?)

section Rows

variable {m : Member} {known : Option Bool} {seen now : Instant}

theorem JoinFact.notedOn_some (row : JoinFact) :
    notedOn m known seen now (some row) = some { row with lastTouched := now } := by
  unfold notedOn
  split <;> rfl

theorem JoinFact.isSome_notedOn : (notedOn m known seen now none).isSome = true ↔ known ≠ some true := by
  unfold notedOn
  split <;> rename_i hknown <;> simp [hknown]

/-- Where no roles are recorded, those of the member are afterwards, if it has any. -/
theorem RolesFact.roleIds_noted {row? : Option RolesFact} (h : ∀ row ∈ row?, row.roleIds = []) :
    ((noted m seen now row?).map roleIds).getD [] = m.roleIds := by
  unfold noted
  cases row? with
  | none => by_cases hroles : m.roleIds = [] <;> simp [hroles]
  | some row =>
    have hrow : row.roleIds = [] := h row rfl
    by_cases hroles : m.roleIds = [] <;> simp [hroles, hrow]

end Rows

namespace TableStore

variable {s s' : TableStore} {m : Member} {known : Option Bool} {seen now : Instant}

/-- No roles are recorded exactly when every row that there is has none. -/
theorem rolesOf_eq_nil_iff (s : TableStore) (id : MemberId) :
    s.rolesOf id = [] ↔ ∀ row ∈ s.roles[id]?, row.roleIds = [] := by
  unfold rolesOf
  cases s.roles[id]? <;> simp

/-! ## Both facts -/

/-- The join row on any reading. -/
theorem noteJoin_on (h : s.readOnly = false) (m : Member) (known : Option Bool) (seen now : Instant) :
    ∃ s', noteJoin m known seen now s = (.ok ((s.joins[m.id]?).isNone && known != some true), s') ∧
      s'.readOnly = false ∧ s'.cacheRows = s.cacheRows ∧ s'.roles = s.roles ∧
      ∀ id, s'.joins[id]? =
        if id = m.id then JoinFact.notedOn m known seen now s.joins[m.id]? else s.joins[id]? := by
  by_cases hknown : known = some true
  · -- the row is only touched, whether or not it is there
    subst hknown
    refine ⟨s.stampJoin m.id now, ?_, h, rfl, rfl, ?_⟩
    · unfold noteJoin
      rw [if_pos rfl, touchJoin_writable h, bne_self_eq_false, Bool.and_false]
      rfl
    · intro id
      rw [stampJoin, getElem?_modify]
      rfl
  · have hsame : noteJoin m known seen now s = noteJoin m none seen now s :=
      noteJoin_known fun hk => absurd hk hknown
    have hmade : (known != some true) = true := bne_iff_ne.2 hknown
    rw [hsame, hmade, Bool.and_true, JoinFact.notedOn, if_neg hknown]
    exact noteJoin_writable h m seen now

/-- Both rows on any reading, and whether one of them is told to be new. -/
theorem noteFacts_on (h : s.readOnly = false) (m : Member) (known : Option Bool) (seen now : Instant) :
    ∃ s', noteFacts m known seen now s = (.ok ((s.joins[m.id]?).isNone && known != some true ||
        !m.roleIds.isEmpty && (s.rolesOf m.id).isEmpty), s') ∧
      s'.readOnly = s.readOnly ∧ s'.cacheRows = s.cacheRows ∧
      (∀ id, s'.joins[id]? =
        if id = m.id then JoinFact.notedOn m known seen now s.joins[m.id]? else s.joins[id]?) ∧
      ∀ id, s'.roles[id]? = if id = m.id then RolesFact.noted m seen now s.roles[m.id]? else s.roles[id]? := by
  obtain ⟨s₁, hjoin, hwrite, hrows, hroles, hjoins⟩ := noteJoin_on h m known seen now
  obtain ⟨s₂, hnoted, hwrite', hrows', hjoins', hroles'⟩ := noteRoles_writable hwrite m seen now
  refine ⟨s₂, ?_, hwrite'.trans h.symm, hrows'.trans hrows, ?_, ?_⟩
  · unfold noteFacts
    rw [hjoin]
    dsimp only [Outcome.andThen]
    rw [hnoted]
    unfold rolesOf
    rw [hroles]
  · intro id
    rw [hjoins', hjoins]
  · intro id
    rw [hroles', hroles]

/-- A store after the facts of a member were noted down on a reading, and whether a row is told to be new. -/
structure NotedAs (m : Member) (known : Option Bool) (seen now : Instant) (s s' : TableStore) (created : Bool) :
    Prop where
  /-- A join row that is there keeps its time. -/
  join_kept : ∀ row, s.joins[m.id]? = some row → s'.joins[m.id]? = some { row with lastTouched := now }
  /-- One that is missing is made with the reported time, or else with the time at which the member was seen. -/
  join_made : s.joins[m.id]? = none → known ≠ some true →
    s'.joins[m.id]? = some ⟨m.joinedAt.getD (.ofInstant seen), now⟩
  /-- It is not made where the reading knows of it. -/
  join_withheld : s.joins[m.id]? = none → known = some true → s'.joins[m.id]? = none
  /-- Recorded roles stay, and so does a row without roles when the member has none. -/
  roles_kept : ∀ row, s.roles[m.id]? = some row → row.roleIds ≠ [] ∨ m.roleIds = [] →
    s'.roles[m.id]? = some { row with lastTouched := now }
  /-- Where no roles are recorded, those of the member are. -/
  roles_made : (∀ row ∈ s.roles[m.id]?, row.roleIds = []) → m.roleIds ≠ [] →
    s'.roles[m.id]? = some ⟨m.roleIds, seen, now⟩
  /-- A member without roles makes no row. -/
  roles_none : s.roles[m.id]? = none → m.roleIds = [] → s'.roles[m.id]? = none
  others : ∀ id, id ≠ m.id → s'.joins[id]? = s.joins[id]? ∧ s'.roles[id]? = s.roles[id]?
  rows : s'.cacheRows = s.cacheRows
  readOnly : s'.readOnly = s.readOnly
  told : created = true ↔ s.joins[m.id]? = none ∧ known ≠ some true ∨
    m.roleIds ≠ [] ∧ ∀ row ∈ s.roles[m.id]?, row.roleIds = []
  /-- What is told is what has happened: there is a join row that was not there, or roles that were not. -/
  happened : created = true ↔ s.joins[m.id]? = none ∧ (s'.joins[m.id]?).isSome = true ∨
    s.rolesOf m.id = [] ∧ s'.rolesOf m.id ≠ []

theorem notedAs_of_rows
    (hjoins : ∀ id, s'.joins[id]? =
      if id = m.id then JoinFact.notedOn m known seen now s.joins[m.id]? else s.joins[id]?)
    (hroles : ∀ id, s'.roles[id]? =
      if id = m.id then RolesFact.noted m seen now s.roles[m.id]? else s.roles[id]?)
    (hrows : s'.cacheRows = s.cacheRows) (hreadOnly : s'.readOnly = s.readOnly) :
    NotedAs m known seen now s s' ((s.joins[m.id]?).isNone && known != some true ||
      !m.roleIds.isEmpty && (s.rolesOf m.id).isEmpty) := by
  have hjoin : s'.joins[m.id]? = JoinFact.notedOn m known seen now s.joins[m.id]? :=
    (hjoins m.id).trans (if_pos rfl)
  have hrole : s'.roles[m.id]? = RolesFact.noted m seen now s.roles[m.id]? := (hroles m.id).trans (if_pos rfl)
  have htold : ((s.joins[m.id]?).isNone && known != some true ||
      !m.roleIds.isEmpty && (s.rolesOf m.id).isEmpty) = true ↔
        s.joins[m.id]? = none ∧ known ≠ some true ∨ m.roleIds ≠ [] ∧ s.rolesOf m.id = [] := by
    simp
  refine ⟨?_, ?_, ?_, ?_, ?_, ?_, ?_, hrows, hreadOnly, ?_, ?_⟩
  · intro row hrow
    rw [hjoin, hrow, JoinFact.notedOn_some]
  · intro habsent hknown
    rw [hjoin, habsent, JoinFact.notedOn, if_neg hknown]
    rfl
  · intro habsent hknown
    rw [hjoin, habsent, JoinFact.notedOn, if_pos hknown]
    rfl
  · intro row hrow hkeep
    rw [hrole, hrow, RolesFact.noted, if_pos hkeep.symm]
  · intro hempty hsome
    rw [hrole]
    cases hrow : s.roles[m.id]? with
    | none => rw [RolesFact.noted, if_neg hsome]
    | some row => rw [RolesFact.noted, if_neg (by simp [hsome, hempty row hrow])]
  · intro habsent hnone
    rw [hrole, habsent, RolesFact.noted, if_pos hnone]
  · intro id hid
    exact ⟨(hjoins id).trans (if_neg hid), (hroles id).trans (if_neg hid)⟩
  · rw [htold, rolesOf_eq_nil_iff]
  · have hjoinMade : s.joins[m.id]? = none → ((s'.joins[m.id]?).isSome = true ↔ known ≠ some true) := by
      intro habsent
      rw [hjoin, habsent]
      exact JoinFact.isSome_notedOn
    have hrolesMade : s.rolesOf m.id = [] → s'.rolesOf m.id = m.roleIds := by
      intro hempty
      unfold rolesOf
      rw [hrole]
      exact RolesFact.roleIds_noted ((rolesOf_eq_nil_iff s m.id).1 hempty)
    rw [htold]
    refine or_congr (and_congr_right fun habsent => (hjoinMade habsent).symm) ?_
    rw [and_comm]
    exact and_congr_right fun hempty => by rw [hrolesMade hempty]

end TableStore

open TableStore

/-- **Noting facts down is right on every reading**, also on one that the rows of the store contradict; and a
store that refuses writes answers with an error and stays as it is. -/
theorem noteFacts_stale (s : TableStore) (m : Member) (known : Option Bool) (seen now : Instant) :
    (s.readOnly = false → ∃ created s', noteFacts m known seen now s = (.ok created, s') ∧
      NotedAs m known seen now s s' created) ∧
    (s.readOnly = true → noteFacts m known seen now s = (.error refusal, s)) := by
  constructor
  · intro hwritable
    obtain ⟨s', hnoted, hreadOnly, hrows, hjoins, hroles⟩ := noteFacts_on hwritable m known seen now
    exact ⟨_, s', hnoted, notedAs_of_rows hjoins hroles hrows hreadOnly⟩
  · intro hrefuses
    exact noteFacts_readOnly hrefuses m known seen now

/-- A member with a role, who joined at a time that the platform does not tell. -/
def sampleMember : Member := { Member.new "g" "u" "User" with roleIds := ["r"] }

/-- A store that has the join row of the member. -/
def sampleJoined (row : JoinFact) : TableStore :=
  let s := TableStore.new .zero
  { s with joins := s.joins.insert sampleMember.id row }

/-- A row that the reading does not know of keeps its time, and one that is only in the reading is not made. -/
theorem noteFacts_stale_sample :
    (∀ row : JoinFact, (sampleJoined row).readOnly = false ∧
      ∃ created s', noteFacts sampleMember (some false) .epoch .first (sampleJoined row) = (.ok created, s') ∧
        s'.joins[sampleMember.id]? = some { row with lastTouched := .first } ∧ created = true) ∧
    (TableStore.new .zero).readOnly = false ∧
      ∃ created s', noteFacts sampleMember (some true) .epoch .first (TableStore.new .zero) =
        (.ok created, s') ∧
        s'.joins[sampleMember.id]? = none ∧ s'.roles[sampleMember.id]? = some ⟨["r"], .epoch, .first⟩ := by
  refine ⟨fun row => ⟨rfl, ?_⟩, rfl, ?_⟩
  · obtain ⟨created, s', hnoted, h⟩ :=
      (noteFacts_stale (sampleJoined row) sampleMember (some false) .epoch .first).1 rfl
    have hthere : (sampleJoined row).joins[sampleMember.id]? = some row := Std.TreeMap.getElem?_insert_self
    refine ⟨created, s', hnoted, h.join_kept row hthere, h.told.2 (.inr ⟨by decide, ?_⟩)⟩
    rintro row ⟨⟩
  · obtain ⟨created, s', hnoted, h⟩ :=
      (noteFacts_stale (TableStore.new .zero) sampleMember (some true) .epoch .first).1 rfl
    refine ⟨created, s', hnoted, h.join_withheld rfl rfl, h.roles_made ?_ (by decide)⟩
    rintro row ⟨⟩

end Roster
