import Roster.Backfill.Facts
import Roster.Store.Tables

/-!
# What becomes of the facts about a member

* `TableStore.touchJoin_readOnly`, … — an operation on a store that refuses writes:
  an error, and nothing changed.
* `JoinFact.noted`, `RolesFact.noted` — the rows of a member after its facts were noted down.
* `noteFacts_known` — **what an earlier reading knows makes no difference**, as long as it is true.
* `TableStore.Noted` — a store after the facts of one member were noted down, row by row.
* `noteFacts_writable`, `noteFacts_readOnly` — noting facts down gives such a store and tells whether
  a row is new, or is refused.
* `TableStore.Grew` — recorded facts stay as they are.  `Noted.grew`, `Noted.lacks` — **noting facts down adds
  what is missing and nothing else**.
-/

set_option autoImplicit false

namespace Roster

/-- The join row of a member: the recorded time stays. -/
def JoinFact.noted (m : Member) (seen now : Instant) : Option JoinFact → JoinFact
  | some row => { row with lastTouched := now }
  | none => ⟨m.joinedAt.getD (.ofInstant seen), now⟩

/-- The roles row of a member: recorded roles stay, and a member without roles makes no row. -/
def RolesFact.noted (m : Member) (seen now : Instant) : Option RolesFact → Option RolesFact
  | some row =>
    if m.roleIds = [] ∨ row.roleIds ≠ [] then some { row with lastTouched := now }
    else some ⟨m.roleIds, seen, now⟩
  | none => if m.roleIds = [] then none else some ⟨m.roleIds, seen, now⟩

namespace TableStore

variable {s : TableStore} {m : Member} {known : Option Bool} {seen now : Instant} {id : MemberId}

/-- What a store that refuses writes answers. -/
abbrev refusal : Error := .store "writes disabled"

/-! ## Refused writes -/

section ReadOnly

variable (h : s.readOnly = true)

include h

theorem touchJoin_readOnly : Store.touchJoin now id s = (.error refusal, s) := if_pos h

theorem recordFirstJoin_readOnly (joinedAt : Timestamp) :
    Store.recordFirstJoin now id joinedAt s = (.error refusal, s) := if_pos h

theorem recordJoin_readOnly (joinedAt : Timestamp) :
    Store.recordJoin now id joinedAt s = (.error refusal, s) := if_pos h

end ReadOnly

/-! ## Accepted writes -/

section Writable

variable (h : s.readOnly = false)

include h

theorem touchJoin_writable : Store.touchJoin now id s = (.ok (), s.stampJoin id now) := if_neg (by simp [h])

theorem touchRoles_writable : Store.touchRoles now id s = (.ok (), s.stampRoles id now) := if_neg (by simp [h])

theorem recordRoles_writable (roleIds : List String) (observedAt : Instant) :
    Store.recordRoles now id roleIds observedAt s =
      (.ok (), { s with roles := s.roles.insert id ⟨roleIds, observedAt, now⟩ }) := if_neg (by simp [h])

theorem recordFirstJoin_of_some {row : JoinFact} (hrow : s.joins[id]? = some row) (joinedAt : Timestamp) :
    Store.recordFirstJoin now id joinedAt s = (.ok false, s.stampJoin id now) := by
  have hwrite : Store.recordFirstJoin now id joinedAt s = (.ok _, _) := if_neg (by simp [h])
  rw [hwrite, hrow]

theorem recordFirstJoin_of_none (hrow : s.joins[id]? = none) (joinedAt : Timestamp) :
    Store.recordFirstJoin now id joinedAt s =
      (.ok true, { s with joins := s.joins.insert id ⟨joinedAt, now⟩ }) := by
  have hwrite : Store.recordFirstJoin now id joinedAt s = (.ok _, _) := if_neg (by simp [h])
  rw [hwrite, hrow]

end Writable

/-! ## Rows -/

theorem getElem?_insert {β : Type} (rows : Std.TreeMap MemberId β) (id : MemberId) (row : β) (id' : MemberId) :
    (rows.insert id row)[id']? = if id' = id then some row else rows[id']? := by
  rw [Std.TreeMap.getElem?_insert]
  by_cases h : id' = id
  · rw [if_pos h, if_pos (Std.LawfulEqOrd.compare_eq_iff_eq.2 h.symm)]
  · rw [if_neg h, if_neg fun heq => h (Std.LawfulEqOrd.compare_eq_iff_eq.1 heq).symm]

theorem getElem?_modify {β : Type} (rows : Std.TreeMap MemberId β) (id : MemberId)
    (f : β → β) (id' : MemberId) :
    (rows.modify id f)[id']? = if id' = id then rows[id]?.map f else rows[id']? := by
  rw [Std.TreeMap.getElem?_modify]
  by_cases h : id' = id
  · rw [if_pos h, if_pos (Std.LawfulEqOrd.compare_eq_iff_eq.2 h.symm)]
  · rw [if_neg h, if_neg fun heq => h (Std.LawfulEqOrd.compare_eq_iff_eq.1 heq).symm]

/-! ## Noting facts down -/

/-- A store after the facts of a member were noted down. -/
structure Noted (m : Member) (seen now : Instant) (s s' : TableStore) : Prop where
  joins : ∀ id, s'.joins[id]? = if id = m.id then some (.noted m seen now s.joins[m.id]?) else s.joins[id]?
  roles : ∀ id, s'.roles[id]? = if id = m.id then RolesFact.noted m seen now s.roles[m.id]? else s.roles[id]?
  rows : s'.cacheRows = s.cacheRows
  readOnly : s'.readOnly = s.readOnly

/-- Whether a fact of a member is still to be recorded. -/
def lacks (s : TableStore) (m : Member) : Bool :=
  (s.joins[m.id]?).isNone || !m.roleIds.isEmpty && (s.rolesOf m.id).isEmpty

end TableStore

open TableStore

variable {s : TableStore} {m : Member} {known : Option Bool} {seen now : Instant}

theorem noteJoin_known (hknown : known = some true → (s.joins[m.id]?).isSome = true) :
    noteJoin m known seen now s = noteJoin m none seen now s := by
  unfold noteJoin
  rw [if_neg (by simp : ¬(none : Option Bool) = some true)]
  split
  · rename_i hk
    obtain ⟨row, hrow⟩ := Option.isSome_iff_exists.1 (hknown hk)
    cases h : s.readOnly with
    | true =>
      rw [touchJoin_readOnly h, recordFirstJoin_readOnly h]
      rfl
    | false =>
      rw [touchJoin_writable h, recordFirstJoin_of_some h hrow]
      rfl
  · rfl

/-- **What an earlier reading knows makes no difference**: a row that is there is touched either way. -/
theorem noteFacts_known (hknown : known = some true → (s.joins[m.id]?).isSome = true) :
    noteFacts m known seen now s = noteFacts m none seen now s := by
  unfold noteFacts
  rw [noteJoin_known hknown]

/-- A store that refuses writes answers with an error and stays as it is. -/
theorem noteFacts_readOnly (h : s.readOnly = true) (m : Member) (known : Option Bool) (seen now : Instant) :
    noteFacts m known seen now s = (.error refusal, s) := by
  have hjoin : noteJoin m known seen now s = (.error refusal, s) := by
    unfold noteJoin
    split
    · rw [touchJoin_readOnly h]
      rfl
    · exact recordFirstJoin_readOnly h _
  unfold noteFacts
  rw [hjoin]
  rfl

theorem replaceFacts_readOnly (h : s.readOnly = true) (m : Member) (seen now : Instant) :
    (replaceFacts m seen now s).2 = s := by
  unfold replaceFacts
  cases m.joinedAt with
  | some joinedAt =>
    dsimp only
    rw [recordJoin_readOnly h]
    rfl
  | none =>
    dsimp only
    rw [recordFirstJoin_readOnly h]
    rfl

theorem noteJoin_writable (h : s.readOnly = false) (m : Member) (seen now : Instant) :
    ∃ s', noteJoin m none seen now s = (.ok (s.joins[m.id]?).isNone, s') ∧ s'.readOnly = false ∧
      s'.cacheRows = s.cacheRows ∧ s'.roles = s.roles ∧
      ∀ id, s'.joins[id]? =
        if id = m.id then some (JoinFact.noted m seen now s.joins[m.id]?) else s.joins[id]? := by
  unfold noteJoin
  rw [if_neg (by simp : ¬(none : Option Bool) = some true)]
  cases hrow : s.joins[m.id]? with
  | some row =>
    refine ⟨_, recordFirstJoin_of_some h hrow _, h, rfl, rfl, ?_⟩
    intro id
    rw [stampJoin, getElem?_modify, hrow]
    rfl
  | none =>
    refine ⟨_, recordFirstJoin_of_none h hrow _, h, rfl, rfl, ?_⟩
    intro id
    exact getElem?_insert s.joins m.id _ id

theorem noteRoles_writable (h : s.readOnly = false) (m : Member) (seen now : Instant) :
    ∃ s', noteRoles m seen now s = (.ok (!m.roleIds.isEmpty && (s.rolesOf m.id).isEmpty), s') ∧
      s'.readOnly = false ∧ s'.cacheRows = s.cacheRows ∧ s'.joins = s.joins ∧
      ∀ id, s'.roles[id]? = if id = m.id then RolesFact.noted m seen now s.roles[m.id]? else s.roles[id]? := by
  have hstamp (hkeep : m.roleIds = [] ∨ s.rolesOf m.id ≠ []) (id : MemberId) :
      (s.stampRoles m.id now).roles[id]? =
        if id = m.id then RolesFact.noted m seen now s.roles[m.id]? else s.roles[id]? := by
    rw [stampRoles, getElem?_modify]
    unfold rolesOf at hkeep
    cases hrow : s.roles[m.id]? with
    | some row =>
      have hkeep : m.roleIds = [] ∨ row.roleIds ≠ [] := by simpa [hrow] using hkeep
      simp only [RolesFact.noted, if_pos hkeep, Option.map_some]
    | none =>
      have hkeep : m.roleIds = [] := by simpa [hrow] using hkeep
      simp only [RolesFact.noted, if_pos hkeep, Option.map_none]
  unfold noteRoles
  by_cases hroles : m.roleIds = []
  · rw [if_pos (by simp [hroles]), touchRoles_writable h, hroles]
    exact ⟨_, rfl, h, rfl, rfl, hstamp (.inl hroles)⟩
  · have hread : (Store.rolesOf m.id s : Outcome TableStore (List String)) = (.ok (s.rolesOf m.id), s) := rfl
    rw [if_neg (by simp [hroles]), hread]
    dsimp only [Outcome.andThen]
    by_cases hrecorded : s.rolesOf m.id = []
    · rw [if_pos (by simp [hrecorded]), recordRoles_writable h]
      refine ⟨_, Prod.ext (by simp [hroles, hrecorded]) rfl, h, rfl, rfl, ?_⟩
      intro id
      rw [getElem?_insert]
      unfold rolesOf at hrecorded
      cases hrow : s.roles[m.id]? with
      | some row =>
        have hempty : row.roleIds = [] := by simpa [hrow] using hrecorded
        simp only [RolesFact.noted, hroles, hempty, ne_eq, not_true_eq_false, or_self, if_false]
      | none => simp only [RolesFact.noted, hroles, if_false]
    · rw [if_neg (by simp [hrecorded]), touchRoles_writable h]
      exact ⟨_, Prod.ext (by simp [hroles, hrecorded]) rfl, h, rfl, rfl, hstamp (.inr hrecorded)⟩

/-- **Noting facts down** fills in the rows of one member, and tells whether one of them is new. -/
theorem noteFacts_writable (h : s.readOnly = false) (m : Member) (seen now : Instant) :
    ∃ s', noteFacts m none seen now s = (.ok (s.lacks m), s') ∧ Noted m seen now s s' := by
  obtain ⟨s₁, hjoin, hwrite, hrows, hroles, hjoins⟩ := noteJoin_writable h m seen now
  obtain ⟨s₂, hnoted, hwrite', hrows', hjoins', hroles'⟩ := noteRoles_writable hwrite m seen now
  refine ⟨s₂, ?_, ?_, ?_, hrows'.trans hrows, hwrite'.trans h.symm⟩
  · unfold noteFacts
    rw [hjoin]
    dsimp only [Outcome.andThen]
    rw [hnoted]
    unfold lacks rolesOf
    rw [hroles]
  · intro id
    rw [hjoins', hjoins]
  · intro id
    rw [hroles', hroles]

/-! ## Facts that are there -/

namespace TableStore

/-- The recorded roles of a member, and when they were seen. -/
def rolesSeen? (s : TableStore) (id : MemberId) : Option (List String × Instant) :=
  s.roles[id]?.map fun row => (row.roleIds, row.observedAt)

/-- A later store: recorded joins and roles stay as they are, whatever was added. -/
structure Grew (s s' : TableStore) : Prop where
  joins : ∀ id, (s.joins[id]?).isSome = true → (s'.joins[id]?).isSome = true ∧ s'.joinTime? id = s.joinTime? id
  roles : ∀ id, s.rolesOf id ≠ [] → s'.rolesSeen? id = s.rolesSeen? id
  rows : s'.cacheRows = s.cacheRows
  readOnly : s'.readOnly = s.readOnly

variable {s' s'' : TableStore}

theorem rolesOf_eq (s : TableStore) (id : MemberId) :
    s.rolesOf id = ((s.rolesSeen? id).map Prod.fst).getD [] := by
  unfold rolesOf rolesSeen?
  cases s.roles[id]? <;> rfl

theorem Grew.refl (s : TableStore) : Grew s s := ⟨fun _ h => ⟨h, rfl⟩, fun _ _ => rfl, rfl, rfl⟩

theorem Grew.rolesOf (h : Grew s s') {id : MemberId} (hroles : s.rolesOf id ≠ []) :
    s'.rolesOf id = s.rolesOf id := by
  rw [rolesOf_eq, rolesOf_eq, h.roles id hroles]

theorem Grew.trans (h : Grew s s') (h' : Grew s' s'') : Grew s s'' where
  joins id hjoin := by
    obtain ⟨hjoin', htime⟩ := h.joins id hjoin
    obtain ⟨hjoin'', htime'⟩ := h'.joins id hjoin'
    exact ⟨hjoin'', htime'.trans htime⟩
  roles id hroles := by
    have hroles' : s'.rolesOf id ≠ [] := by
      rw [h.rolesOf hroles]
      exact hroles
    exact (h'.roles id hroles').trans (h.roles id hroles)
  rows := h'.rows.trans h.rows
  readOnly := h'.readOnly.trans h.readOnly

theorem lacks_eq_false_iff : s.lacks m = false ↔
    (s.joins[m.id]?).isSome = true ∧ (m.roleIds ≠ [] → s.rolesOf m.id ≠ []) := by
  unfold lacks
  rw [Bool.or_eq_false_iff, Option.isNone_eq_false_iff, Bool.and_eq_false_iff, Bool.not_eq_false',
    List.isEmpty_iff, List.isEmpty_eq_false_iff]
  exact and_congr_right fun _ => Decidable.or_iff_not_imp_left

/-- A fact that is recorded is never to be recorded again. -/
theorem Grew.lacks (h : Grew s s') (hm : s.lacks m = false) : s'.lacks m = false := by
  rw [lacks_eq_false_iff] at hm ⊢
  refine ⟨(h.joins _ hm.1).1, fun hroles => ?_⟩
  rw [h.rolesOf (hm.2 hroles)]
  exact hm.2 hroles

namespace Noted

variable (h : Noted m seen now s s')

include h

theorem joinTime? (hjoin : (s.joins[m.id]?).isSome = true) (id : MemberId) :
    s'.joinTime? id = s.joinTime? id := by
  unfold TableStore.joinTime?
  rw [h.joins]
  split
  · rename_i hid
    obtain ⟨row, hrow⟩ := Option.isSome_iff_exists.1 hjoin
    rw [hid, hrow]
    rfl
  · rfl

/-- Roles that are recorded stay, and where a member has none nothing is recorded. -/
theorem rolesSeen? (hroles : m.roleIds ≠ [] → s.rolesOf m.id ≠ []) (id : MemberId) :
    s'.rolesSeen? id = s.rolesSeen? id := by
  unfold TableStore.rolesSeen?
  rw [h.roles]
  split
  · rename_i hid
    rw [hid]
    unfold TableStore.rolesOf at hroles
    cases hrow : s.roles[m.id]? with
    | none =>
      rw [hrow] at hroles
      have hnone : m.roleIds = [] := Decidable.not_not.1 fun hsome => hroles hsome rfl
      rw [RolesFact.noted, if_pos hnone]
    | some row =>
      rw [hrow] at hroles
      have hkeep : m.roleIds = [] ∨ row.roleIds ≠ [] := Decidable.or_iff_not_imp_left.2 hroles
      rw [RolesFact.noted, if_pos hkeep]
      rfl
  · rfl

theorem grew : Grew s s' where
  joins id hjoin := by
    by_cases hid : id = m.id
    · subst hid
      refine ⟨?_, h.joinTime? hjoin m.id⟩
      rw [h.joins, if_pos rfl]
      rfl
    · unfold TableStore.joinTime?
      rw [h.joins, if_neg hid]
      exact ⟨hjoin, rfl⟩
  roles id hroles := by
    by_cases hid : id = m.id
    · subst hid
      exact h.rolesSeen? (fun _ => hroles) m.id
    · unfold TableStore.rolesSeen?
      rw [h.roles, if_neg hid]
  rows := h.rows
  readOnly := h.readOnly

/-- Nothing is left to be recorded. -/
theorem lacks : s'.lacks m = false := by
  rw [lacks_eq_false_iff, h.joins, if_pos rfl]
  refine ⟨rfl, fun hroles => ?_⟩
  unfold TableStore.rolesOf
  rw [h.roles, if_pos rfl]
  cases s.roles[m.id]? with
  | none =>
    rw [RolesFact.noted, if_neg hroles]
    exact hroles
  | some row =>
    rw [RolesFact.noted]
    split
    · rename_i hkeep
      exact hkeep.resolve_left hroles
    · exact hroles

end Noted

end TableStore

end Roster
