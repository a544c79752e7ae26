import Roster.Proofs.Store.Facts

/-!
# Facts that are recorded when they are first seen

A row of facts is made once.  Whoever sees the member again stamps it.

* `JoinFact.Seen`, `RolesFact.Seen` — what becomes of a row between two instants while a member is seen any
  number of times: it is as it was, was stamped, or was recorded.
* `JoinFact.Seen.lasts`, `RolesFact.Seen.lasts`, `RolesFact.Seen.changed` — **what is recorded stays**.
* `TableStore.Seen` — the same of all rows of a store.  `Seen.trans`, `Seen.mono`: one
  stretch of time after the other.
* `TableStore.seen_recordFirstJoin`, `seen_touchJoin`, `seen_touchRoles`, `seen_recordRoles` — single writes.
* `TableStore.seen_noteFacts`, `seen_touchFacts` — **both facts of a member**, whatever was known of them before
  and whether or not the store accepts writes.
-/

set_option autoImplicit false

namespace Roster

variable {since till since' till' : Instant}

/-! ## One row -/

/-- What becomes of a join row. -/
inductive JoinFact.Seen (since till : Instant) : Option JoinFact → Option JoinFact → Prop
  | same (row : Option JoinFact) : Seen since till row row
  | stamped (row : JoinFact) (time : Instant) (hsince : since ≤ time) (htill : time ≤ till) :
    Seen since till (some row) (some { row with lastTouched := time })
  | recorded (row : JoinFact) (hsince : since ≤ row.lastTouched) (htill : row.lastTouched ≤ till) :
    Seen since till none (some row)

/-- What becomes of a roles row.  Only roles that a member is told to have are recorded, and
only where there are none. -/
inductive RolesFact.Seen (told : List String → Prop) (since till : Instant) :
    Option RolesFact → Option RolesFact → Prop
  | same (row : Option RolesFact) : Seen told since till row row
  | stamped (row : RolesFact) (time : Instant) (hsince : since ≤ time) (htill : time ≤ till) :
    Seen told since till (some row) (some { row with lastTouched := time })
  | recorded (before : Option RolesFact) (hbefore : ∀ row ∈ before, row.roleIds = []) (row : RolesFact)
    (htold : told row.roleIds) (hroles : row.roleIds ≠ []) (hsince : since ≤ row.lastTouched)
    (htill : row.lastTouched ≤ till) : Seen told since till before (some row)

namespace JoinFact.Seen

variable {a b c : Option JoinFact}

theorem mono (h : Seen since till a b) (hsince : since' ≤ since) (htill : till ≤ till') :
    Seen since' till' a b := by
  cases h with
  | same => exact .same a
  | stamped row time hs ht => exact .stamped row time (Instant.le_trans hsince hs) (Instant.le_trans ht htill)
  | recorded row hs ht => exact .recorded row (Instant.le_trans hsince hs) (Instant.le_trans ht htill)

theorem trans (h : Seen since till a b) (h' : Seen since till b c) : Seen since till a c := by
  cases h' with
  | same => exact h
  | stamped row time hs ht =>
    cases h with
    | same => exact .stamped row time hs ht
    | stamped row => exact .stamped row time hs ht
    | recorded row => exact .recorded _ hs ht
  | recorded row hs ht =>
    cases h
    exact .recorded row hs ht

/-- **A join row lasts**, and so does its time.  Its stamp does not go back if it is not ahead of the clock. -/
theorem lasts {row : JoinFact} (h : Seen since till (some row) b) :
    ∃ row', b = some row' ∧ row'.joinedAt = row.joinedAt ∧
      (row.lastTouched ≤ since → row.lastTouched ≤ row'.lastTouched) := by
  cases h with
  | same => exact ⟨row, rfl, rfl, fun _ => row.lastTouched.le_refl⟩
  | stamped _ time hs => exact ⟨_, rfl, rfl, fun hrow => Instant.le_trans hrow hs⟩

/-- A row that is not as it was carries a time of the clock. -/
theorem timely {row : JoinFact} (h : Seen since till a (some row)) (hne : a ≠ some row) :
    row.lastTouched ≤ till := by
  cases h with
  | same => exact absurd rfl hne
  | stamped _ _ _ ht => exact ht
  | recorded _ _ ht => exact ht

end JoinFact.Seen

namespace RolesFact.Seen

variable {told told' : List String → Prop} {a b c : Option RolesFact}

theorem mono (h : Seen told since till a b) (htold : ∀ roleIds, told roleIds → told' roleIds)
    (hsince : since' ≤ since) (htill : till ≤ till') : Seen told' since' till' a b := by
  cases h with
  | same => exact .same a
  | stamped row time hs ht => exact .stamped row time (Instant.le_trans hsince hs) (Instant.le_trans ht htill)
  | recorded _ hbefore row hrow hroles hs ht =>
    exact .recorded a hbefore row (htold _ hrow) hroles (Instant.le_trans hsince hs) (Instant.le_trans ht htill)

theorem trans (h : Seen told since till a b) (h' : Seen told since till b c) : Seen told since till a c := by
  cases h' with
  | same => exact h
  | stamped row time hs ht =>
    cases h with
    | same => exact .stamped row time hs ht
    | stamped row => exact .stamped row time hs ht
    | recorded _ hbefore row hrow hroles => exact .recorded a hbefore _ hrow hroles hs ht
  | recorded _ hempty row' hrow' hroles' hs ht =>
    cases h with
    | same => exact .recorded a hempty row' hrow' hroles' hs ht
    | stamped row time =>
      have hrow : row.roleIds = [] := hempty { row with lastTouched := time } rfl
      refine .recorded (some row) ?_ row' hrow' hroles' hs ht
      rintro _ ⟨⟩
      exact hrow
    | recorded _ _ row _ hroles =>
      -- roles that were recorded are there, so nothing is recorded over them
      exact absurd (hempty row rfl) hroles

/-- **A roles row lasts**, with its roles and their time if it has any. -/
theorem lasts {row : RolesFact} (h : Seen told since till (some row) b) :
    ∃ row', b = some row' ∧
      (row.roleIds ≠ [] → row'.roleIds = row.roleIds ∧ row'.observedAt = row.observedAt) ∧
      (row.lastTouched ≤ since → row.lastTouched ≤ row'.lastTouched) := by
  cases h with
  | same => exact ⟨row, rfl, fun _ => ⟨rfl, rfl⟩, fun _ => row.lastTouched.le_refl⟩
  | stamped _ time hs => exact ⟨_, rfl, fun _ => ⟨rfl, rfl⟩, fun hrow => Instant.le_trans hrow hs⟩
  | recorded _ hempty row' _ _ hs =>
    exact ⟨row', rfl, fun hroles => absurd (hempty row rfl) hroles, fun hrow => Instant.le_trans hrow hs⟩

/-- **Roles change only from none at all to those that were told.** -/
theorem changed {row : RolesFact} (h : Seen told since till a (some row)) :
    a.map RolesFact.roleIds = some row.roleIds ∨
      (a.map RolesFact.roleIds).getD [] = [] ∧ row.roleIds ≠ [] ∧ told row.roleIds := by
  cases h with
  | same => exact .inl rfl
  | stamped row => exact .inl rfl
  | recorded _ hbefore _ htold hroles =>
    refine .inr ⟨?_, hroles, htold⟩
    cases a with
    | none => rfl
    | some before => exact hbefore before rfl

/-- A row that is not as it was carries a time of the clock. -/
theorem timely {row : RolesFact} (h : Seen told since till a (some row)) (hne : a ≠ some row) :
    row.lastTouched ≤ till := by
  cases h with
  | same => exact absurd rfl hne
  | stamped _ _ _ ht => exact ht
  | recorded _ _ _ _ _ _ ht => exact ht

end RolesFact.Seen

/-! ## All rows of a store -/

namespace TableStore

/-- What becomes of the facts of a store while members are seen. -/
structure Seen (told : Member → Prop) (since till : Instant) (s s' : TableStore) : Prop where
  joins : ∀ id : MemberId, JoinFact.Seen since till s.joins[id]? s'.joins[id]?
  roles :
    ∀ id : MemberId, RolesFact.Seen (fun roleIds => ∃ m, told m ∧ m.id = id ∧ m.roleIds = roleIds) since till
    s.roles[id]? s'.roles[id]?

variable {told told' : Member → Prop} {s s' s'' : TableStore}

theorem Seen.of_same (hjoins : s'.joins = s.joins) (hroles : s'.roles = s.roles) :
    Seen told since till s s' := by
  constructor
  · intro id
    rw [hjoins]
    exact .same _
  · intro id
    rw [hroles]
    exact .same _

theorem Seen.refl (s : TableStore) : Seen told since till s s := .of_same rfl rfl

theorem Seen.mono (h : Seen told since till s s') (htold : ∀ m, told m → told' m) (hsince : since' ≤ since)
    (htill : till ≤ till') : Seen told' since' till' s s' where
  joins id := (h.joins id).mono hsince htill
  roles id := by
    refine (h.roles id).mono ?_ hsince htill
    rintro _ ⟨m, hm, hid, hroles⟩
    exact ⟨m, htold m hm, hid, hroles⟩

theorem Seen.trans (h : Seen told since till s s') (h' : Seen told since till s' s'') :
    Seen told since till s s'' where
  joins id := (h.joins id).trans (h'.joins id)
  roles id := (h.roles id).trans (h'.roles id)

/-- One join row is replaced by what may become of it. -/
theorem Seen.of_joins {id : MemberId} {row : Option JoinFact} {joins : Std.TreeMap MemberId JoinFact}
    (hrow : JoinFact.Seen since till s.joins[id]? row)
    (hjoins : ∀ id', joins[id']? = if id' = id then row else s.joins[id']?) :
    Seen told since till s { s with joins } where
  joins id' := by
    rw [hjoins]
    split
    · rename_i hid
      rw [hid]
      exact hrow
    · exact .same _
  roles _ := .same _

/-- One roles row is replaced by what may become of it. -/
theorem Seen.of_roles {id : MemberId} {row : Option RolesFact} {roles : Std.TreeMap MemberId RolesFact}
    (hrow : RolesFact.Seen (fun roleIds => ∃ m, told m ∧ m.id = id ∧ m.roleIds = roleIds)
      since till s.roles[id]? row)
    (hroles : ∀ id', roles[id']? = if id' = id then row else s.roles[id']?) :
    Seen told since till s { s with roles } where
  joins _ := .same _
  roles id' := by
    rw [hroles]
    split
    · rename_i hid
      rw [hid]
      exact hrow
    · exact .same _

/-! ## Single writes -/

/-- A write that is refused changes nothing. -/
theorem Seen.write {α : Type} {change : TableStore → α × TableStore} (h : Seen told since till s (change s).2) :
    Seen told since till s (s.write change).2 := by
  unfold TableStore.write
  split
  · exact .refl s
  · exact h

variable (now : Instant) (id : MemberId)

theorem seen_stampJoin (s : TableStore) : Seen told now now s (s.stampJoin id now) := by
  refine .of_joins ?_ fun id' => getElem?_modify s.joins id _ id'
  cases s.joins[id]? with
  | none => exact .same none
  | some row => exact .stamped row now now.le_refl now.le_refl

theorem seen_stampRoles (s : TableStore) : Seen told now now s (s.stampRoles id now) := by
  refine .of_roles ?_ fun id' => getElem?_modify s.roles id _ id'
  cases s.roles[id]? with
  | none => exact .same none
  | some row => exact .stamped row now now.le_refl now.le_refl

theorem seen_touchJoin (s : TableStore) : Seen told now now s (Store.touchJoin now id s).2 :=
  Seen.write (seen_stampJoin now id s)

theorem seen_touchRoles (s : TableStore) : Seen told now now s (Store.touchRoles now id s).2 :=
  Seen.write (seen_stampRoles now id s)

/-- A join time is recorded where there is none, and nowhere else. -/
theorem seen_recordFirstJoin (joinedAt : Timestamp) (s : TableStore) :
    Seen told now now s (Store.recordFirstJoin now id joinedAt s).2 := by
  apply Seen.write
  cases hrow : s.joins[id]? with
  | some row => exact seen_stampJoin now id s
  | none =>
    refine .of_joins ?_ fun id' => getElem?_insert s.joins id _ id'
    rw [hrow]
    exact .recorded ⟨joinedAt, now⟩ now.le_refl now.le_refl

/-- The roles of a member may be recorded where there are none. -/
theorem seen_recordRoles {m : Member} (hm : told m) (hroles : m.roleIds ≠ []) (hempty : s.rolesOf m.id = [])
    (observedAt : Instant) : Seen told now now s (Store.recordRoles now m.id m.roleIds observedAt s).2 := by
  apply Seen.write
  refine .of_roles ?_ fun id' => getElem?_insert s.roles m.id _ id'
  refine .recorded _ ?_ ⟨m.roleIds, observedAt, now⟩ ⟨m, hm, rfl, rfl⟩ hroles now.le_refl now.le_refl
  intro row hrow
  unfold rolesOf at hempty
  rw [Option.mem_def.1 hrow] at hempty
  exact hempty

/-! ## Both facts of a member -/

/-- What is done next, if there was no error. -/
theorem Seen.andThen {α β : Type} {o : Outcome TableStore α} {f : α → TableStore → Outcome TableStore β}
    (h : Seen told since till s o.2) (hf : ∀ a, o.1 = .ok a → Seen told since till o.2 (f a o.2).2) :
    Seen told since till s (o.andThen f).2 := by
  obtain ⟨answer, st⟩ := o
  cases answer with
  | error e => exact h
  | ok a => exact h.trans (hf a rfl)

/-- The join fact of a member who is seen, whatever is known of it. -/
theorem seen_noteJoin (seen : Instant) (m : Member) (known : Option Bool) (s : TableStore) :
    Seen told now now s (noteJoin m known seen now s).2 := by
  unfold noteJoin
  split
  · exact (seen_touchJoin now m.id s).andThen fun _ _ => .refl _
  · exact seen_recordFirstJoin now m.id _ s

/-- The roles fact of a member who is seen: it is read before it is written. -/
theorem seen_noteRoles (seen : Instant) {m : Member} (hm : told m) (s : TableStore) :
    Seen told now now s (noteRoles m seen now s).2 := by
  have htouch : Seen told now now s
      (Outcome.andThen (Store.touchRoles now m.id s) fun _ st => (.ok false, st) : Outcome TableStore Bool).2 :=
    (seen_touchRoles now m.id s).andThen fun _ _ => .refl _
  unfold noteRoles
  split
  · exact htouch
  · -- the roles that are read are those of the store that is written, whatever was known of the joins
    rename_i hroles
    refine (Seen.refl s).andThen ?_
    rintro recorded ⟨⟩
    split
    · rename_i hempty
      have hrecord := seen_recordRoles now hm (by simpa using hroles) (List.isEmpty_iff.1 hempty) seen
      exact hrecord.andThen fun _ _ => .refl _
    · exact htouch

/-- **Noting the facts of a member down** makes the rows that are missing and stamps the others. -/
theorem seen_noteFacts (seen : Instant) {m : Member} (hm : told m) (known : Option Bool) (s : TableStore) :
    Seen told now now s (noteFacts m known seen now s).2 := by
  refine (seen_noteJoin now seen m known s).andThen fun _ _ => ?_
  exact (seen_noteRoles now seen hm _).andThen fun _ _ => .refl _

/-- **Touching the facts of a member** makes no row. -/
theorem seen_touchFacts (s : TableStore) : Seen told now now s (touchFacts id now s).2 := by
  have hboth : Seen told now now s (Store.touchRoles now id (Store.touchJoin now id s).2).2 :=
    (seen_touchJoin now id s).trans (seen_touchRoles now id _)
  unfold touchFacts
  dsimp only
  split <;> exact hboth

end TableStore

end Roster
