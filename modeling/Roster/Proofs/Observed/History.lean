import Mathlib.Data.List.Induction
import Roster.Proofs.Observed

/-!
# What is known after a sequence of observations

* `Observation` — what an observer is told: a record, the roles of a group in full, or a change.
* `Observation.memberWord?`, `groupWord?`, `channelWord?`, `roleWord?` — what one observation says
  of a record: nothing, a record, or that there is none.  `Observation.reorder` — what it does to
  the ids of a known role list.
* `lastWord?`, `eq_lastWord` — **the last word counts**, for everything that goes by words.
* `Patched`, `patched` — a known role list under changes: its ids, its roles and their order.
* `Observed.Follows`, `Observed.Alike`, `Observed.known_exactly` — **what is known after any sequence**; a
  change that comes twice in a row makes no difference.
-/

set_option autoImplicit false

namespace Roster

/-! ## Words -/

/-- What an observer is told. -/
inductive Observation where
  | member (m : Member)
  | group (g : Group)
  | roles (groupId : String) (roles : List Role)
  | channel (c : Channel)
  | change (event : Change)

namespace Observation

/-- What an observation says of a member. -/
def memberWord? (id : MemberId) : Observation → Option (Option Member)
  | .member m | .change (.memberUpdated m) => if m.id = id then some (some m) else none
  | .change (.memberRemoved id') => if id' = id then some none else none
  | _ => none

/-- What an observation says of a group: none is ever removed. -/
def groupWord? (id : String) : Observation → Option (Option Group)
  | .group g | .change (.groupUpdated g) => if g.id = id then some (some g) else none
  | _ => none

/-- What an observation says of a channel. -/
def channelWord? (id : String) : Observation → Option (Option Channel)
  | .channel c | .change (.channelUpdated c) => if c.id = id then some (some c) else none
  | .change (.channelDeleted _ id') => if id' = id then some none else none
  | _ => none

/-- What a change says of a role. -/
def roleWord? (g id : String) : Observation → Option (Option Role)
  | .change (.roleCreated g' role) | .change (.roleUpdated g' role) =>
    if g' = g ∧ role.id = id then some (some role) else none
  | .change (.roleDeleted g' id') => if g' = g ∧ id' = id then some none else none
  | _ => none

/-- What a change makes of the ids of a known role list: a deleted one leaves, one that
is absent comes to the end. -/
def reorder (g : String) (ids : List String) : Observation → List String
  | .change (.roleCreated g' role) | .change (.roleUpdated g' role) =>
    if g' = g ∧ role.id ∉ ids then ids ++ [role.id] else ids
  | .change (.roleDeleted g' id) => if g' = g then ids.filter fun id' => id' ≠ id else ids
  | _ => ids

/-- Whether the roles of a group are told in full. -/
def setsRoles (g : String) : Observation → Bool
  | .roles g' _ => decide (g' = g)
  | _ => false

/-- What a change makes of the known role list of a group. -/
def patch (g : String) (roles : List Role) : Observation → List Role
  | .change (.roleCreated g' role) | .change (.roleUpdated g' role) =>
    if g' = g then Observed.patchRole role roles else roles
  | .change (.roleDeleted g' id) => if g' = g then Observed.dropRole id roles else roles
  | _ => roles

end Observation

/-- The last word of a sequence, if there is one. -/
def lastWord? {β : Type} (word? : Observation → Option β) (os : List Observation) : Option β :=
  os.reverse.findSome? word?

theorem lastWord?_concat {β : Type} (word? : Observation → Option β) (os : List Observation) (o : Observation) :
    lastWord? word? (os ++ [o]) = (word? o).or (lastWord? word? os) := by
  unfold lastWord?
  rw [List.reverse_concat, List.findSome?_cons]
  cases word? o <;> rfl

/-- **The last word counts**, for everything that one observation changes by its word. -/
theorem eq_lastWord {σ β : Type} {step : σ → Observation → σ} {word? : Observation → Option β} (look : σ → β)
    (h : ∀ s o, look (step s o) = (word? o).getD (look s)) (s : σ) (os : List Observation) :
    look (os.foldl step s) = (lastWord? word? os).getD (look s) := by
  induction os using List.reverseRecOn with
  | nil => rfl
  | append_singleton os o ih =>
    rw [List.foldl_append, List.foldl_cons, List.foldl_nil, h, ih, lastWord?_concat]
    cases word? o <;> rfl

/-! ## A known role list -/

namespace Observed

theorem find?_patchRole (role : Role) (roles : List Role) (id : String) :
    (patchRole role roles).find? (fun r => r.id = id) =
      if role.id = id then some role else roles.find? fun r => r.id = id := by
  induction roles with
  | nil => by_cases h : role.id = id <;> simp [patchRole, h]
  | cons r roles ih =>
    unfold patchRole
    by_cases hr : r.id = role.id
    · rw [if_pos hr]
      by_cases h : role.id = id
      · simp [h]
      · have hne : r.id ≠ id := fun hid => h (hr.symm.trans hid)
        simp [h, hne]
    · rw [if_neg hr, List.find?_cons, List.find?_cons, ih]
      by_cases h : role.id = id
      · have hne : r.id ≠ id := fun hid => hr (hid.trans h.symm)
        simp [h, hne]
      · simp [h]

theorem find?_dropRole (roleId : String) (roles : List Role) (id : String) :
    (dropRole roleId roles).find? (fun r => r.id = id) =
      if roleId = id then none else roles.find? fun r => r.id = id := by
  unfold dropRole
  rw [List.find?_filter]
  by_cases h : roleId = id
  · rw [if_pos h, List.find?_eq_none]
    intro r _
    simp [h]
  · rw [if_neg h]
    refine congrArg (List.find? · roles) (funext fun r => ?_)
    by_cases hr : r.id = id
    · simp [hr, Ne.symm h]
    · simp [hr]

theorem ids_patchRole (role : Role) (roles : List Role) :
    (patchRole role roles).map Role.id =
      if role.id ∈ roles.map Role.id then roles.map Role.id else roles.map Role.id ++ [role.id] := by
  induction roles with
  | nil => rfl
  | cons r roles ih =>
    unfold patchRole
    by_cases hr : r.id = role.id
    · simp [hr]
    · rw [if_neg hr, List.map_cons, ih]
      by_cases h : role.id ∈ roles.map Role.id <;> simp [h, Ne.symm hr]

theorem ids_dropRole (roleId : String) (roles : List Role) :
    (dropRole roleId roles).map Role.id = (roles.map Role.id).filter fun id => id ≠ roleId := by
  unfold dropRole
  rw [List.filter_map]
  rfl

theorem patchRole_patchRole (role : Role) (roles : List Role) :
    patchRole role (patchRole role roles) = patchRole role roles := by
  induction roles with
  | nil => simp [patchRole]
  | cons r roles ih => by_cases hr : r.id = role.id <;> simp [patchRole, hr, ih]

theorem dropRole_dropRole (roleId : String) (roles : List Role) :
    dropRole roleId (dropRole roleId roles) = dropRole roleId roles := by
  unfold dropRole
  simp only [List.filter_filter, Bool.and_self]

end Observed

/-- What observations make of the known role list of a group. -/
structure Patched (g : String) (os : List Observation) (roles roles' : List Role) : Prop where
  /-- No id is there twice. -/
  distinct : (roles'.map Role.id).Nodup
  /-- Under every id there is what the last change of that role says, and the role that
  was there if no change does. -/
  found : ∀ id, roles'.find? (fun r => r.id = id) =
    (lastWord? (Observation.roleWord? g id) os).getD (roles.find? fun r => r.id = id)
  /-- The ids are in the order that the changes make, one after the other. -/
  order : roles'.map Role.id = os.foldl (Observation.reorder g) (roles.map Role.id)
  /-- The roles that were never deleted are in front, in their order. -/
  kept : ((roles.map Role.id).filter fun id => ∀ o ∈ os, o.roleWord? g id ≠ some none) <+: roles'.map Role.id

namespace Observation

variable {g : String} {o : Observation}

theorem find?_patch (roles : List Role) (o : Observation) (id : String) :
    (o.patch g roles).find? (fun r => r.id = id) =
      (o.roleWord? g id).getD (roles.find? fun r => r.id = id) := by
  have hput (g' : String) (role : Role) :
      (if g' = g then Observed.patchRole role roles else roles).find? (fun r => r.id = id) =
        (if g' = g ∧ role.id = id then some (some role) else none).getD (roles.find? fun r => r.id = id) := by
    by_cases hg : g' = g
    · rw [if_pos hg, Observed.find?_patchRole]
      by_cases hid : role.id = id <;> simp [hg, hid]
    · simp [hg]
  unfold patch roleWord?
  split
  · exact hput _ _
  · exact hput _ _
  · rename_i g' id'
    by_cases hg : g' = g
    · rw [if_pos hg, Observed.find?_dropRole]
      by_cases hid : id' = id <;> simp [hg, hid]
    · simp [hg]
  · rfl

theorem ids_patch (roles : List Role) (o : Observation) :
    (o.patch g roles).map Role.id = o.reorder g (roles.map Role.id) := by
  have hput (g' : String) (role : Role) :
      (if g' = g then Observed.patchRole role roles else roles).map Role.id =
        if g' = g ∧ role.id ∉ roles.map Role.id then roles.map Role.id ++ [role.id] else roles.map Role.id := by
    by_cases hg : g' = g
    · rw [if_pos hg, Observed.ids_patchRole]
      by_cases hid : role.id ∈ roles.map Role.id <;> simp [hg, hid]
    · simp [hg]
  unfold patch reorder
  split
  · exact hput _ _
  · exact hput _ _
  · rename_i g' id'
    by_cases hg : g' = g
    · rw [if_pos hg, if_pos hg, Observed.ids_dropRole]
    · rw [if_neg hg, if_neg hg]
  · rfl

theorem nodup_reorder {ids : List String} (h : ids.Nodup) (o : Observation) : (o.reorder g ids).Nodup := by
  have hput (g' id : String) : (if g' = g ∧ id ∉ ids then ids ++ [id] else ids).Nodup := by
    split
    · rename_i hnew
      exact (List.perm_append_singleton id ids).nodup_iff.2 (List.nodup_cons.2 ⟨hnew.2, h⟩)
    · exact h
  unfold reorder
  split
  · exact hput _ _
  · exact hput _ _
  · split
    · exact h.filter _
    · exact h
  · exact h

/-- The ids that an observation does not delete stay in front. -/
theorem filter_prefix_reorder (ids : List String) (o : Observation) :
    (ids.filter fun id => o.roleWord? g id ≠ some none) <+: o.reorder g ids := by
  have hkeeps {word? : String → Option (Option Role)} (h : ∀ id, word? id ≠ some none) :
      (ids.filter fun id => word? id ≠ some none) = ids :=
    List.filter_eq_self.2 fun id _ => decide_eq_true (h id)
  have hput (g' : String) (role : Role) : (ids.filter fun id =>
      (if g' = g ∧ role.id = id then some (some role) else none) ≠ some none) <+:
        if g' = g ∧ role.id ∉ ids then ids ++ [role.id] else ids := by
    rw [hkeeps fun id => by split <;> simp]
    split
    · exact List.prefix_append ids _
    · exact List.prefix_refl ids
  unfold roleWord? reorder
  split
  · exact hput _ _
  · exact hput _ _
  · rename_i g' id'
    by_cases hg : g' = g
    · simp [hg, eq_comm]
    · rw [if_neg hg]
      exact ⟨[], by rw [List.append_nil, hkeeps fun id => by simp [hg]]⟩
  · exact ⟨[], by rw [List.append_nil, hkeeps fun id => by simp]⟩

/-- So do the ids that a sequence never deletes. -/
theorem filter_prefix_foldl (ids : List String) (os : List Observation) :
    (ids.filter fun id => ∀ o ∈ os, o.roleWord? g id ≠ some none) <+: os.foldl (reorder g) ids := by
  induction os using List.reverseRecOn with
  | nil =>
    rw [List.filter_eq_self.2 fun id _ => decide_eq_true fun o ho => nomatch ho]
    exact List.prefix_refl ids
  | append_singleton os o ih =>
    have hsplit : (ids.filter fun id => ∀ o' ∈ os ++ [o], o'.roleWord? g id ≠ some none) =
        (ids.filter fun id => ∀ o' ∈ os, o'.roleWord? g id ≠ some none).filter
          fun id => o.roleWord? g id ≠ some none := by
      rw [List.filter_filter]
      refine List.filter_congr fun id _ => ?_
      rw [← Bool.decide_and]
      refine decide_eq_decide.2 ?_
      rw [List.forall_mem_append, List.forall_mem_singleton, and_comm]
    rw [hsplit, List.foldl_append, List.foldl_cons, List.foldl_nil]
    exact (ih.filter _).trans (filter_prefix_reorder _ o)

end Observation

/-- **A known role list follows its changes.** -/
theorem patched {g : String} {roles : List Role} (h : (roles.map Role.id).Nodup) (os : List Observation) :
    Patched g os roles (os.foldl (Observation.patch g) roles) := by
  have horder : (os.foldl (Observation.patch g) roles).map Role.id =
      os.foldl (Observation.reorder g) (roles.map Role.id) :=
    (List.foldl_hom _ fun roles o => (Observation.ids_patch roles o).symm).symm
  refine ⟨?_, ?_, horder, ?_⟩
  · rw [horder]
    exact List.foldlRecOn (motive := fun ids : List String => ids.Nodup) os _ h fun _ hids o _ =>
      Observation.nodup_reorder hids o
  · intro id
    exact eq_lastWord (fun roles : List Role => roles.find? fun r => r.id = id)
      (fun roles o => Observation.find?_patch roles o id) roles os
  · rw [horder]
    exact Observation.filter_prefix_foldl _ os

/-! ## The records under one observation -/

namespace Observed

variable {s s' : Observed} {g : String} {o : Observation}

/-- What is known after one observation. -/
def observe (s : Observed) : Observation → Observed
  | .member m => s.putMember m
  | .group g => s.putGroup g
  | .roles groupId roles => s.putRoles groupId roles
  | .channel c => s.putChannel c
  | .change event => s.update event

/-- What is known after a sequence of observations. -/
def observeAll (s : Observed) (os : List Observation) : Observed := os.foldl observe s

section Words

variable {κ β : Type} [Ord κ] [Std.TransOrd κ] [Std.LawfulEqOrd κ] [DecidableEq κ]

theorem getElem?_insert (t : Std.TreeMap κ β) (id id' : κ) (b : β) :
    (t.insert id' b)[id]? = (if id' = id then some (some b) else none).getD t[id]? := by
  rw [Std.TreeMap.getElem?_insert]
  by_cases h : id' = id <;> simp [h]

theorem getElem?_erase (t : Std.TreeMap κ β) (id id' : κ) :
    (t.erase id')[id]? = (if id' = id then some none else none).getD t[id]? := by
  rw [Std.TreeMap.getElem?_erase]
  by_cases h : id' = id <;> simp [h]

theorem getElem?_modify (t : Std.TreeMap κ β) (id id' : κ) (f : β → β) :
    (t.modify id' f)[id]? = t[id]?.map fun b => if id' = id then f b else b := by
  rw [Std.TreeMap.getElem?_modify]
  by_cases h : id' = id <;> simp [h]

end Words

theorem members_observe (s : Observed) (o : Observation) (id : MemberId) :
    (s.observe o).members[id]? = (o.memberWord? id).getD s.members[id]? := by
  cases o with
  | member m => exact getElem?_insert s.members id m.id m
  | change event =>
    cases event with
    | memberUpdated m => exact getElem?_insert s.members id m.id m
    | memberRemoved id' => exact getElem?_erase s.members id id'
    | _ => rfl
  | _ => rfl

theorem groups_observe (s : Observed) (o : Observation) (id : String) :
    (s.observe o).groups[id]? = (o.groupWord? id).getD s.groups[id]? := by
  cases o with
  | group g => exact getElem?_insert s.groups id g.id g
  | change event =>
    cases event with
    | groupUpdated g => exact getElem?_insert s.groups id g.id g
    | _ => rfl
  | _ => rfl

theorem channels_observe (s : Observed) (o : Observation) (id : String) :
    (s.observe o).channels[id]? = (o.channelWord? id).getD s.channels[id]? := by
  cases o with
  | channel c => exact getElem?_insert s.channels id c.id c
  | change event =>
    cases event with
    | channelUpdated c => exact getElem?_insert s.channels id c.id c
    | channelDeleted _ id' => exact getElem?_erase s.channels id id'
    | _ => rfl
  | _ => rfl

/-- A role list that is not told anew is changed in place, and only if it is known. -/
theorem roles_observe (s : Observed) (h : o.setsRoles g = false) :
    (s.observe o).roles[g]? = s.roles[g]?.map fun roles => o.patch g roles := by
  have hsame : s.roles[g]? = s.roles[g]?.map fun roles => roles := Option.map_id_apply'.symm
  cases o with
  | roles g' roles =>
    have hne : g' ≠ g := of_decide_eq_false h
    refine ((getElem?_insert s.roles g g' roles).trans ?_).trans hsame
    rw [if_neg hne]
    rfl
  | change event =>
    cases event with
    | roleCreated g' role => exact getElem?_modify s.roles g g' (patchRole role)
    | roleUpdated g' role => exact getElem?_modify s.roles g g' (patchRole role)
    | roleDeleted g' id => exact getElem?_modify s.roles g g' (dropRole id)
    | _ => exact hsame
  | _ => exact hsame

theorem roles_observeAll (s : Observed) {os : List Observation} (h : ∀ o ∈ os, o.setsRoles g = false) :
    (s.observeAll os).roles[g]? = s.roles[g]?.map fun roles => os.foldl (Observation.patch g) roles := by
  induction os generalizing s with
  | nil => exact Option.map_id_apply'.symm
  | cons o os ih =>
    obtain ⟨ho, hos⟩ := List.forall_mem_cons.1 h
    rw [observeAll, List.foldl_cons, ← observeAll, ih _ hos, roles_observe s ho, Option.map_map]
    rfl

/-! ## A change that comes twice -/

/-- The same records in every table. -/
structure Alike (s s' : Observed) : Prop where
  members : s.members.Equiv s'.members
  groups : s.groups.Equiv s'.groups
  roles : s.roles.Equiv s'.roles
  channels : s.channels.Equiv s'.channels

/-- Nothing that is asked tells them apart. -/
theorem Alike.seen (h : s.Alike s') : (∀ now e, s.lookup? now e = s'.lookup? now e) ∧ s.groupIds = s'.groupIds ∧
    s.describe = s'.describe := by
  refine ⟨?_, h.groups.keys_eq, ?_⟩
  · intro now e
    cases e with
    | member id => exact h.members.getElem?_eq
    | group id => exact h.groups.getElem?_eq
    | roles g => exact congrArg (Option.map _) h.roles.getElem?_eq
    | channel id => exact h.channels.getElem?_eq
  · unfold describe
    rw [h.members.size_eq, h.groups.size_eq, h.channels.size_eq]

theorem Alike.observe (h : s.Alike s') (o : Observation) : (s.observe o).Alike (s'.observe o) := by
  obtain ⟨hmembers, hgroups, hroles, hchannels⟩ := h
  cases o with
  | member m => exact ⟨hmembers.insert _ _, hgroups, hroles, hchannels⟩
  | group g => exact ⟨hmembers, hgroups.insert _ _, hroles, hchannels⟩
  | roles g roles => exact ⟨hmembers, hgroups, hroles.insert _ _, hchannels⟩
  | channel c => exact ⟨hmembers, hgroups, hroles, hchannels.insert _ _⟩
  | change event =>
    cases event with
    | memberUpdated m => exact ⟨hmembers.insert _ _, hgroups, hroles, hchannels⟩
    | memberRemoved id => exact ⟨hmembers.erase _, hgroups, hroles, hchannels⟩
    | groupUpdated g => exact ⟨hmembers, hgroups.insert _ _, hroles, hchannels⟩
    | roleCreated g role => exact ⟨hmembers, hgroups, hroles.modify _ _, hchannels⟩
    | roleUpdated g role => exact ⟨hmembers, hgroups, hroles.modify _ _, hchannels⟩
    | roleDeleted g id => exact ⟨hmembers, hgroups, hroles.modify _ _, hchannels⟩
    | channelUpdated c => exact ⟨hmembers, hgroups, hroles, hchannels.insert _ _⟩
    | channelDeleted g id => exact ⟨hmembers, hgroups, hroles, hchannels.erase _⟩

theorem Alike.observeAll (h : s.Alike s') (os : List Observation) :
    (s.observeAll os).Alike (s'.observeAll os) := by
  induction os generalizing s s' with
  | nil => exact h
  | cons o os ih => exact ih (h.observe o)

section Twice

variable {κ β : Type} [Ord κ] [Std.TransOrd κ] [Std.LawfulEqOrd κ] [DecidableEq κ]

theorem insert_insert (t : Std.TreeMap κ β) (id : κ) (b : β) :
    ((t.insert id b).insert id b).Equiv (t.insert id b) := by
  refine .of_forall_constGet?_eq fun id' => ?_
  show ((t.insert id b).insert id b)[id']? = (t.insert id b)[id']?
  rw [getElem?_insert, getElem?_insert]
  split <;> rfl

theorem erase_erase (t : Std.TreeMap κ β) (id : κ) : ((t.erase id).erase id).Equiv (t.erase id) := by
  refine .of_forall_constGet?_eq fun id' => ?_
  show ((t.erase id).erase id)[id']? = (t.erase id)[id']?
  rw [getElem?_erase, getElem?_erase]
  split <;> rfl

theorem modify_modify (t : Std.TreeMap κ β) (id : κ) {f : β → β} (hf : ∀ b, f (f b) = f b) :
    ((t.modify id f).modify id f).Equiv (t.modify id f) := by
  refine .of_forall_constGet?_eq fun id' => ?_
  show ((t.modify id f).modify id f)[id']? = (t.modify id f)[id']?
  rw [getElem?_modify, getElem?_modify, Option.map_map]
  refine congrArg (Option.map · t[id']?) (funext fun b => ?_)
  show (if id = id' then f (if id = id' then f b else b) else if id = id' then f b else b) = _
  split
  · exact hf b
  · rfl

end Twice

/-- **A change that comes twice in a row** makes no difference. -/
theorem update_update (s : Observed) (event : Change) :
    ((s.update event).update event).Alike (s.update event) := by
  cases event with
  | memberUpdated m => exact ⟨insert_insert _ _ _, .rfl, .rfl, .rfl⟩
  | memberRemoved id => exact ⟨erase_erase _ _, .rfl, .rfl, .rfl⟩
  | groupUpdated g => exact ⟨.rfl, insert_insert _ _ _, .rfl, .rfl⟩
  | roleCreated g role => exact ⟨.rfl, .rfl, modify_modify _ _ (patchRole_patchRole role), .rfl⟩
  | roleUpdated g role => exact ⟨.rfl, .rfl, modify_modify _ _ (patchRole_patchRole role), .rfl⟩
  | roleDeleted g id => exact ⟨.rfl, .rfl, modify_modify _ _ (dropRole_dropRole id), .rfl⟩
  | channelUpdated c => exact ⟨.rfl, .rfl, .rfl, insert_insert _ _ _⟩
  | channelDeleted g id => exact ⟨.rfl, .rfl, .rfl, erase_erase _ _⟩

/-! ## The whole of it -/

/-- What is known after a sequence of observations, told from what was known before.  Of a
record the last word counts. -/
structure Follows (os : List Observation) (s s' : Observed) : Prop where
  members : ∀ now id, s'.lookup? now (.member id) =
    (lastWord? (Observation.memberWord? id) os).getD (s.lookup? now (.member id))
  groups : ∀ now id, s'.lookup? now (.group id) =
    (lastWord? (Observation.groupWord? id) os).getD (s.lookup? now (.group id))
  channels : ∀ now id, s'.lookup? now (.channel id) =
    (lastWord? (Observation.channelWord? id) os).getD (s.lookup? now (.channel id))
  /-- A role list that is never told in full stays unknown. -/
  unknown : ∀ g, s.roles[g]? = none → (∀ o ∈ os, o.setsRoles g = false) → s'.roles[g]? = none
  /-- One that is known is patched. -/
  known : ∀ g roles, s.roles[g]? = some roles → (roles.map Role.id).Nodup → (∀ o ∈ os, o.setsRoles g = false) →
    ∃ roles', s'.roles[g]? = some roles' ∧ Patched g os roles roles'
  /-- So is one that is told in full on the way, by what comes after. -/
  told : ∀ g roles before later, os = before ++ .roles g roles :: later → (roles.map Role.id).Nodup →
    (∀ o ∈ later, o.setsRoles g = false) → ∃ roles', s'.roles[g]? = some roles' ∧ Patched g later roles roles'

/-- A known role list stays known under changes, and is patched. -/
theorem exists_patched {roles : List Role} {os : List Observation} (hroles : s.roles[g]? = some roles)
    (hdistinct : (roles.map Role.id).Nodup) (hos : ∀ o ∈ os, o.setsRoles g = false) :
    ∃ roles', (s.observeAll os).roles[g]? = some roles' ∧ Patched g os roles roles' := by
  refine ⟨_, ?_, patched hdistinct os⟩
  rw [roles_observeAll s hos, hroles]
  rfl

theorem follows_observeAll (s : Observed) (os : List Observation) : Follows os s (s.observeAll os) where
  members _ id := eq_lastWord (fun s : Observed => s.members[id]?) (fun s o => members_observe s o id) s os
  groups _ id := eq_lastWord (fun s : Observed => s.groups[id]?) (fun s o => groups_observe s o id) s os
  channels _ id := eq_lastWord (fun s : Observed => s.channels[id]?) (fun s o => channels_observe s o id) s os
  unknown g hnone hos := by
    rw [roles_observeAll s hos, hnone]
    rfl
  known _ _ hroles hdistinct hos := exists_patched hroles hdistinct hos
  told g roles before later hos hdistinct hlater := by
    have hsplit : s.observeAll os = ((s.observeAll before).putRoles g roles).observeAll later := by
      rw [hos]
      exact List.foldl_append
    rw [hsplit]
    exact exists_patched Std.TreeMap.getElem?_insert_self hdistinct hlater

/-- **What is known after any sequence of observations**, and a change that comes twice in a row makes no
difference to anything that follows. -/
theorem known_exactly (s : Observed) (os : List Observation) : Follows os s (s.observeAll os) ∧
    ∀ event, (s.observeAll (.change event :: .change event :: os)).Alike (s.observeAll (.change event :: os)) :=
  ⟨follows_observeAll s os, fun event => (update_update s event).observeAll os⟩

/-- Two roles of a group are known. -/
def sampleKnown : Observed := empty.putRoles "g" [.new "a" "A", .new "b" "B"]

/-- One role changes, one is deleted and one is new, another group gets a role, and a member comes and goes. -/
def sampleChanges : List Observation :=
  [.change (.roleUpdated "g" (.new "b" "Other")), .change (.memberUpdated (.new "g" "u" "User")),
    .change (.roleDeleted "g" "a"), .change (.roleCreated "h" (.new "d" "D")),
    .change (.roleCreated "g" (.new "c" "C")), .change (.memberRemoved ⟨"g", "u"⟩)]

/-- The known role list is patched, that of the other group stays unknown, and the member is gone.  A change
that comes twice before that makes no difference. -/
theorem known_exactly_sample :
    ([Role.new "a" "A", .new "b" "B"].map Role.id).Nodup ∧ (∀ o ∈ sampleChanges, o.setsRoles "g" = false) ∧
      (∃ roles, (sampleKnown.observeAll sampleChanges).roles["g"]? = some roles ∧
        roles.map Role.id = ["b", "c"] ∧
        roles.find? (fun r => r.id = "b") = some (.new "b" "Other")) ∧
      (sampleKnown.observeAll sampleChanges).roles["h"]? = none ∧
      (sampleKnown.observeAll sampleChanges).lookup? .epoch (.member ⟨"g", "u"⟩) = none ∧
      ∀ event, (sampleKnown.observeAll (.change event :: .change event :: sampleChanges)).Alike
        (sampleKnown.observeAll (.change event :: sampleChanges)) := by
  have hdistinct : ([Role.new "a" "A", .new "b" "B"].map Role.id).Nodup := by decide
  have hpatches : ∀ o ∈ sampleChanges, o.setsRoles "g" = false := by decide
  have hother : ∀ o ∈ sampleChanges, o.setsRoles "h" = false := by decide
  obtain ⟨hfollows, htwice⟩ := known_exactly sampleKnown sampleChanges
  obtain ⟨roles, hroles, hpatched⟩ := hfollows.known "g" _ Std.TreeMap.getElem?_insert_self hdistinct hpatches
  have hunknown := hfollows.unknown "h" (by decide) hother
  have hmember := hfollows.members .epoch ⟨"g", "u"⟩
  exact ⟨hdistinct, hpatches, ⟨roles, hroles, hpatched.order, hpatched.found "b"⟩, hunknown, hmember, htwice⟩

end Observed

end Roster
