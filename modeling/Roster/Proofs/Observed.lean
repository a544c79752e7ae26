import Roster.Observed

/-!
# What a change does to the observed records

* `Observed.lookup?_update_of_ne` — a change leaves every record alone but that of its subject.
* `SameRecord` — records of an entity that differ at most in when they were fetched.
* `Observed.sameRecord_lookup?`, `lookup?_eq_none_of` — the time of a lookup decides nothing else.
-/

set_option autoImplicit false

namespace Roster

/-- Records of an entity that differ at most in the time at which a role list was fetched. -/
def SameRecord : (e : Entity) → e.Record → e.Record → Prop
  | .member _, r, r' => r = r'
  | .group _, r, r' => r = r'
  | .channel _, r, r' => r = r'
  | .roles _, r, r' => r.groupId = r'.groupId ∧ r.roles = r'.roles

theorem SameRecord.refl (e : Entity) (r : e.Record) : SameRecord e r r := by
  cases e <;> first | rfl | exact ⟨rfl, rfl⟩

namespace Observed

variable {s : Observed} {e : Entity} {now now' : Instant}

/-! ## The time of a lookup -/

theorem sameRecord_lookup? {r r' : e.Record} (h : s.lookup? now e = some r)
    (h' : s.lookup? now' e = some r') : SameRecord e r r' := by
  cases e with
  | member id => exact Option.some.inj (h.symm.trans h')
  | group id => exact Option.some.inj (h.symm.trans h')
  | channel id => exact Option.some.inj (h.symm.trans h')
  | roles g =>
    obtain ⟨roles, hr, rfl⟩ := Option.map_eq_some_iff.1 h
    obtain ⟨roles', hr', rfl⟩ := Option.map_eq_some_iff.1 h'
    exact ⟨rfl, Option.some.inj (hr.symm.trans hr')⟩

theorem lookup?_eq_none_of (h : s.lookup? now e = none) : s.lookup? now' e = none := by
  cases e with
  | member id => exact h
  | group id => exact h
  | channel id => exact h
  | roles g => exact Option.map_eq_none_iff.2 (Option.map_eq_none_iff.1 h)

/-! ## Changes -/

/-- A change leaves every record alone but that of its subject. -/
theorem lookup?_update_of_ne {event : Change} (h : e ≠ event.subject) :
    (s.update event).lookup? now e = s.lookup? now e := by
  have hne {α : Type} [Ord α] [Std.LawfulEqOrd α] {a b : α} (hab : a ≠ b) : ¬compare a b = .eq :=
    fun hc => hab (Std.LawfulEqOrd.compare_eq_iff_eq.1 hc)
  cases event <;> cases e <;> try rfl
  all_goals
    simp only [Change.subject, ne_eq, Entity.member.injEq, Entity.group.injEq, Entity.roles.injEq,
      Entity.channel.injEq] at h
    have hc := hne (Ne.symm h)
    simp only [update, lookup?, putMember, putGroup, putChannel, Std.TreeMap.getElem?_insert,
      Std.TreeMap.getElem?_erase, Std.TreeMap.getElem?_modify, hc, if_false]

end Observed

end Roster
