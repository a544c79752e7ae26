import Roster.Record.Kind

/-!
# Keys of memberships

* `MemberId.text_ne_empty`, `key_eq_text` — a key is the text of a membership, or empty when an id is missing.
* `MemberId.Splits`, `text_eq_iff` — which memberships share a text.
* `MemberId.eq_of_text_eq` — a membership is determined by its text when no colon is in the group ids;
  `user_eq_of_text_eq`: in one group it always is.
* `Entity.Plain`, `Entity.eq_of_key_eq` — entities of a kind with the same key are the same.
-/

set_option autoImplicit false

namespace Roster

namespace MemberId

theorem toList_text (id : MemberId) : id.text.toList = id.group.toList ++ ':' :: id.user.toList := by
  simp [text]

theorem text_ne_empty (id : MemberId) : id.text ≠ "" := by
  intro h
  have hl := id.toList_text
  rw [h] at hl
  simp at hl

theorem key_eq_text {id : MemberId} (h : id.key ≠ "") : id.key = id.text := by
  unfold key at h ⊢
  split
  · rename_i hmissing
    rw [if_pos hmissing] at h
    exact absurd rfl h
  · rfl

/-- What the first counts to its user id and the second to its group id, up to a
colon, is all they differ in. -/
def Splits (a b : MemberId) : Prop :=
  ∃ between, b.group = a.group ++ ":" ++ between ∧ a.user = between ++ ":" ++ b.user

theorem text_eq_of_splits {a b : MemberId} (h : a.Splits b) : a.text = b.text := by
  obtain ⟨between, hgroup, huser⟩ := h
  rw [text, text, hgroup, huser]
  simp only [String.append_assoc]

theorem splits_of_append {a b : MemberId} {between : List Char}
    (hgroup : b.group.toList = a.group.toList ++ between)
    (huser : ':' :: a.user.toList = between ++ ':' :: b.user.toList) : a = b ∨ a.Splits b := by
  cases between with
  | nil =>
    left
    have hgroup : b.group = a.group := String.toList_injective (by simpa using hgroup)
    have huser : a.user = b.user := String.toList_injective (List.cons.inj huser).2
    cases a
    cases b
    cases hgroup
    cases huser
    rfl
  | cons c between =>
    right
    obtain ⟨rfl, hrest⟩ : ':' = c ∧ a.user.toList = between ++ ':' :: b.user.toList := List.cons.inj huser
    refine ⟨String.ofList between, ?_, ?_⟩
    · apply String.toList_injective
      simp [hgroup]
    · apply String.toList_injective
      simp [hrest]

/-- **Two memberships have the same text** exactly when they are the same or differ
in where the group id ends. -/
theorem text_eq_iff {a b : MemberId} : a.text = b.text ↔ a = b ∨ a.Splits b ∨ b.Splits a := by
  constructor
  · intro h
    have hlist : a.group.toList ++ ':' :: a.user.toList = b.group.toList ++ ':' :: b.user.toList := by
      rw [← toList_text, ← toList_text, h]
    rcases List.append_eq_append_iff.1 hlist with ⟨between, hgroup, huser⟩ | ⟨between, hgroup, huser⟩
    · rcases splits_of_append hgroup huser with heq | hsplits
      · exact .inl heq
      · exact .inr (.inl hsplits)
    · rcases splits_of_append hgroup huser with heq | hsplits
      · exact .inl heq.symm
      · exact .inr (.inr hsplits)
  · rintro (rfl | h | h)
    · rfl
    · exact text_eq_of_splits h
    · exact (text_eq_of_splits h).symm

theorem colon_mem_of_splits {a b : MemberId} (h : a.Splits b) : ':' ∈ b.group.toList ∧ ':' ∈ a.user.toList := by
  obtain ⟨between, hgroup, huser⟩ := h
  rw [hgroup, huser]
  constructor <;> simp

/-- A membership is determined by its text when the group ids have no colon. -/
theorem eq_of_text_eq {a b : MemberId} (h : a.text = b.text) (ha : ':' ∉ a.group.toList)
    (hb : ':' ∉ b.group.toList) : a = b := by
  rcases text_eq_iff.1 h with heq | hsplits | hsplits
  · exact heq
  · exact absurd (colon_mem_of_splits hsplits).1 hb
  · exact absurd (colon_mem_of_splits hsplits).1 ha

/-- In one group a membership is determined by its text. -/
theorem user_eq_of_text_eq {group user user' : String} (h : text ⟨group, user⟩ = text ⟨group, user'⟩) :
    user = user' := by
  have hlist := congrArg String.toList h
  rw [toList_text, toList_text] at hlist
  have huser := (List.cons.inj (List.append_cancel_left hlist)).2
  exact String.toList_injective huser

-- A colon in a group id makes two memberships share a text.
example : text ⟨"a:b", "c"⟩ = text ⟨"a", "b:c"⟩ := by decide

end MemberId

namespace Entity

/-- No colon is in the group id of a membership. -/
def Plain : Entity → Prop
  | .member id => ':' ∉ id.group.toList
  | _ => True

/-- Entities of a kind are told apart by their keys, as far as they have any. -/
theorem eq_of_key_eq {a b : Entity} (ha : a.Plain) (hb : b.Plain) (hkind : a.kind = b.kind)
    (hkey : a.key = b.key) (hne : a.key ≠ "") : a = b := by
  cases a <;> cases b <;> try cases hkind
  · rename_i a b
    have hb' : b.key ≠ "" := fun h => hne (hkey.trans h)
    have htext : a.text = b.text := by
      rw [← MemberId.key_eq_text hne, ← MemberId.key_eq_text hb']
      exact hkey
    rw [MemberId.eq_of_text_eq htext ha hb]
  all_goals exact congrArg _ hkey

end Entity

end Roster
