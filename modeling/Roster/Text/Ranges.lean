/-!
# Classes of characters

* `CharClass` — a class of characters, given by ranges of code points with both ends included.
* `CharClass.holds` — whether a character is in the class.
-/

set_option autoImplicit false

namespace Roster

/-- Ranges of code points, both ends included. -/
abbrev CharClass := List (Nat × Nat)

/-- Whether the class has the character. -/
def CharClass.holds (k : CharClass) (c : Char) : Bool :=
  k.any fun r => r.1 ≤ c.toNat && c.toNat ≤ r.2

theorem CharClass.holds_iff {k : CharClass} {c : Char} :
    k.holds c = true ↔ ∃ r ∈ k, r.1 ≤ c.toNat ∧ c.toNat ≤ r.2 := by
  simp [CharClass.holds]

end Roster
