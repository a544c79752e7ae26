/-!
# Numbers of 64 bits

* `maxWord` — the largest of them.
* `readWord` — the number a text stands for: decimal digits, after a `+` if there is one.
* `NumberFault` — why a text stands for none, with its wording.
* `le_of_readWord` — what is read is no larger than `maxWord`.
-/

set_option autoImplicit false

namespace Roster

/-- The largest number of 64 bits. -/
abbrev maxWord : Nat := 18446744073709551615

/-- Why a text is no number of 64 bits. -/
inductive NumberFault where
  | empty
  | notADigit
  | tooLarge
deriving DecidableEq, Repr

def NumberFault.message : NumberFault → String
  | .empty => "cannot parse integer from empty string"
  | .notADigit => "invalid digit found in string"
  | .tooLarge => "number too large to fit in target type"

/-- Read digits behind a number that was read already; the first character that is no digit, or that
makes the number too large, decides. -/
def readDigits (n : Nat) : List Char → Except NumberFault Nat
  | [] => .ok n
  | c :: cs =>
    if '0' ≤ c ∧ c ≤ '9' then
      let n' := n * 10 + (c.toNat - 48)
      if n' ≤ maxWord then readDigits n' cs else .error .tooLarge
    else .error .notADigit

/-- The number a text stands for. -/
def readWord : List Char → Except NumberFault Nat
  | [] => .error .empty
  | ['+'] => .error .notADigit
  | '+' :: cs => readDigits 0 cs
  | cs => readDigits 0 cs

theorem le_of_readDigits {n m : Nat} {cs : List Char} (hn : n ≤ maxWord) (h : readDigits n cs = .ok m) :
    m ≤ maxWord := by
  fun_induction readDigits n cs with
  | case1 n => cases h; exact hn
  | case2 n c cs hc n' hle ih => exact ih hle h
  | case3 => cases h
  | case4 => cases h

theorem le_of_readWord {n : Nat} {cs : List Char} (h : readWord cs = .ok n) : n ≤ maxWord := by
  unfold readWord at h
  split at h
  · cases h
  · cases h
  · exact le_of_readDigits (Nat.zero_le _) h
  · exact le_of_readDigits (Nat.zero_le _) h

end Roster
