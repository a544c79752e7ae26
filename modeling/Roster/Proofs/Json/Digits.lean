import Roster.Json.Parser
import Roster.Json.Printer

/-!
# Decimal digits written and read

* `Json.digitsValue_toDigits` — the digits of a number denote it.
* `Json.head?_toDigits` — no zero stands in front of another digit.
* `Json.digits1_append` — digits are read up to the first character that is none.
* `Json.parseNumber_renderInt` — a whole number is read back, whatever closes the value behind it.
-/

set_option autoImplicit false

namespace Roster.Json

/-! ## Digits -/

theorem isDigit_eq (c : Char) : isDigit c = c.isDigit := rfl

theorem digitsValue_eq (ds : List Char) : digitsValue ds = Nat.ofDigitChars 10 ds 0 := by
  simp only [digitsValue, Nat.ofDigitChars_eq_foldl]
  congr 1
  funext n d
  rw [Nat.mul_comm]
  rfl

theorem digitsValue_toDigits (n : Nat) : digitsValue (Nat.toDigits 10 n) = n := by
  rw [digitsValue_eq, Nat.ofDigitChars_ten_toDigits]

theorem isDigit_of_mem_toDigits {n : Nat} {c : Char} (h : c ∈ Nat.toDigits 10 n) :
    isDigit c = true := by
  rw [isDigit_eq]
  exact Nat.isDigit_of_mem_toDigits (by decide) (by decide) h

/-- Only zero itself begins with a zero. -/
theorem head?_toDigits {n : Nat} (h : 0 < n) : (Nat.toDigits 10 n).head? ≠ some '0' := by
  induction n using Nat.strongRecOn with
  | ind n ih =>
    by_cases hn : n < 10
    · rw [Nat.toDigits_of_lt_base hn]
      simp
      omega
    · rw [Nat.toDigits_of_base_le (by decide) (by omega), List.head?_append]
      have hne : Nat.toDigits 10 (n / 10) ≠ [] := Nat.toDigits_ne_nil
      rw [List.head?_eq_some_head hne, Option.some_or, ← List.head?_eq_some_head hne]
      exact ih (n / 10) (by omega) (by omega)

/-! ## Reading digits -/

/-- What follows a value: nothing, or a mark that closes it. -/
def Closes (rest : List Char) : Prop :=
  rest = [] ∨ ∃ c cs, rest = c :: cs ∧ (c = ',' ∨ c = ']' ∨ c = '\x7d')

theorem closes_nil : Closes [] := .inl rfl

theorem closes_comma (cs : List Char) : Closes (',' :: cs) := .inr ⟨_, _, rfl, .inl rfl⟩

theorem closes_bracket (cs : List Char) : Closes (']' :: cs) := .inr ⟨_, _, rfl, .inr (.inl rfl)⟩

theorem closes_brace (cs : List Char) : Closes ('\x7d' :: cs) := .inr ⟨_, _, rfl, .inr (.inr rfl)⟩

/-- Digits in front of a text that begins with none are split off as a whole. -/
theorem span_digits {ds rest : List Char} (hd : ∀ c ∈ ds, isDigit c = true)
    (hr : ∀ c cs, rest = c :: cs → isDigit c = false) :
    (ds ++ rest).takeWhile isDigit = ds ∧ (ds ++ rest).dropWhile isDigit = rest := by
  have htake : rest.takeWhile isDigit = [] := by
    cases rest with
    | nil => rfl
    | cons c cs => simp [hr c cs rfl]
  have hdrop : rest.dropWhile isDigit = rest := by
    cases rest with
    | nil => rfl
    | cons c cs => simp [hr c cs rfl]
  constructor
  · rw [List.takeWhile_append_of_pos hd, htake, List.append_nil]
  · rw [List.dropWhile_append_of_pos hd, hdrop]

theorem digits1_append {ds rest : List Char} (hne : ds ≠ []) (hd : ∀ c ∈ ds, isDigit c = true)
    (hr : ∀ c cs, rest = c :: cs → isDigit c = false) : digits1 (ds ++ rest) = some (ds, rest) := by
  obtain ⟨ht, hdr⟩ := span_digits hd hr
  unfold digits1
  simp only [ht, hdr]
  rw [if_neg (by simpa using hne)]

theorem Closes.not_isDigit {rest : List Char} (h : Closes rest) :
    ∀ c cs, rest = c :: cs → isDigit c = false := by
  rcases h with rfl | ⟨c, cs, rfl, h⟩
  · intro c cs h
    cases h
  · intro c' cs' he
    cases he
    rcases h with rfl | rfl | rfl <;> rfl

theorem wholePart_append (n : Nat) {rest : List Char} (h : Closes rest) :
    wholePart (Nat.toDigits 10 n ++ rest) = some (Nat.toDigits 10 n, rest) := by
  have hd := digits1_append Nat.toDigits_ne_nil (fun _ => isDigit_of_mem_toDigits (n := n))
    h.not_isDigit
  simp only [wholePart, hd, bind, Option.bind]
  rw [if_neg]
  rintro ⟨hlen, hhead⟩
  rcases Nat.eq_zero_or_pos n with rfl | hn
  · simp at hlen
  · exact head?_toDigits hn hhead

theorem fractionPart_of_closes {rest : List Char} (h : Closes rest) :
    fractionPart rest = some ([], rest) := by
  rcases h with rfl | ⟨c, cs, rfl, rfl | rfl | rfl⟩ <;> rfl

theorem exponentPart_of_closes {rest : List Char} (h : Closes rest) :
    exponentPart rest = some ([], rest) := by
  rcases h with rfl | ⟨c, cs, rfl, rfl | rfl | rfl⟩ <;> rfl

/-- A number without a fraction is a whole number, except for a zero with a sign. -/
theorem parseUnsigned_append (negative : Bool) (n : Nat) {rest : List Char} (h : Closes rest)
    (hn : negative = true → n ≠ 0) :
    parseUnsigned negative (Nat.toDigits 10 n ++ rest) =
      some (.integer (if negative then -n else n), rest) := by
  have hkeep : (negative && n == 0) = false := by
    cases negative
    · rfl
    · simpa using hn rfl
  simp only [parseUnsigned, wholePart_append n h, fractionPart_of_closes h,
    exponentPart_of_closes h, digitsValue_toDigits, bind, Option.bind]
  simp [hkeep]

/-- The first digit of a number. -/
theorem toDigits_eq_cons (n : Nat) : ∃ d ds, Nat.toDigits 10 n = d :: ds ∧ isDigit d = true := by
  cases h : Nat.toDigits 10 n with
  | nil => exact absurd h Nat.toDigits_ne_nil
  | cons d ds => exact ⟨d, ds, rfl, isDigit_of_mem_toDigits (n := n) (by simp [h])⟩

theorem parseNumber_renderInt (n : Int) {rest : List Char} (h : Closes rest) :
    parseNumber (renderInt n ++ rest) = some (.integer n, rest) := by
  unfold renderInt
  split
  · rename_i hn
    rw [List.cons_append, parseNumber, parseUnsigned_append true _ h (by omega)]
    congr
    simp only [if_true]
    omega
  · rename_i hn
    obtain ⟨d, ds, hds, hd⟩ := toDigits_eq_cons n.natAbs
    have hsign : parseNumber (Nat.toDigits 10 n.natAbs ++ rest) =
        parseUnsigned false (Nat.toDigits 10 n.natAbs ++ rest) := by
      rw [hds, List.cons_append, parseNumber]
      rintro cs ⟨⟩
      exact absurd hd (by decide)
    rw [hsign, parseUnsigned_append false _ h (by simp)]
    congr
    simp only [Bool.false_eq_true, if_false]
    omega

end Roster.Json
