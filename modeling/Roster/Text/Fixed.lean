import Roster.Time.Duration

/-!
# Numbers with a fixed count of decimal places

* `roundDiv` — a quotient rounded to the nearest whole number, a tie to the even one.
* `fixed` — a binary64 number that is not negative, with a fixed count of decimal places, rounded so from its
  exact value.
* `two_mul_roundDiv_le`, `le_two_mul_roundDiv` — the rounded quotient is within half a unit.
-/

set_option autoImplicit false

namespace Roster.Text

/-- `num / den` to the nearest whole number, a tie to the even one. -/
def roundDiv (num den : Nat) : Nat :=
  let q := num / den
  let r := num % den
  if 2 * r < den then q
  else if den < 2 * r then q + 1
  else if q % 2 = 0 then q else q + 1

theorem two_mul_roundDiv_le (num den : Nat) :
    2 * (roundDiv num den * den) ≤ 2 * num + den := by
  have h := Nat.div_add_mod num den
  have h' : (num / den + 1) * den = den * (num / den) + den := by
    rw [Nat.add_mul, Nat.one_mul, Nat.mul_comm]
  have h'' : num / den * den = den * (num / den) := Nat.mul_comm _ _
  unfold roundDiv
  simp only
  repeat' split
  all_goals omega

theorem le_two_mul_roundDiv {num den : Nat} (hd : 0 < den) :
    2 * num ≤ 2 * (roundDiv num den * den) + den := by
  have h := Nat.div_add_mod num den
  have hr := Nat.mod_lt num hd
  have h' : (num / den + 1) * den = den * (num / den) + den := by
    rw [Nat.add_mul, Nat.one_mul, Nat.mul_comm]
  have h'' : num / den * den = den * (num / den) := Nat.mul_comm _ _
  unfold roundDiv
  simp only
  repeat' split
  all_goals omega

/-- Significand and exponent of two of a finite binary64 number, its sign aside. -/
def binaryParts (x : Float) : Nat × Int :=
  let bits := x.toBits.toNat
  let exponent : Nat := bits >>> 52 % 0x800
  let fraction : Nat := bits % 0x10000000000000
  if exponent = 0 then (fraction, -1074) else (fraction + 0x10000000000000, (exponent : Int) - 1075)

/-- A number with a fixed count of decimal places. -/
def fixed (places : Nat) (x : Float) : String :=
  let (m, e) := binaryParts x
  let scale := Nat.pow 10 places
  let scaled := roundDiv ((m * scale) <<< e.toNat) (1 <<< (-e).toNat)
  let whole := Nat.toDigits 10 (scaled / scale)
  let fraction := Duration.padded places (scaled % scale)
  String.ofList (if places = 0 then whole else whole ++ '.' :: fraction)

end Roster.Text
