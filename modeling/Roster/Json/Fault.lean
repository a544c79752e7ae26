import Roster.Word

/-!
# Faults of JSON

* `JsonFault` — what is wrong with a record or with a text, and where in the text.
* `JsonFault.message` — its wording; the place follows when there is one.
* `JsonFault.ofText` — the fault a wording stands for.  A place written at the end of the wording is the place
  of the fault.
-/

set_option autoImplicit false

namespace Roster

/-- What is wrong, and where: lines count from one, and line zero is no place. -/
structure JsonFault where
  text : String
  line : Nat
  column : Nat
deriving DecidableEq, Repr

namespace JsonFault

def message (f : JsonFault) : String :=
  if f.line = 0 then f.text else s!"{f.text} at line {f.line} column {f.column}"

/-- What stands in front of the digits at the end, and these digits. -/
def endDigits (cs : List Char) : List Char × List Char :=
  let isDigit : Char → Bool := fun c => '0' ≤ c && c ≤ '9'
  ((cs.reverse.dropWhile isDigit).reverse, (cs.reverse.takeWhile isDigit).reverse)

/-- The fault of a wording that ends in a place. -/
def placed? (wording : List Char) : Option JsonFault := do
  let (rest, column) := endDigits wording
  let rest ← " column ".toList.isSuffixOf? rest
  let (rest, line) := endDigits rest
  let rest ← " at line ".toList.isSuffixOf? rest
  return ⟨String.ofList rest, ← (readWord line).toOption, ← (readWord column).toOption⟩

/-- The fault a wording stands for. -/
def ofText (wording : String) : JsonFault := (placed? wording.toList).getD ⟨wording, 0, 0⟩

end JsonFault

end Roster
