import Roster.Json.Basic

/-!
# Reading JSON

* `Json.parse?` — the value that a text spells, blanks around it aside; `none` when it spells none.
* Blanks are the space, the tab and the line ends.  A control character inside a string literal, a
  number with a leading zero and anything behind the value are refused.  Values nest to any depth.
* `parseValue` and its companions take the characters left and give the characters after the value;
  their fuel is the depth of calls, which the number of characters bounds.
-/

set_option autoImplicit false

namespace Roster.Json

/-- A blank of JSON. -/
def isBlank (c : Char) : Bool := c = ' ' || c = '\n' || c = '\t' || c = '\r'

/-- The characters after the blanks in front. -/
def skipBlanks (cs : List Char) : List Char := cs.dropWhile isBlank

/-! ## String literals -/

/-- The value of a hexadecimal digit. -/
def hexValue? (c : Char) : Option Nat :=
  if '0' ≤ c ∧ c ≤ '9' then some (c.toNat - 48)
  else if 'a' ≤ c ∧ c ≤ 'f' then some (c.toNat - 87)
  else if 'A' ≤ c ∧ c ≤ 'F' then some (c.toNat - 55)
  else none

/-- The code unit of four hexadecimal digits. -/
def unit? (a b c d : Char) : Option Nat := do
  let w ← hexValue? a
  let x ← hexValue? b
  let y ← hexValue? c
  let z ← hexValue? d
  some (((w * 16 + x) * 16 + y) * 16 + z)

/-- The character that a letter after a backslash stands for. -/
def escapedUnit? (c : Char) : Option Nat :=
  if c = '"' ∨ c = '\\' ∨ c = '/' then some c.toNat
  else if c = 'b' then some 8
  else if c = 'f' then some 12
  else if c = 'n' then some 10
  else if c = 'r' then some 13
  else if c = 't' then some 9
  else none

/-- The code points of a string literal after its opening quote, and the characters after its closing
one.  Halves of surrogate pairs are still apart. -/
def parseUnits : List Char → Option (List Nat × List Char)
  | [] => none
  | '"' :: cs => some ([], cs)
  | '\\' :: 'u' :: a :: b :: c :: d :: cs => do
    let u ← unit? a b c d
    let (us, rest) ← parseUnits cs
    some (u :: us, rest)
  | '\\' :: c :: cs => do
    let u ← escapedUnit? c
    let (us, rest) ← parseUnits cs
    some (u :: us, rest)
  | c :: cs =>
    if c.toNat < 32 ∨ c = '\\' then none
    else do
      let (us, rest) ← parseUnits cs
      some (c.toNat :: us, rest)

/-- The first half of a surrogate pair. -/
def isHighSurrogate (u : Nat) : Bool := 0xD800 ≤ u && u ≤ 0xDBFF

/-- The second half of a surrogate pair. -/
def isLowSurrogate (u : Nat) : Bool := 0xDC00 ≤ u && u ≤ 0xDFFF

/-- The character of a surrogate pair. -/
def pairedChar (high low : Nat) : Char :=
  Char.ofNat ((high - 0xD800) * 1024 + (low - 0xDC00) + 0x10000)

/-- The text of code points; `none` when half of a surrogate pair stands alone. -/
def joinUnits : List Nat → Option (List Char)
  | [] => some []
  | [u] => if isHighSurrogate u || isLowSurrogate u then none else some [Char.ofNat u]
  | u :: v :: rest =>
    if isHighSurrogate u then
      if isLowSurrogate v then (joinUnits rest).map (pairedChar u v :: ·) else none
    else if isLowSurrogate u then none
    else (joinUnits (v :: rest)).map (Char.ofNat u :: ·)

/-- A string literal after its opening quote. -/
def parseText (cs : List Char) : Option (Option String × List Char) :=
  (parseUnits cs).map fun (us, rest) => ((joinUnits us).map String.ofList, rest)

/-! ## Numbers -/

/-- A decimal digit. -/
def isDigit (c : Char) : Bool := '0' ≤ c && c ≤ '9'

/-- The number of decimal digits. -/
def digitsValue (ds : List Char) : Nat := ds.foldl (fun n d => n * 10 + (d.toNat - 48)) 0

/-- The digits in front, at least one, and what follows them. -/
def digits1 (cs : List Char) : Option (List Char × List Char) :=
  let ds := cs.takeWhile isDigit
  if ds.isEmpty then none else some (ds, cs.dropWhile isDigit)

/-- The whole part of a number: no zero in front of another digit. -/
def wholePart (cs : List Char) : Option (List Char × List Char) := do
  let (ds, rest) ← digits1 cs
  if ds.length > 1 ∧ ds.head? = some '0' then none else some (ds, rest)

/-- The fraction of a number, with its point; nothing when there is no point. -/
def fractionPart : List Char → Option (List Char × List Char)
  | '.' :: cs => do
    let (ds, rest) ← digits1 cs
    some ('.' :: ds, rest)
  | cs => some ([], cs)

/-- The digits of an exponent, with their sign. -/
def signedDigits : List Char → Option (List Char × List Char)
  | '+' :: cs => (digits1 cs).map fun (ds, rest) => ('+' :: ds, rest)
  | '-' :: cs => (digits1 cs).map fun (ds, rest) => ('-' :: ds, rest)
  | cs => digits1 cs

/-- The exponent of a number, with its letter; nothing when there is none. -/
def exponentPart : List Char → Option (List Char × List Char)
  | 'e' :: cs => (signedDigits cs).map fun (ds, rest) => ('e' :: ds, rest)
  | 'E' :: cs => (signedDigits cs).map fun (ds, rest) => ('E' :: ds, rest)
  | cs => some ([], cs)

/-- A number without its sign. -/
def parseUnsigned (negative : Bool) (cs : List Char) : Option (Json × List Char) := do
  let (whole, cs) ← wholePart cs
  let (fraction, cs) ← fractionPart cs
  let (exponent, cs) ← exponentPart cs
  let n := digitsValue whole
  if fraction.isEmpty && exponent.isEmpty && !(negative && n == 0) then
    some (.integer (if negative then -n else n), cs)
  else
    let sign := if negative then ['-'] else []
    some (.decimal (String.ofList (sign ++ whole ++ fraction ++ exponent)), cs)

/-- A number. -/
def parseNumber : List Char → Option (Json × List Char)
  | '-' :: cs => parseUnsigned true cs
  | cs => parseUnsigned false cs

/-! ## Values -/

mutual

/-- A value, blanks in front skipped. -/
def parseValue : Nat → List Char → Option (Json × List Char)
  | 0, _ => none
  | fuel + 1, cs =>
    match skipBlanks cs with
    | 'n' :: 'u' :: 'l' :: 'l' :: cs => some (.null, cs)
    | 't' :: 'r' :: 'u' :: 'e' :: cs => some (.bool true, cs)
    | 'f' :: 'a' :: 'l' :: 's' :: 'e' :: cs => some (.bool false, cs)
    | '"' :: cs => (parseText cs).map fun (t, cs) => (.string t, cs)
    | '[' :: cs =>
      match skipBlanks cs with
      | ']' :: cs => some (.array [], cs)
      | cs => do
        let (v, cs) ← parseValue fuel cs
        let (vs, cs) ← parseItems fuel cs
        some (.array (v :: vs), cs)
    | '\x7b' :: cs =>
      match skipBlanks cs with
      | '\x7d' :: cs => some (.object [], cs)
      | cs => do
        let (f, cs) ← parseField fuel cs
        let (fs, cs) ← parseFields fuel cs
        some (.object (f :: fs), cs)
    | cs => parseNumber cs

/-- The items of an array after the first, up to the closing bracket. -/
def parseItems : Nat → List Char → Option (List Json × List Char)
  | 0, _ => none
  | fuel + 1, cs =>
    match skipBlanks cs with
    | ']' :: cs => some ([], cs)
    | ',' :: cs => do
      let (v, cs) ← parseValue fuel cs
      let (vs, cs) ← parseItems fuel cs
      some (v :: vs, cs)
    | _ => none

/-- A field of an object. -/
def parseField : Nat → List Char → Option ((Option String × Json) × List Char)
  | 0, _ => none
  | fuel + 1, cs =>
    match skipBlanks cs with
    | '"' :: cs => do
      let (k, cs) ← parseText cs
      match skipBlanks cs with
      | ':' :: cs => do
        let (v, cs) ← parseValue fuel cs
        some ((k, v), cs)
      | _ => none
    | _ => none

/-- The fields of an object after the first, up to the closing bracket. -/
def parseFields : Nat → List Char → Option (List (Option String × Json) × List Char)
  | 0, _ => none
  | fuel + 1, cs =>
    match skipBlanks cs with
    | '\x7d' :: cs => some ([], cs)
    | ',' :: cs => do
      let (f, cs) ← parseField fuel cs
      let (fs, cs) ← parseFields fuel cs
      some (f :: fs, cs)
    | _ => none

end

/-- The value of a whole list of characters. -/
def parseChars (cs : List Char) : Option Json := do
  let (v, rest) ← parseValue (cs.length + 1) cs
  if (skipBlanks rest).isEmpty then some v else none

/-- The value that a text spells. -/
def parse? (s : String) : Option Json := parseChars s.toList

end Roster.Json
