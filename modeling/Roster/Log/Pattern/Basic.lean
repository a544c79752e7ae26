import Roster.Text.Blank

/-!
# Parts of a pattern

A pattern is a regular expression over Unicode text that knows no property of a character beyond ASCII: classes
such as `\w`, edges of words and letters without regard to case can be written only where Unicode is switched
off, and what is matched there has to be ASCII or whole characters still.

* `Flags` — what is switched on at a place of a pattern, and `Flags.read?`, a change of it.
* `skipSpace` — white space and comments, which count for nothing where they are switched off.
* `Atom`, `escape?` — what a backslash begins.
* `nesting` — how deep things side by side are nested.
-/

set_option autoImplicit false

namespace Roster.Pattern

open Roster.Text (isBlank)

/-! ## Flags -/

/-- What is switched on. -/
structure Flags where
  /-- Letters stand for both cases. -/
  ignoreCase : Bool
  /-- Characters are matched, and not bytes. -/
  unicode : Bool
  /-- White space and comments do not count. -/
  spaced : Bool
deriving DecidableEq, Repr

namespace Flags

/-- At the start of a pattern. -/
def initial : Flags := ⟨false, true, false⟩

/-- Switch one flag; the others change what is matched, but not what can be written. -/
def switch (f : Flags) (name : Char) (on : Bool) : Flags :=
  if name = 'i' then { f with ignoreCase := on }
  else if name = 'u' then { f with unicode := on }
  else if name = 'x' then { f with spaced := on }
  else f

/-- Read flags: those behind a minus are switched off, and each is named once.  The answer has the flags,
whether any was named, whether a group follows, and the rest. -/
def read? (f : Flags) (named : List Char) : List Char → Option (Flags × Bool × Bool × List Char)
  | [] => none
  | c :: cs =>
    if c = ':' || c = ')' then
      if named.head? = some '-' then none else some (f, !named.isEmpty, c = ':', cs)
    else if "imsURux-".toList.contains c && !named.contains c then
      read? (f.switch c (!named.contains '-')) (c :: named) cs
    else none

end Flags

/-! ## White space -/

/-- What follows white space and comments, from inside a comment or not. -/
def afterSpace : Bool → List Char → List Char
  | _, [] => []
  | true, c :: cs => afterSpace (c ≠ '\n') cs
  | false, c :: cs =>
    if isBlank c then afterSpace false cs else if c = '#' then afterSpace true cs else c :: cs

theorem length_afterSpace_le (inComment : Bool) (cs : List Char) :
    (afterSpace inComment cs).length ≤ cs.length := by
  fun_induction afterSpace inComment cs with
  | case1 => exact Nat.le_refl _
  | case2 c cs ih => exact Nat.le_succ_of_le ih
  | case3 c cs _ ih => exact Nat.le_succ_of_le ih
  | case4 cs _ ih => exact Nat.le_succ_of_le ih
  | case5 => exact Nat.le_refl _

/-- What follows white space and comments where these do not count. -/
def skipSpace (f : Flags) (cs : List Char) : List Char := if f.spaced then afterSpace false cs else cs

theorem length_skipSpace_le (f : Flags) (cs : List Char) : (skipSpace f cs).length ≤ cs.length := by
  unfold skipSpace
  split
  · exact length_afterSpace_le _ _
  · exact Nat.le_refl _

/-- The next character that is no white space.  The sign of a comment is passed over, but not its text. -/
def glance : Bool → List Char → Option Char
  | _, [] => none
  | inComment, c :: cs =>
    if isBlank c then glance inComment cs
    else if c = '#' && !inComment then glance true cs
    else some c

/-- The character that decides whether a minus stands for a range. -/
def peek? (f : Flags) (cs : List Char) : Option Char := if f.spaced then glance false cs else cs.head?

/-! ## Escapes -/

/-- What a backslash begins. -/
inductive Atom where
  /-- A character, and whether it is given as a byte. -/
  | literal (c : Char) (isByte : Bool)
  /-- Digits, white space or the characters of a word, or all others. -/
  | charClass (negated : Bool)
  /-- The beginning or the end of the text. -/
  | edge
  /-- An edge of a word. -/
  | wordEdge
deriving DecidableEq, Repr

namespace Atom

/-- Whether a literal can be matched: no property tells its other case, and a byte beyond ASCII is no text. -/
def literalAllowed (f : Flags) (c : Char) (isByte : Bool) : Bool :=
  if f.unicode then !f.ignoreCase else !isByte || c.toNat < 128

/-- Whether a literal can stand in a class. -/
def memberAllowed (f : Flags) (c : Char) : Bool := if f.unicode then !f.ignoreCase else c.toNat < 128

/-- Whether an atom can stand in a pattern. -/
def allowed (f : Flags) : Atom → Bool
  | literal c isByte => literalAllowed f c isByte
  | charClass negated => !f.unicode && !negated
  | edge => true
  | wordEdge => !f.unicode

/-- Whether an atom can stand in a class. -/
def allowedInClass (f : Flags) : Atom → Bool
  | literal c _ => memberAllowed f c
  | charClass negated => !f.unicode && !negated
  | edge => false
  | wordEdge => false

end Atom

/-- The value of a hexadecimal digit. -/
def hexDigit? (c : Char) : Option Nat :=
  if '0' ≤ c ∧ c ≤ '9' then some (c.toNat - 48)
  else if 'a' ≤ c ∧ c ≤ 'f' then some (c.toNat - 87)
  else if 'A' ≤ c ∧ c ≤ 'F' then some (c.toNat - 55)
  else none

/-- Read so many hexadecimal digits behind a number that was read already. -/
def readHex? (f : Flags) : Nat → Nat → List Char → Option (Nat × List Char)
  | 0, n, cs => some (n, cs)
  | count + 1, n, cs =>
    match skipSpace f cs with
    | [] => none
    | c :: cs => (hexDigit? c).bind fun d => readHex? f count (n * 16 + d) cs

/-- A character by its number in hexadecimal digits. -/
def numbered? (f : Flags) (digits : Nat) (isByte : Bool) (cs : List Char) : Option (Atom × List Char) :=
  (readHex? f digits 0 cs).bind fun (n, rest) =>
    if n.isValidChar then some (.literal (Char.ofNat n) isByte, rest) else none

/-- The letters that stand for control characters behind a backslash. -/
def controls : List (Char × Char) :=
  [('a', '\x07'), ('f', '\x0c'), ('t', '\t'), ('n', '\n'), ('r', '\r'), ('v', '\x0b')]

/-- What a backslash and the characters behind it stand for; signs of ASCII stand for themselves. -/
def escape? (f : Flags) : List Char → Option (Atom × List Char)
  | [] => none
  | c :: cs =>
    if c = 'x' then numbered? f 2 true cs
    else if c = 'u' then numbered? f 4 false cs
    else if c = 'U' then numbered? f 8 false cs
    else if "dsw".toList.contains c then some (.charClass false, cs)
    else if "DSW".toList.contains c then some (.charClass true, cs)
    else if c = 'A' || c = 'z' then some (.edge, cs)
    else if c = 'b' then (if cs.head? = some '\x7b' then none else some (.wordEdge, cs))
    else if "B<>".toList.contains c then some (.wordEdge, cs)
    else
      match controls.lookup c with
      | some control => some (.literal control false, cs)
      | none => if c.toNat < 128 && !c.isAlphanum then some (.literal c false, cs) else none

/-! ## Nesting -/

/-- How deep things side by side are nested: two or more of them are one level above the deepest. -/
def nesting : List Nat → Nat
  | [] => 0
  | [depth] => depth
  | depths => 1 + depths.foldl max 0

end Roster.Pattern
