import Roster.Log.Pattern.Basic

/-!
# Classes in brackets

A class holds characters, ranges, classes with a name and classes in brackets; `&&`, `--` and `~~` join what
stands on both sides of them.

* `namedClass?` — the name of a class of ASCII, such as `[:alpha:]`.
* `openClass?` — the beginning of a class, where a minus or a closing bracket stands for itself.
* `member?` — a character, a range or a class by a letter.
* `readClass?` — a class from behind its opening bracket: how deep it is nested, and the rest.
-/

set_option autoImplicit false

namespace Roster.Pattern

/-- A class that is being read: how deep what stands left of the last operator is nested, if there was one, and
the members behind it. -/
structure OpenClass where
  left : Option Nat
  members : List Nat
deriving DecidableEq, Repr

namespace OpenClass

/-- With one more member. -/
def add (k : OpenClass) (depth : Nat) : OpenClass := { k with members := depth :: k.members }

/-- How deep the class is nested. -/
def depth (k : OpenClass) : Nat :=
  match k.left with
  | none => nesting k.members
  | some left => 1 + max left (nesting k.members)

/-- Behind an operator. -/
def operator (k : OpenClass) : OpenClass := ⟨some k.depth, []⟩

end OpenClass

/-- The names of the classes of ASCII. -/
def classNames : List String :=
  ["alnum", "alpha", "ascii", "blank", "cntrl", "digit", "graph", "lower", "print", "punct", "space",
    "upper", "word", "xdigit"]

/-- A class by its name, from behind the bracket: whether it is negated, and the rest. -/
def namedClass? : List Char → Option (Bool × List Char)
  | ':' :: cs =>
    let (negated, cs) := match cs with
      | '^' :: cs => (true, cs)
      | cs => (false, cs)
    match cs.dropWhile (· ≠ ':') with
    | ':' :: ']' :: rest =>
      if classNames.contains (String.ofList (cs.takeWhile (· ≠ ':'))) then some (negated, rest) else none
    | _ => none
  | _ => none

/-- How many times a minus stands in front, and what follows. -/
def minuses (f : Flags) (count : Nat) (cs : List Char) : Nat × List Char :=
  match cs with
  | '-' :: cs => minuses f (count + 1) (skipSpace f cs)
  | cs => (count, cs)
termination_by cs.length
decreasing_by exact Nat.lt_succ_of_le (length_skipSpace_le f cs)

/-- The beginning of a class, from behind the bracket.  The negation of a class of bytes is no class of
ASCII. -/
def openClass? (f : Flags) (cs : List Char) : Option (OpenClass × List Char) :=
  let (negated, cs) := match skipSpace f cs with
    | '^' :: cs => (true, skipSpace f cs)
    | cs => (false, cs)
  let (count, cs) := minuses f 0 cs
  let (count, cs) := match cs with
    | ']' :: rest => if count = 0 then (1, skipSpace f rest) else (count, cs)
    | _ => (count, cs)
  if cs.isEmpty || (negated && !f.unicode) || (0 < count && !Atom.memberAllowed f '-') then none
  else some (⟨none, List.replicate count 0⟩, cs)

/-- A character as it is or escaped. -/
def character? (f : Flags) : List Char → Option (Atom × List Char)
  | [] => none
  | '\\' :: cs => escape? f cs
  | c :: cs => some (.literal c false, cs)

/-- The end of a range that begins with an atom, from behind the minus. -/
def rangeEnd? (f : Flags) (first : Atom) (cs : List Char) : Option (List Char) :=
  (character? f (skipSpace f cs)).bind fun (last, rest) =>
    match first, last with
    | .literal c _, .literal c' _ =>
      if c ≤ c' && Atom.memberAllowed f c && Atom.memberAllowed f c' then some rest else none
    | _, _ => none

/-- What follows a member of a class. -/
def member? (f : Flags) (cs : List Char) : Option (List Char) :=
  (character? f cs).bind fun (atom, rest) =>
    let alone := if atom.allowedInClass f then some rest else none
    match skipSpace f rest with
    | [] => none
    | '-' :: behind =>
      match peek? f behind with
      | some ']' => alone
      | some '-' => alone
      | _ => rangeEnd? f atom behind
    | _ => alone

/-- Read a class on, inside the classes that are open around it. -/
def readClass? (f : Flags) (around : List OpenClass) (k : OpenClass) :
    Nat → List Char → Option (Nat × List Char)
  | 0, _ => none
  | fuel + 1, cs =>
    match skipSpace f cs with
    | [] => none
    | '[' :: cs =>
      match namedClass? cs with
      | some (negated, rest) =>
        if f.unicode && f.ignoreCase || negated && !f.unicode then none
        else readClass? f around (k.add 0) fuel rest
      | none => (openClass? f cs).bind fun (inner, rest) => readClass? f (k :: around) inner fuel rest
    | ']' :: cs =>
      let depth := 1 + k.depth
      match around with
      | [] => some (depth, cs)
      | outer :: around => readClass? f around (outer.add depth) fuel cs
    | '&' :: '&' :: cs => readClass? f around k.operator fuel cs
    | '-' :: '-' :: cs => readClass? f around k.operator fuel cs
    | '~' :: '~' :: cs => readClass? f around k.operator fuel cs
    | cs => (member? f cs).bind fun rest => readClass? f around (k.add 0) fuel rest

end Roster.Pattern
