import Roster.Log.Pattern.Class
import Roster.Text.Letter

/-!
# Patterns

* `Pattern.isWellFormed` — whether a text is a pattern.  A count in braces is none: a brace has another meaning
  where patterns are written, so that no count ever ends.
* `Pattern.isNumber` — whether a text is a decimal number, which is always taken for a number and never for a
  pattern.
-/

set_option autoImplicit false

namespace Roster.Pattern

open Roster.Text (isAlphanumeric isLetter)

/-- How deep a pattern may be nested. -/
def nestingLimit : Nat := 250

/-! ## Groups -/

/-- A group that is being read: the flags at this place, how deep the alternatives before this one are nested,
and the items of this one, the last one first.  An item is `none` if it is a change of flags. -/
structure Group where
  flags : Flags
  alternatives : List Nat
  items : List (Option Nat)
deriving DecidableEq, Repr

namespace Group

/-- At the start of a group. -/
def start (flags : Flags) : Group := ⟨flags, [], []⟩

/-- With one more item. -/
def add (g : Group) (depth : Nat) : Group := { g with items := some depth :: g.items }

/-- After a change of flags. -/
def switch (g : Group) (flags : Flags) : Group := { g with flags, items := none :: g.items }

/-- At the start of the next alternative. -/
def next (g : Group) : Group :=
  { g with alternatives := nesting (g.items.map (·.getD 0)) :: g.alternatives, items := [] }

/-- How deep the group is nested. -/
def depth (g : Group) : Nat := nesting g.next.alternatives

/-- With the last item repeated. -/
def repeat? (g : Group) : Option Group :=
  match g.items with
  | some depth :: items => some { g with items := some (depth + 1) :: items }
  | _ => none

end Group

/-- The name of a group, from behind the opening angle, and the rest. -/
def groupName? (cs : List Char) : Option (List Char × List Char) :=
  let name := cs.takeWhile (· ≠ '>')
  match name, cs.dropWhile (· ≠ '>') with
  | c :: more, '>' :: rest =>
    let isFirst := c = '_' || isLetter c
    let isMore (c : Char) : Bool := isAlphanumeric c || "_.[]".toList.contains c
    if isFirst && more.all isMore then some (name, rest) else none
  | _, _ => none

/-- What an opening parenthesis begins. -/
inductive Opening where
  /-- A change of flags, which ends at once. -/
  | flags (flags : Flags)
  /-- A group, with its name if it has one. -/
  | group (flags : Flags) (name : Option (List Char))
deriving DecidableEq, Repr

/-- What follows the question mark behind an opening parenthesis. -/
def extension? (f : Flags) (cs : List Char) : Option (Opening × List Char) :=
  (f.read? [] cs).bind fun (flags, named, isGroup, rest) =>
    if isGroup then some (.group flags none, rest)
    else if named then some (.flags flags, rest)
    else none

/-- What an opening parenthesis begins, and the rest. -/
def opening? (f : Flags) (cs : List Char) : Option (Opening × List Char) :=
  match skipSpace f cs with
  | '?' :: 'P' :: '<' :: cs => (groupName? cs).map fun (name, rest) => (.group f (some name), rest)
  | '?' :: '<' :: cs => (groupName? cs).map fun (name, rest) => (.group f (some name), rest)
  | '?' :: cs => extension? f cs
  | cs => some (.group f none, cs)

/-! ## Reading -/

/-- Without the question mark that asks for as few repetitions as possible. -/
def afterLazy : List Char → List Char
  | '?' :: cs => cs
  | cs => cs

/-- One character that stands for itself or begins something: what it adds to the group, and the rest. -/
def item? (g : Group) (c : Char) (cs : List Char) : Option (Group × List Char) :=
  let f := g.flags
  if c = '*' || c = '+' || c = '?' then g.repeat?.map fun g => (g, afterLazy cs)
  else if c = '\x7b' then none
  else if c = '[' then
    (openClass? f cs).bind fun (k, rest) =>
      (readClass? f [] k (rest.length + 1) rest).map fun (depth, rest) => (g.add depth, rest)
  else if c = '\\' then
    (escape? f cs).bind fun (atom, rest) => if atom.allowed f then some (g.add 0, rest) else none
  else if c = '.' then (if f.unicode then some (g.add 0, cs) else none)
  else if c = '^' || c = '$' then some (g.add 0, cs)
  else if Atom.literalAllowed f c false then some (g.add 0, cs)
  else none

/-- Read a pattern on, inside the groups that are open around this place and with the names given so far. -/
def reads (names : List (List Char)) (around : List Group) (g : Group) : Nat → List Char → Bool
  | 0, _ => false
  | fuel + 1, cs =>
    match skipSpace g.flags cs with
    | [] => around.isEmpty && g.depth ≤ nestingLimit
    | '(' :: cs =>
      match opening? g.flags cs with
      | none => false
      | some (.flags flags, rest) => reads names around (g.switch flags) fuel rest
      | some (.group flags none, rest) => reads names (g :: around) (.start flags) fuel rest
      | some (.group flags (some name), rest) =>
        !names.contains name && reads (name :: names) (g :: around) (.start flags) fuel rest
    | ')' :: cs =>
      match around with
      | [] => false
      | outer :: around => reads names around (outer.add (1 + g.depth)) fuel cs
    | '|' :: cs => reads names around g.next fuel cs
    | c :: cs =>
      match item? g c cs with
      | none => false
      | some (g, rest) => reads names around g fuel rest

/-- Whether a text is a pattern. -/
def isWellFormed (cs : List Char) : Bool := reads [] [] (.start .initial) (cs.length + 1) cs

/-! ## Numbers -/

/-- A decimal digit. -/
def isDigit (c : Char) : Bool := '0' ≤ c && c ≤ '9'

/-- Without a sign. -/
def afterSign : List Char → List Char
  | '+' :: cs => cs
  | '-' :: cs => cs
  | cs => cs

/-- An exponent, or nothing. -/
def isExponent : List Char → Bool
  | [] => true
  | c :: cs => (c = 'e' || c = 'E') && !(afterSign cs).isEmpty && (afterSign cs).all isDigit

/-- Whether a text is a decimal number: digits with a point among them or not, or the word for what
is infinite or no number. -/
def isNumber (text : List Char) : Bool :=
  let cs := afterSign text
  let word := String.ofList (cs.map Char.toLower)
  let rest := cs.dropWhile isDigit
  let (fraction, rest) := match rest with
    | '.' :: rest => (rest.takeWhile isDigit, rest.dropWhile isDigit)
    | rest => ([], rest)
  ["inf", "infinity", "nan"].contains word ||
    ((cs.takeWhile isDigit ++ fraction) ≠ [] && isExponent rest)

end Roster.Pattern
