import Std.Data.TreeMap
import Roster.Text.Alphanumeric
import Roster.Text.Blank

/-!
# Files of environment variables

A file gives one variable a line, `NAME=value`, with an optional `export` in front.  Blank lines and lines
that begin with `#` are passed over.  A value may have parts in single quotes, taken as they are, and in
double quotes, where a backslash escapes; `$NAME` and `${NAME}` stand for another variable; a blank ends an
unquoted value, and only a comment may follow.  A quoted part may go over several lines.

* `Variables.ofEntries` — the variables of an environment given by its entries.
* `logicalLines` — the lines, those inside quotes joined and comments cut off.
* `parseLine` — the variable of a line.
* `envFile?` — the variables a file adds to an environment.  What the environment has wins, the first of two
  assignments wins, and reading ends at the first malformed line.  An assignment that no environment can hold
  fails the whole file.
-/

set_option autoImplicit false

namespace Roster

/-- Where the values of variables come from. -/
abbrev Variables := String → Option String

/-- What an entry of an environment, the text `key=value`, has under a name: what follows the name and an equals
sign.  So a name that goes on into the value finds the rest of it. -/
def entryValue? (name : String) (entry : String × String) : Option String :=
  ((name.toList ++ ['=']).isPrefixOf? (entry.1.toList ++ '=' :: entry.2.toList)).map String.ofList

/-- The variables of an environment; the first entry that has a name decides, and the empty name is none. -/
def Variables.ofEntries (entries : List (String × String)) : Variables :=
  fun name => if name = "" then none else entries.findSome? (entryValue? name)

namespace EnvFile

open Roster.Text (isBlank trimStart trimEnd)

/-! ## Lines -/

/-- How far a line has been read. -/
inductive LineState where
  | complete
  | escape
  | singleQuoted
  | singleQuotedEscape
  | doubleQuoted
  | doubleQuotedEscape
  | blank
deriving DecidableEq, Repr

/-- The state after a character; `none` when a comment begins there. -/
def LineState.next (s : LineState) (c : Char) : Option LineState :=
  match s with
  | .escape => some .complete
  | .singleQuotedEscape => some .singleQuoted
  | .doubleQuotedEscape => some .doubleQuoted
  | .singleQuoted =>
    some (if c = '\\' then .singleQuotedEscape else if c = '\'' then .complete else .singleQuoted)
  | .doubleQuoted =>
    some (if c = '\\' then .doubleQuotedEscape else if c = '"' then .complete else .doubleQuoted)
  | .blank =>
    if c = '#' then none
    else some (if c = '\\' then .escape else if c = '"' then .doubleQuoted
      else if c = '\'' then .singleQuoted else .complete)
  | .complete =>
    some (if isBlank c && c ≠ '\n' && c ≠ '\r' then .blank
      else if c = '\\' then .escape else if c = '"' then .doubleQuoted
      else if c = '\'' then .singleQuoted else .complete)

/-- The state after a line, or what stands in front of a comment. -/
def scan : LineState → List Char → LineState ⊕ List Char
  | s, [] => .inl s
  | s, c :: cs =>
    match s.next c with
    | none => .inr []
    | some s =>
      match scan s cs with
      | .inl s => .inl s
      | .inr kept => .inr (c :: kept)

/-- The lines of a text, each with its line end. -/
def physicalLines (cs : List Char) : List (List Char) :=
  cs.foldr
    (fun c lines =>
      if c = '\n' then [c] :: lines
      else
        match lines with
        | [] => [[c]]
        | line :: rest => (c :: line) :: rest)
    []

/-- Without the line end. -/
def chomp (cs : List Char) : List Char :=
  match cs.reverse with
  | '\n' :: '\r' :: rest => rest.reverse
  | '\n' :: rest => rest.reverse
  | _ => cs

/-- The lines that follow what was read of the current one.  A last line that is not complete is `none`. -/
def joinLines (read : List Char) (s : LineState) : List (List Char) → List (Option (List Char))
  | [] => if s = .complete then [] else [none]
  | line :: rest =>
    let all := read ++ line
    if (trimStart all).head? = some '#' then some [] :: joinLines [] .complete rest
    else
      match scan s line with
      | .inr kept => some (read ++ kept) :: joinLines [] .complete rest
      | .inl .complete => some (chomp all) :: joinLines [] .complete rest
      | .inl s => joinLines all s rest

/-- The lines of a file. -/
def logicalLines (cs : List Char) : List (Option (List Char)) :=
  joinLines [] .complete (physicalLines cs)

/-! ## Values -/

/-- What is being read of a value. -/
inductive Mode where
  /-- Neither quoted nor in a reference. -/
  | plain
  /-- The name of a reference without brackets. -/
  | name (read : List Char)
  /-- The name of a reference in brackets. -/
  | bracketed (read : List Char)
deriving DecidableEq, Repr

/-- How far a value has been read. -/
structure ValueState where
  singleQuoted : Bool
  doubleQuoted : Bool
  escaped : Bool
  ended : Bool
  mode : Mode
deriving DecidableEq, Repr

/-- At the start of a value. -/
def ValueState.start : ValueState := ⟨false, false, false, false, .plain⟩

/-- The value of a name, nothing when it has none. -/
def substitute (vars : Variables) (name : List Char) : List Char :=
  ((vars (String.ofList name)).getD "").toList

/-- The value in the characters left; `none` when it is malformed. -/
def value (vars : Variables) (s : ValueState) : List Char → Option (List Char)
  | [] =>
    if s.singleQuoted || s.doubleQuoted then none
    else
      match s.mode with
      | .bracketed _ => none
      | .name read => some (substitute vars read)
      | .plain => some []
  | c :: cs =>
    if s.ended then
      if c = ' ' || c = '\t' then value vars s cs
      else if c = '#' then some []
      else none
    else if s.escaped then
      let s := { s with escaped := false }
      if c = '\\' || c = '\'' || c = '"' || c = '$' || c = ' ' then (value vars s cs).map (c :: ·)
      else if c = 'n' then (value vars s cs).map ('\n' :: ·)
      else none
    else if s.singleQuoted then
      if c = '\'' then value vars { s with singleQuoted := false } cs
      else (value vars s cs).map (c :: ·)
    else
      match s.mode with
      | .name read =>
        if Text.isAlphanumeric c then value vars { s with mode := .name (read ++ [c]) } cs
        else if c = '\x7b' && read.isEmpty then value vars { s with mode := .bracketed [] } cs
        else if c = '$' then
          (value vars { s with mode := .name [] } cs).map (substitute vars read ++ ·)
        else (value vars { s with mode := .plain } cs).map (substitute vars read ++ c :: ·)
      | .bracketed read =>
        if Text.isAlphanumeric c || c ≠ '\x7d' then
          value vars { s with mode := .bracketed (read ++ [c]) } cs
        else (value vars { s with mode := .plain } cs).map (substitute vars read ++ ·)
      | .plain =>
        if c = '$' then value vars { s with mode := .name [] } cs
        else if s.doubleQuoted then
          if c = '"' then value vars { s with doubleQuoted := false } cs
          else if c = '\\' then value vars { s with escaped := true } cs
          else (value vars s cs).map (c :: ·)
        else if c = '\'' then value vars { s with singleQuoted := true } cs
        else if c = '"' then value vars { s with doubleQuoted := true } cs
        else if c = '\\' then value vars { s with escaped := true } cs
        else if c = ' ' || c = '\t' then value vars { s with ended := true } cs
        else (value vars s cs).map (c :: ·)

/-! ## Variables -/

/-- A letter or an underscore. -/
def startsName (c : Char) : Bool := c.isAlpha || c = '_'

/-- A letter, a digit, an underscore or a point. -/
def continuesName (c : Char) : Bool := c.isAlphanum || c = '_' || c = '.'

/-- A name, and what follows it and the blanks behind it. -/
def name? (cs : List Char) : Option (List Char × List Char) :=
  match cs with
  | c :: _ =>
    if startsName c then
      some (cs.takeWhile continuesName, trimStart (cs.dropWhile continuesName))
    else none
  | [] => none

/-- What follows an equals sign. -/
def afterEquals? : List Char → Option (List Char)
  | '=' :: cs => some cs
  | _ => none

/-- A name and the text of its value; `export` in front of another name is no name itself. -/
def assignment? (cs : List Char) : Option (List Char × List Char) := do
  let (name, rest) ← name? cs
  match afterEquals? rest with
  | some text => some (name, text)
  | none =>
    if name = ['e', 'x', 'p', 'o', 'r', 't'] then
      let (name, rest) ← name? rest
      let text ← afterEquals? rest
      some (name, text)
    else none

/-- The variable of a line: none of a blank line or a comment.  The outer `none` is a malformed line. -/
def parseLine (vars : Variables) (line : List Char) : Option (Option (String × String)) :=
  let cs := trimStart (trimEnd line)
  if cs.isEmpty || cs.head? = some '#' then some none
  else do
    let (name, text) ← assignment? cs
    let text := trimStart text
    if text.isEmpty || text.head? = some '#' then some (some (String.ofList name, ""))
    else
      let v ← value vars .start text
      some (some (String.ofList name, String.ofList v))

/-- What the variables read from a file have under a name.  Only the part of the name in front of an equals sign
can be the key of an entry. -/
def assigned? (read : Std.TreeMap String String) (name : String) : Option String :=
  let key := String.ofList (name.toList.takeWhile (· ≠ '='))
  read[key]?.bind fun v => if key = name then some v else entryValue? name (key, v)

/-- The variables of an environment and those read from a file so far. -/
def lookup (vars : Variables) (read : Std.TreeMap String String) : Variables :=
  fun name => (vars name).or (assigned? read name)

/-- The variables of lines, up to the first malformed one.  `none` is an assignment that no environment can
hold: its value has the character that ends an entry. -/
def readLines (vars : Variables) (read : Std.TreeMap String String) :
    List (Option (List Char)) → Option (Std.TreeMap String String)
  | [] => some read
  | none :: _ => some read
  | some line :: rest =>
    match parseLine (lookup vars read) line with
    | none => some read
    | some none => readLines vars read rest
    | some (some (name, v)) =>
      if (lookup vars read name).isSome then readLines vars read rest
      else if v.toList.contains '\x00' then none
      else readLines vars (read.insert name v) rest

/-- The names that a file may assign or refer to: its runs of name characters and of letters and numbers. -/
def mentioned (text : String) : List String :=
  let cs := text.toList
  ((cs.splitOnP (!continuesName ·) ++ cs.splitOnP (!Text.isAlphanumeric ·)).filter
    (!·.isEmpty)).map String.ofList

end EnvFile

/-- The environment with the variables that a file adds to it.  A byte order mark in front is no part of the
file. -/
def envFile? (vars : Variables) (text : String) : Option Variables :=
  let cs := match text.toList with
    | '\uFEFF' :: cs => cs
    | cs => cs
  (EnvFile.readLines vars ∅ (EnvFile.logicalLines cs)).map (EnvFile.lookup vars)

end Roster
