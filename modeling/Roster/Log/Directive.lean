import Roster.Log.Basic
import Roster.Log.Pattern
import Roster.Text.Bytes
import Roster.Word

/-!
# Directives of a filter

A directive, `source[span{field=pattern}]=level`, is about the lines of the sources that begin with its source
and that are told inside the span and carry the field; it lets them through up to its level.  A source, a
bracket and the word of a level may each stand alone.

* `Verbosity` — how much is told, by word or by number.
* `LogDirective.read` — the directive a text stands for, or the fault in it.  White space around the text counts
  for nothing, but the parts are cut out of the text as it is, at the places where they are without that white
  space: white space in front moves every part by as many bytes.
* `FilterFault` — what can be wrong: a part is malformed, or it ends inside a character.
* `LogDirective.isAbout`, `rank` — the sources a directive is about, and how specific it is.
-/

set_option autoImplicit false

namespace Roster

/-- How much is told. -/
inductive Verbosity where
  | off
  | error
  | warn
  | info
  | debug
  | trace
deriving DecidableEq, Repr

namespace Verbosity

/-- The words, in the order of their numbers. -/
def words : List (String × Verbosity) :=
  [("off", .off), ("error", .error), ("warn", .warn), ("info", .info), ("debug", .debug),
    ("trace", .trace)]

/-- The verbosity that a number or a word stands for; capital letters do not matter. -/
def read? (text : List Char) : Option Verbosity :=
  match readWord text with
  | .ok n => words[n]?.map Prod.snd
  | .error _ => words.lookup (String.ofList (text.map Char.toLower))

/-- Whether lines of a level are told. -/
def includes : Verbosity → LogLevel → Bool
  | .off, _ => false
  | .error, level => level = .error
  | .warn, level => level ≠ .info
  | _, _ => true

end Verbosity

/-- What is wrong with a filter. -/
inductive FilterFault where
  | malformed
  /-- A part begins or ends inside a character. -/
  | brokenCharacter
deriving DecidableEq, Repr

/-- What a directive asks of a line, besides its source. -/
inductive LogScope where
  | anywhere
  /-- To carry its text, as every line does. -/
  | message
  /-- To be told inside a span, or to carry something else: no line is that. -/
  | elsewhere
deriving DecidableEq, Repr

/-- A rule of a filter; the empty source is every source. -/
structure LogDirective where
  source : String
  scope : LogScope
  verbosity : Verbosity
deriving DecidableEq, Repr

namespace LogDirective

open Roster.Text (isAlphanumeric isBlank trimStart trimEnd)

/-! ## Reading -/

/-- What is being read of a directive, with the place where it begins. -/
inductive Reading where
  | nothing
  /-- A source, or a level that stands alone. -/
  | source
  | span (start : Nat)
  | field (start : Nat)
  /-- Behind the brace that closes a field. -/
  | fieldEnd
  /-- Behind the bracket. -/
  | spanEnd
  | level (start : Nat)
deriving DecidableEq, Repr

/-- A directive read in part. -/
structure Draft where
  reading : Reading
  source : List Char
  scope : LogScope
deriving DecidableEq, Repr

/-- Before a directive. -/
def Draft.start : Draft := ⟨.nothing, [], .anywhere⟩

/-- A source begins with a letter, a number or one of three signs. -/
def beginsSource (c : Char) : Bool := isAlphanumeric c || c = '-' || c = ':' || c = '_'

/-- The text between two places. -/
def part (text : List Char) (start stop : Nat) : Except FilterFault (List Char) :=
  match Text.cut? start stop text with
  | some cs => .ok cs
  | none => .error .brokenCharacter

/-- What is asked when a field is named in a span.  What follows an equals sign is a number or a pattern, up to
the next equals sign. -/
def fieldScope (inSpan : LogScope) (field : List Char) : Except FilterFault LogScope :=
  match field.splitOn '=' with
  | [] => .error .malformed
  | [name] =>
    if name.isEmpty then .error .malformed
    else .ok (if inSpan = .anywhere && name = "message".toList then .message else .elsewhere)
  | _ :: value :: _ =>
    if Pattern.isNumber value || Pattern.isWellFormed value then .ok .elsewhere else .error .malformed

/-- Read one character on, at its place. -/
def step (text : List Char) (d : Draft) (place : Nat) (c : Char) : Except FilterFault Draft :=
  match d.reading with
  | .nothing =>
    if c = '[' then .ok { d with reading := .span (place + 1) }
    else if beginsSource c then .ok { d with reading := .source }
    else .error .malformed
  | .source =>
    if c = '=' then
      (part text 0 place).map fun source => { d with source, reading := .level (place + 1) }
    else if c = '[' then
      (part text 0 place).map fun source => { d with source, reading := .span (place + 1) }
    else .ok d
  | .span start =>
    if c = ']' then
      (part text start place).map fun _ => { d with scope := .elsewhere, reading := .spanEnd }
    else if c = '\x7b' then
      (part text start place).map fun span =>
        { d with scope := if span.isEmpty then .anywhere else .elsewhere, reading := .field (place + 1) }
    else .ok d
  | .field start =>
    if c = '\x7d' then do
      let field ← part text start place
      return { d with scope := ← fieldScope d.scope field, reading := .fieldEnd }
    else .ok d
  | .fieldEnd => if c = ']' then .ok { d with reading := .spanEnd } else .error .malformed
  | .spanEnd => if c = '=' then .ok { d with reading := .level (place + 1) } else .error .malformed
  | .level _ => .ok d

/-- Read characters on, from a place. -/
def steps (text : List Char) (d : Draft) (place : Nat) : List Char → Except FilterFault Draft
  | [] => .ok d
  | c :: cs => do steps text (← step text d place c) (place + c.utf8Size) cs

/-- The directive of a level that stands alone, which is about every source, or of a source that does, of which
everything is told. -/
def ofSource (text : List Char) : LogDirective :=
  match Verbosity.read? text with
  | some v => ⟨"", .anywhere, v⟩
  | none => ⟨String.ofList text, .anywhere, .trace⟩

/-- The verbosity of a level; everything is told when none is given. -/
def levelOf : List Char → Except FilterFault Verbosity
  | [] => .ok .trace
  | word =>
    match Verbosity.read? word with
    | some v => .ok v
    | none => .error .malformed

/-- The directive at the end of its text. -/
def finish (text : List Char) (d : Draft) : Except FilterFault LogDirective :=
  let withVerbosity (v : Verbosity) : LogDirective := ⟨String.ofList d.source, d.scope, v⟩
  match d.reading with
  | .source => .ok (ofSource text)
  | .spanEnd => .ok (withVerbosity .trace)
  | .level start => do
    let word ← part text start (Text.byteCount text)
    return withVerbosity (← levelOf word)
  | _ => .error .malformed

/-- The directive a text stands for. -/
def read (text : List Char) : Except FilterFault LogDirective := do
  finish text (← steps text .start 0 (trimEnd (trimStart text)))

/-! ## Which lines -/

/-- Whether a directive is about the lines of a source. -/
def isAbout (d : LogDirective) (source : LogSource) : Bool :=
  d.scope ≠ .elsewhere && d.source.toList.isPrefixOf source.path.toList

/-- How specific a directive is: by the length of its source, then by whether it asks for a field. -/
def rank (d : LogDirective) : Nat :=
  2 * d.source.length + if d.scope = .anywhere then 0 else 1

end LogDirective

end Roster
