import Roster.Json.Basic

/-!
# Printing JSON

* `Json.render` — a value without any blank.  In a text the quote, the backslash and the control
  characters are escaped, all else stands as it is.
* `Json.print` — the same as a string.
-/

set_option autoImplicit false

namespace Roster.Json

/-- The four hexadecimal digits of a code unit. -/
def hexDigits (n : Nat) : List Char :=
  [n / 4096 % 16, n / 256 % 16, n / 16 % 16, n % 16].map Nat.digitChar

/-- A character inside the quotes. -/
def escaped (c : Char) : List Char :=
  if c = '"' then ['\\', '"']
  else if c = '\\' then ['\\', '\\']
  else if c = '\n' then ['\\', 'n']
  else if c = '\r' then ['\\', 'r']
  else if c = '\t' then ['\\', 't']
  else if c.toNat = 8 then ['\\', 'b']
  else if c.toNat = 12 then ['\\', 'f']
  else if c.toNat < 32 then '\\' :: 'u' :: hexDigits c.toNat
  else [c]

/-- A string literal; the one without a text is half of a surrogate pair. -/
def renderText : Option String → List Char
  | some s => '"' :: s.toList.flatMap escaped ++ ['"']
  | none => '"' :: '\\' :: 'u' :: hexDigits 0xD800 ++ ['"']

/-- The digits of a whole number. -/
def renderInt (n : Int) : List Char :=
  if n < 0 then '-' :: Nat.toDigits 10 n.natAbs else Nat.toDigits 10 n.natAbs

mutual

/-- A value. -/
def render : Json → List Char
  | .null => ['n', 'u', 'l', 'l']
  | .bool true => ['t', 'r', 'u', 'e']
  | .bool false => ['f', 'a', 'l', 's', 'e']
  | .integer n => renderInt n
  | .decimal spelling => spelling.toList
  | .string t => renderText t
  | .array [] => ['[', ']']
  | .array (v :: rest) => '[' :: render v ++ renderItems rest
  | .object [] => ['\x7b', '\x7d']
  | .object ((k, v) :: rest) => '\x7b' :: renderText k ++ ':' :: render v ++ renderFields rest

/-- The items of an array after the first, with the closing bracket. -/
def renderItems : List Json → List Char
  | [] => [']']
  | v :: rest => ',' :: render v ++ renderItems rest

/-- The fields of an object after the first, with the closing bracket. -/
def renderFields : List (Option String × Json) → List Char
  | [] => ['\x7d']
  | (k, v) :: rest => ',' :: renderText k ++ ':' :: render v ++ renderFields rest

end

/-- A value as a string. -/
def print (v : Json) : String := String.ofList v.render

end Roster.Json
