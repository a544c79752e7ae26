import Roster.Text.Visible

/-!
# Quoted text

* `quoted` — a text between double quotes, on one line and in visible characters: a quote, a backslash,
  a tab, the line ends and NUL have a letter of their own after a backslash, any other character
  without a glyph is written by its code point, `\u{..}` in hexadecimal.
-/

set_option autoImplicit false

namespace Roster.Text

/-- A character inside the quotes. -/
def quotedChar (c : Char) : List Char :=
  if c = '"' then ['\\', '"']
  else if c = '\\' then ['\\', '\\']
  else if c = '\n' then ['\\', 'n']
  else if c = '\r' then ['\\', 'r']
  else if c = '\t' then ['\\', 't']
  else if c.toNat = 0 then ['\\', '0']
  else if isVisible c then [c]
  else '\\' :: 'u' :: '\x7b' :: Nat.toDigits 16 c.toNat ++ ['\x7d']

/-- The text between double quotes. -/
def quoted (s : String) : String :=
  String.ofList ('"' :: s.toList.flatMap quotedChar ++ ['"'])

/-- Texts in square brackets, quoted and separated by commas. -/
def quotedList (ss : List String) : String :=
  "[" ++ ", ".intercalate (ss.map quoted) ++ "]"

end Roster.Text
