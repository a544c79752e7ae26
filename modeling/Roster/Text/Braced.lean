/-!
# Values on one line

* `braced` — the name of a value and its labelled parts: `Name { part: text, part: text }`.
-/

set_option autoImplicit false

namespace Roster.Text

/-- A name and labelled parts, the parts in braces and separated by commas. -/
def braced (name : String) (parts : List (String × String)) : String :=
  let texts := parts.map fun p => p.1 ++ ": " ++ p.2
  name ++ " \x7b " ++ ", ".intercalate texts ++ " \x7d"

end Roster.Text
