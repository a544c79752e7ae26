/-!
# Places in a text

A place is counted in bytes of UTF-8 from the beginning of a text.

* `dropBytes?`, `takeBytes?` — the text from a place on, and up to a place.
* `cut?` — the text between two places.  A place inside a character is none at which a text can be cut.
* `cut?_self` — all of a text is cut out of it between its beginning and its end.
-/

set_option autoImplicit false

namespace Roster.Text

/-- The bytes of a text. -/
def byteCount : List Char → Nat
  | [] => 0
  | c :: cs => c.utf8Size + byteCount cs

/-- The text from a place on. -/
def dropBytes? : Nat → List Char → Option (List Char)
  | 0, cs => some cs
  | _ + 1, [] => none
  | n + 1, c :: cs => if c.utf8Size ≤ n + 1 then dropBytes? (n + 1 - c.utf8Size) cs else none

/-- The text up to a place. -/
def takeBytes? : Nat → List Char → Option (List Char)
  | 0, _ => some []
  | _ + 1, [] => none
  | n + 1, c :: cs =>
    if c.utf8Size ≤ n + 1 then (takeBytes? (n + 1 - c.utf8Size) cs).map (c :: ·) else none

/-- The text from one place up to another. -/
def cut? (start stop : Nat) (cs : List Char) : Option (List Char) :=
  (dropBytes? start cs).bind (takeBytes? (stop - start))

theorem takeBytes?_byteCount (cs : List Char) : takeBytes? (byteCount cs) cs = some cs := by
  induction cs with
  | nil => rfl
  | cons c cs ih =>
    have hc := c.utf8Size_pos
    obtain ⟨n, hn⟩ : ∃ n, byteCount (c :: cs) = n + 1 :=
      ⟨c.utf8Size + byteCount cs - 1, by simp only [byteCount]; omega⟩
    have hsub : n + 1 - c.utf8Size = byteCount cs := by
      rw [← hn, byteCount, Nat.add_sub_cancel_left]
    have hle : c.utf8Size ≤ n + 1 := by rw [← hn, byteCount]; exact Nat.le_add_right _ _
    rw [hn, takeBytes?, if_pos hle, hsub, ih]
    rfl

theorem cut?_self (cs : List Char) : cut? 0 (byteCount cs) cs = some cs := by
  unfold cut?
  rw [dropBytes?, Option.bind_some, Nat.sub_zero, takeBytes?_byteCount]

end Roster.Text
