import Roster.Json.Parser
import Roster.Json.Printer

/-!
# String literals written and read

* `Json.parseUnits_escaped` — a character inside the quotes is read as its own code point, whichever way it
  was escaped.
* `Json.joinUnits_toNat` — no character is half of a surrogate pair, so its code points make up the text again.
* `Json.parseText_renderText` — a string literal is read back to the text it was written for.
-/

set_option autoImplicit false

namespace Roster.Json

/-! ## One character -/

/-- Code points with one more in front. -/
abbrev pushUnit (u : Nat) (p : List Nat × List Char) : List Nat × List Char := (u :: p.1, p.2)

theorem parseUnits_plain {c : Char} (hq : c ≠ '"') (hb : c ≠ '\\') (h : 32 ≤ c.toNat)
    (cs : List Char) : parseUnits (c :: cs) = (parseUnits cs).map (pushUnit c.toNat) := by
  rw [parseUnits.eq_5 c cs hq (fun _ _ _ _ _ hc => absurd hc hb) (fun _ _ hc => absurd hc hb),
    if_neg (not_or.2 ⟨by omega, hb⟩)]
  cases parseUnits cs <;> rfl

theorem parseUnits_escape {c : Char} {u : Nat} (hu : c ≠ 'u') (h : escapedUnit? c = some u)
    (cs : List Char) : parseUnits ('\\' :: c :: cs) = (parseUnits cs).map (pushUnit u) := by
  rw [parseUnits.eq_4 c cs (fun _ _ _ _ _ hc => absurd hc hu), h]
  cases parseUnits cs <;> rfl

theorem hexValue?_digitChar : ∀ d < 16, hexValue? (Nat.digitChar d) = some d := by decide

/-- The code unit of four hexadecimal digits is the number they were written for. -/
theorem unit?_hexDigits {n : Nat} (h : n < 65536) :
    unit? (n / 4096 % 16).digitChar (n / 256 % 16).digitChar (n / 16 % 16).digitChar
      (n % 16).digitChar = some n := by
  simp only [unit?, hexValue?_digitChar _ (Nat.mod_lt _ (by decide : 0 < 16)), bind, Option.bind,
    Option.some.injEq]
  omega

theorem parseUnits_hex {n : Nat} (h : n < 65536) (cs : List Char) :
    parseUnits ('\\' :: 'u' :: hexDigits n ++ cs) = (parseUnits cs).map (pushUnit n) := by
  show parseUnits ('\\' :: 'u' :: (n / 4096 % 16).digitChar :: (n / 256 % 16).digitChar ::
    (n / 16 % 16).digitChar :: (n % 16).digitChar :: cs) = _
  rw [parseUnits, unit?_hexDigits h]
  cases parseUnits cs <;> rfl

theorem parseUnits_escaped (c : Char) (rest : List Char) :
    parseUnits (escaped c ++ rest) = (parseUnits rest).map (pushUnit c.toNat) := by
  unfold escaped
  split
  · subst_vars
    exact parseUnits_escape (by decide) rfl rest
  split
  · subst_vars
    exact parseUnits_escape (by decide) rfl rest
  split
  · subst_vars
    exact parseUnits_escape (by decide) rfl rest
  split
  · subst_vars
    exact parseUnits_escape (by decide) rfl rest
  split
  · subst_vars
    exact parseUnits_escape (by decide) rfl rest
  split
  · rename_i h
    rw [h]
    exact parseUnits_escape (by decide) rfl rest
  split
  · rename_i h
    rw [h]
    exact parseUnits_escape (by decide) rfl rest
  split
  · exact parseUnits_hex (by omega) rest
  · rename_i hq hb _ _ _ _ _ h
    exact parseUnits_plain hq hb (by omega) rest

/-! ## A text -/

theorem parseUnits_flatMap_escaped (cs rest : List Char) :
    parseUnits (cs.flatMap escaped ++ '"' :: rest) = some (cs.map Char.toNat, rest) := by
  induction cs with
  | nil => rfl
  | cons c cs ih =>
    rw [List.flatMap_cons, List.append_assoc, parseUnits_escaped, ih]
    rfl

/-- A character is no half of a surrogate pair. -/
theorem not_surrogate (c : Char) :
    isHighSurrogate c.toNat = false ∧ isLowSurrogate c.toNat = false := by
  have h : c.toNat < 0xD800 ∨ 0xDFFF < c.toNat := by
    rcases c.valid with h | ⟨h, _⟩
    · exact .inl h
    · exact .inr h
  constructor
  · simp only [isHighSurrogate, Bool.and_eq_false_iff, decide_eq_false_iff_not]
    omega
  · simp only [isLowSurrogate, Bool.and_eq_false_iff, decide_eq_false_iff_not]
    omega

theorem joinUnits_toNat (cs : List Char) : joinUnits (cs.map Char.toNat) = some cs := by
  induction cs with
  | nil => rfl
  | cons c cs ih =>
    obtain ⟨hh, hl⟩ := not_surrogate c
    cases cs with
    | nil => simp [joinUnits, hh, hl]
    | cons d cs =>
      simp only [List.map_cons] at ih ⊢
      simp [joinUnits, hh, hl, ih]

theorem parseText_renderText (s : String) (rest : List Char) :
    parseText (s.toList.flatMap escaped ++ '"' :: rest) = some (some s, rest) := by
  unfold parseText
  rw [parseUnits_flatMap_escaped]
  simp only [Option.map_some, joinUnits_toNat, String.ofList_toList]

end Roster.Json
