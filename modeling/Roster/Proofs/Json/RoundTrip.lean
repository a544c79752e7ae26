import Roster.Proofs.Json.Digits
import Roster.Proofs.Json.Text

/-!
# JSON written and read

* `Json.Plain` — a value that records are written as: no number but a whole one, and no literal that denotes no
  text.
* `Json.parseValue_render` — a plain value is read back from its text, for more fuel than the text has
  characters and whatever closes the value behind it.
* `Json.parse?_print` — **reading undoes printing** on plain values.
-/

set_option autoImplicit false

namespace Roster.Json

mutual

/-- A value that can be read back. -/
def Plain : Json → Prop
  | .null => True
  | .bool _ => True
  | .integer _ => True
  | .decimal _ => False
  | .string t => t.isSome = true
  | .array items => PlainItems items
  | .object fields => PlainFields fields

/-- Items that can be read back. -/
def PlainItems : List Json → Prop
  | [] => True
  | v :: rest => Plain v ∧ PlainItems rest

/-- Fields that can be read back. -/
def PlainFields : List (Option String × Json) → Prop
  | [] => True
  | (k, v) :: rest => k.isSome = true ∧ Plain v ∧ PlainFields rest

end

/-! ## One step of the reader -/

theorem skipBlanks_cons {c : Char} (h : isBlank c = false) (cs : List Char) :
    skipBlanks (c :: cs) = c :: cs := by
  simp [skipBlanks, h]

theorem parseValue_text (fuel : Nat) {cs rest : List Char} {t : Option String}
    (h : parseText cs = some (t, rest)) :
    parseValue (fuel + 1) ('"' :: cs) = some (.string t, rest) := by
  rw [parseValue, skipBlanks_cons (by decide)]
  simp only [h, Option.map_some]

theorem parseValue_array {fuel : Nat} {c : Char} {cs mid rest : List Char} {v : Json}
    {vs : List Json} (hb : isBlank c = false) (hc : c ≠ ']')
    (hv : parseValue fuel (c :: cs) = some (v, mid)) (hvs : parseItems fuel mid = some (vs, rest)) :
    parseValue (fuel + 1) ('[' :: c :: cs) = some (.array (v :: vs), rest) := by
  rw [parseValue, skipBlanks_cons (by decide)]
  simp only [skipBlanks_cons hb]
  split
  · rename_i h
    cases h
    exact absurd rfl hc
  · simp only [hv, hvs, bind, Option.bind]

theorem parseValue_object {fuel : Nat} {cs mid rest : List Char} {f : Option String × Json}
    {fs : List (Option String × Json)} (hf : parseField fuel ('"' :: cs) = some (f, mid))
    (hfs : parseFields fuel mid = some (fs, rest)) :
    parseValue (fuel + 1) ('\x7b' :: '"' :: cs) = some (.object (f :: fs), rest) := by
  rw [parseValue, skipBlanks_cons (by decide)]
  simp only [skipBlanks_cons (show isBlank '"' = false by decide)]
  split
  · rename_i h
    exact absurd (List.cons.inj h).1 (by decide)
  · simp only [hf, hfs, bind, Option.bind]

/-- The first character of a number. -/
def beginsNumber (c : Char) : Bool := c = '-' || isDigit c

theorem ne_of_beginsNumber {c d : Char} (h : beginsNumber c = true) (hd : beginsNumber d = false) :
    c ≠ d := by
  rintro rfl
  rw [h] at hd
  cases hd

theorem not_isBlank_of_beginsNumber {c : Char} (h : beginsNumber c = true) : isBlank c = false := by
  have := ne_of_beginsNumber (d := ' ') h (by decide)
  have := ne_of_beginsNumber (d := '\n') h (by decide)
  have := ne_of_beginsNumber (d := '\t') h (by decide)
  have := ne_of_beginsNumber (d := '\r') h (by decide)
  simp_all [isBlank]

theorem parseValue_number (fuel : Nat) {c : Char} (h : beginsNumber c = true) (cs : List Char) :
    parseValue (fuel + 1) (c :: cs) = parseNumber (c :: cs) := by
  rw [parseValue, skipBlanks_cons (not_isBlank_of_beginsNumber h)]
  split
  all_goals first
    | rfl
    | rename_i he
      exact absurd (List.cons.inj he).1 (ne_of_beginsNumber h (by decide))

theorem parseItems_cons {fuel : Nat} {cs mid rest : List Char} {v : Json} {vs : List Json}
    (hv : parseValue fuel cs = some (v, mid)) (hvs : parseItems fuel mid = some (vs, rest)) :
    parseItems (fuel + 1) (',' :: cs) = some (v :: vs, rest) := by
  rw [parseItems, skipBlanks_cons (by decide)]
  simp only [hv, hvs, bind, Option.bind]

theorem parseField_cons {fuel : Nat} {cs mid rest : List Char} {k : Option String} {v : Json}
    (hk : parseText cs = some (k, ':' :: mid)) (hv : parseValue fuel mid = some (v, rest)) :
    parseField (fuel + 1) ('"' :: cs) = some ((k, v), rest) := by
  rw [parseField, skipBlanks_cons (by decide)]
  simp only [hk, bind, Option.bind, skipBlanks_cons (show isBlank ':' = false by decide), hv]

theorem parseFields_cons {fuel : Nat} {cs mid rest : List Char} {f : Option String × Json}
    {fs : List (Option String × Json)} (hf : parseField fuel cs = some (f, mid))
    (hfs : parseFields fuel mid = some (fs, rest)) :
    parseFields (fuel + 1) (',' :: cs) = some (f :: fs, rest) := by
  rw [parseFields, skipBlanks_cons (by decide)]
  simp only [hf, hfs, bind, Option.bind]

/-! ## The first character of a text -/

/-- The text of a whole number begins with a digit or a sign. -/
theorem renderInt_eq_cons (n : Int) : ∃ c cs, renderInt n = c :: cs ∧ beginsNumber c = true := by
  unfold renderInt
  split
  · exact ⟨_, _, rfl, by decide⟩
  · obtain ⟨d, ds, hds, hd⟩ := toDigits_eq_cons n.natAbs
    exact ⟨d, ds, hds, by simp [beginsNumber, hd]⟩

/-- The text of a value begins with no blank and closes nothing. -/
theorem render_eq_cons {v : Json} (h : v.Plain) :
    ∃ c cs, v.render = c :: cs ∧ isBlank c = false ∧ c ≠ ']' := by
  cases v with
  | null => exact ⟨_, _, rfl, by decide, by decide⟩
  | bool b => cases b <;> exact ⟨_, _, rfl, by decide, by decide⟩
  | integer n =>
    obtain ⟨c, cs, hcs, hc⟩ := renderInt_eq_cons n
    exact ⟨c, cs, hcs, not_isBlank_of_beginsNumber hc, ne_of_beginsNumber hc (by decide)⟩
  | decimal s => exact absurd h (by simp [Plain])
  | string t =>
    cases t with
    | none => exact absurd h (by simp [Plain])
    | some s => exact ⟨_, _, rfl, by decide, by decide⟩
  | array items => cases items <;> exact ⟨_, _, rfl, by decide, by decide⟩
  | object fields => cases fields <;> exact ⟨_, _, rfl, by decide, by decide⟩

theorem closes_renderItems (vs : List Json) (rest : List Char) : Closes (renderItems vs ++ rest) := by
  cases vs with
  | nil => exact closes_bracket _
  | cons v vs => exact closes_comma _

theorem closes_renderFields (fs : List (Option String × Json)) (rest : List Char) :
    Closes (renderFields fs ++ rest) := by
  cases fs with
  | nil => exact closes_brace _
  | cons f fs => exact closes_comma _

/-! ## Reading back -/

/-- The text of a field, as it stands in front of the other fields. -/
def renderField (k : String) (v : Json) : List Char :=
  '"' :: k.toList.flatMap escaped ++ '"' :: ':' :: v.render

mutual

theorem parseValue_render : ∀ {v : Json}, v.Plain → ∀ {fuel : Nat} (rest : List Char),
    v.render.length < fuel → Closes rest → parseValue fuel (v.render ++ rest) = some (v, rest)
  | _, _, 0, _, hf, _ => absurd hf (Nat.not_lt_zero _)
  | .null, _, fuel + 1, rest, _, _ => by
    rw [parseValue]
    rfl
  | .bool true, _, fuel + 1, rest, _, _ => by
    rw [parseValue]
    rfl
  | .bool false, _, fuel + 1, rest, _, _ => by
    rw [parseValue]
    rfl
  | .integer n, _, fuel + 1, rest, _, hr => by
    obtain ⟨c, cs, hcs, hc⟩ := renderInt_eq_cons n
    rw [render, hcs, List.cons_append, parseValue_number fuel hc, ← List.cons_append, ← hcs]
    exact parseNumber_renderInt n hr
  | .decimal _, h, _ + 1, _, _, _ => absurd h (by simp [Plain])
  | .string none, h, _ + 1, _, _, _ => absurd h (by simp [Plain])
  | .string (some s), _, fuel + 1, rest, _, _ => by
    have ht := parseText_renderText s rest
    simp only [render, renderText, List.cons_append, List.append_assoc, List.nil_append]
    exact parseValue_text fuel ht
  | .array [], _, fuel + 1, rest, _, _ => by
    rw [parseValue]
    rfl
  | .array (v :: vs), h, fuel + 1, rest, hf, hr => by
    obtain ⟨hv, hvs⟩ : v.Plain ∧ PlainItems vs := by simpa only [Plain, PlainItems] using h
    simp only [render, List.length_cons, List.length_append] at hf
    have h₁ := parseValue_render hv (renderItems vs ++ rest) (show v.render.length < fuel by omega)
      (closes_renderItems vs rest)
    have h₂ := parseItems_render hvs rest (show (renderItems vs).length < fuel by omega)
    obtain ⟨c, cs, hcs, hb, hc⟩ := render_eq_cons hv
    simp only [render, List.cons_append, List.append_assoc]
    rw [hcs, List.cons_append] at h₁ ⊢
    exact parseValue_array hb hc h₁ h₂
  | .object [], _, fuel + 1, rest, _, _ => by
    rw [parseValue]
    rfl
  | .object ((none, v) :: fs), h, _ + 1, _, _, _ => absurd h (by simp [Plain, PlainFields])
  | .object ((some k, v) :: fs), h, fuel + 1, rest, hf, hr => by
    obtain ⟨-, hv, hfs⟩ : (some k).isSome = true ∧ v.Plain ∧ PlainFields fs := by
      simpa only [Plain, PlainFields] using h
    simp only [render, renderText, List.length_cons, List.length_append, List.length_nil] at hf
    have hk : (renderField k v).length < fuel := by
      simp only [renderField, List.length_cons, List.length_append]
      omega
    have h₁ := parseField_render k hv (renderFields fs ++ rest) hk (closes_renderFields fs rest)
    have h₂ := parseFields_render hfs rest (show (renderFields fs).length < fuel by omega)
    simp only [renderField, List.cons_append, List.append_assoc] at h₁
    simp only [render, renderText, List.cons_append, List.append_assoc, List.nil_append]
    exact parseValue_object h₁ h₂

theorem parseItems_render : ∀ {vs : List Json}, PlainItems vs → ∀ {fuel : Nat} (rest : List Char),
    (renderItems vs).length < fuel → parseItems fuel (renderItems vs ++ rest) = some (vs, rest)
  | _, _, 0, _, hf => absurd hf (Nat.not_lt_zero _)
  | [], _, fuel + 1, rest, _ => by
    rw [parseItems]
    rfl
  | v :: vs, h, fuel + 1, rest, hf => by
    obtain ⟨hv, hvs⟩ : v.Plain ∧ PlainItems vs := by simpa only [PlainItems] using h
    simp only [renderItems, List.length_cons, List.length_append] at hf
    have h₁ := parseValue_render hv (renderItems vs ++ rest) (show v.render.length < fuel by omega)
      (closes_renderItems vs rest)
    have h₂ := parseItems_render hvs rest (show (renderItems vs).length < fuel by omega)
    simp only [renderItems, List.cons_append, List.append_assoc]
    exact parseItems_cons h₁ h₂

theorem parseField_render (k : String) : ∀ {v : Json}, v.Plain → ∀ {fuel : Nat} (rest : List Char),
    (renderField k v).length < fuel → Closes rest →
      parseField fuel (renderField k v ++ rest) = some ((some k, v), rest)
  | _, _, 0, _, hf, _ => absurd hf (Nat.not_lt_zero _)
  | v, hv, fuel + 1, rest, hf, hr => by
    simp only [renderField, List.length_cons, List.length_append] at hf
    have h₁ := parseValue_render hv rest (show v.render.length < fuel by omega) hr
    have h₂ := parseText_renderText k (':' :: (v.render ++ rest))
    simp only [renderField, List.cons_append, List.append_assoc]
    exact parseField_cons h₂ h₁

theorem parseFields_render : ∀ {fs : List (Option String × Json)}, PlainFields fs →
    ∀ {fuel : Nat} (rest : List Char), (renderFields fs).length < fuel →
      parseFields fuel (renderFields fs ++ rest) = some (fs, rest)
  | _, _, 0, _, hf => absurd hf (Nat.not_lt_zero _)
  | [], _, fuel + 1, rest, _ => by
    rw [parseFields]
    rfl
  | (none, v) :: fs, h, _ + 1, _, _ => absurd h (by simp [PlainFields])
  | (some k, v) :: fs, h, fuel + 1, rest, hf => by
    obtain ⟨-, hv, hfs⟩ : (some k).isSome = true ∧ v.Plain ∧ PlainFields fs := by
      simpa only [PlainFields] using h
    simp only [renderFields, renderText, List.length_cons, List.length_append, List.length_nil] at hf
    have hk : (renderField k v).length < fuel := by
      simp only [renderField, List.length_cons, List.length_append]
      omega
    have h₁ := parseField_render k hv (renderFields fs ++ rest) hk (closes_renderFields fs rest)
    have h₂ := parseFields_render hfs rest (show (renderFields fs).length < fuel by omega)
    simp only [renderField, List.cons_append, List.append_assoc] at h₁
    simp only [renderFields, renderText, List.cons_append, List.append_assoc, List.nil_append]
    exact parseFields_cons h₁ h₂

end

/-- **Reading undoes printing.** -/
theorem parse?_print {v : Json} (h : v.Plain) : parse? v.print = some v := by
  have hv := parseValue_render h [] (Nat.lt_succ_self v.render.length) closes_nil
  rw [List.append_nil] at hv
  unfold parse? print parseChars
  rw [String.toList_ofList]
  simp only [Nat.succ_eq_add_one] at hv
  simp only [hv, bind, Option.bind]
  rfl

end Roster.Json
