import Mathlib.Data.List.TakeWhile
import Mathlib.Data.Nat.Digits.Lemmas
import Mathlib.Tactic.Positivity
import Mathlib.Tactic.Ring
import Roster.Config.Basic

/-!
# What a variable may hold

* `Text.Blank`, `Text.Trims` — white space only, and a text without the white space at its ends, told by the
  parts of the text.  `Text.trim_eq_iff`, `Text.trim_eq_empty_iff` — trimming finds that text.
* `Text.lowerCase_eq_empty_iff` — no character is lost in lower case.
* `Denotes`, `Numeral`, `readWord_eq_ok_iff` — a number by the places of its digits is what is read.
* `ReadsText`, `ReadsNumber`, `ReadsBoolean` — **what a variable may hold, and what it then says**;
  `Variables.text?_eq_iff`, `Variables.number?_eq_ok_iff`, `Variables.boolean?_eq_ok_iff` — it is what is read.
* `Reader` — one of the three ways to read a variable; `Reader.unique` — a variable says one thing.
-/

set_option autoImplicit false

namespace Roster

/-! ## White space -/

namespace Text

/-- A text of white space. -/
def Blank (raw : String) : Prop := ∀ c ∈ raw.toList, isBlank c = true

/-- A text, and what stands between the white space at its ends. -/
structure Trims (raw core : String) : Prop where
  parts : ∃ front back : List Char, raw.toList = front ++ (core.toList ++ back) ∧
    (∀ c ∈ front, isBlank c = true) ∧ ∀ c ∈ back, isBlank c = true
  head : ∀ c ∈ core.toList.head?, isBlank c = false
  last : ∀ c ∈ core.toList.getLast?, isBlank c = false

theorem trims_empty_iff {raw : String} : Trims raw "" ↔ Blank raw := by
  constructor
  · rintro ⟨⟨front, back, hraw, hfront, hback⟩, -, -⟩ c hc
    rw [hraw] at hc
    rcases List.mem_append.1 hc with hc | hc
    · exact hfront c hc
    · exact hback c hc
  · intro h
    exact ⟨⟨raw.toList, [], (List.append_nil _).symm, h, nofun⟩, nofun, nofun⟩

/-- What is left begins with no white space. -/
theorem isBlank_head_trimStart (cs : List Char) : ∀ c ∈ (trimStart cs).head?, isBlank c = false := by
  intro c hc
  have hnot := List.head?_dropWhile_not isBlank cs
  rw [show cs.dropWhile isBlank = trimStart cs from rfl, Option.mem_def.1 hc] at hnot
  simpa using hnot

theorem trimStart_of_head {cs : List Char} (h : ∀ c ∈ cs.head?, isBlank c = false) : trimStart cs = cs := by
  cases cs with
  | nil => rfl
  | cons c cs => exact List.dropWhile_cons_of_neg (by simp [h c rfl])

/-- White space at the end goes. -/
theorem trimEnd_append {core back : List Char} (hback : ∀ c ∈ back, isBlank c = true)
    (hlast : ∀ c ∈ core.getLast?, isBlank c = false) : trimEnd (core ++ back) = core := by
  have hreverse : ∀ c ∈ core.reverse.head?, isBlank c = false := by rwa [List.head?_reverse]
  unfold trimEnd
  rw [List.reverse_append, trimStart, List.dropWhile_append_of_pos (by simpa using hback), ← trimStart,
    trimStart_of_head hreverse, List.reverse_reverse]

theorem trims_trim (raw : String) : Trims raw (trim raw) := by
  have hcore : (trim raw).toList = trimEnd (trimStart raw.toList) := String.toList_ofList
  have hsplit : trimStart raw.toList =
      trimEnd (trimStart raw.toList) ++ ((trimStart raw.toList).reverse.takeWhile isBlank).reverse := by
    unfold trimEnd
    rw [← List.reverse_append]
    unfold trimStart
    rw [List.takeWhile_append_dropWhile, List.reverse_reverse]
  refine ⟨⟨raw.toList.takeWhile isBlank, ((trimStart raw.toList).reverse.takeWhile isBlank).reverse,
    ?_, ?_, ?_⟩, ?_, ?_⟩
  · rw [hcore, ← hsplit, trimStart, List.takeWhile_append_dropWhile]
  · exact fun c hc => List.mem_takeWhile_imp hc
  · exact fun c hc => List.mem_takeWhile_imp (List.mem_reverse.1 hc)
  · -- what is left in front is the front of what the first trimming left
    intro c hc
    refine isBlank_head_trimStart raw.toList c ?_
    rw [hsplit, List.head?_append, ← hcore, Option.mem_def.1 hc]
    rfl
  · intro c hc
    rw [hcore, trimEnd, List.getLast?_reverse] at hc
    exact isBlank_head_trimStart _ c hc

/-- **Trimming finds what stands between the white space at both ends.** -/
theorem trim_eq_iff {raw core : String} : trim raw = core ↔ Trims raw core := by
  constructor
  · rintro rfl
    exact trims_trim raw
  · rintro ⟨⟨front, back, hraw, hfront, hback⟩, hhead, hlast⟩
    have hstart : trimEnd (trimStart raw.toList) = core.toList := by
      rw [hraw, trimStart, List.dropWhile_append_of_pos hfront, ← trimStart]
      cases hcore : core.toList with
      | nil =>
        -- the white space behind an empty text goes with that in front of it
        rw [List.nil_append, trimStart, List.dropWhile_eq_nil_iff.2 hback]
        rfl
      | cons c cs =>
        rw [hcore] at hhead hlast
        have hfirst : trimStart (c :: cs ++ back) = c :: cs ++ back := trimStart_of_head (by simpa using hhead)
        rw [hfirst, trimEnd_append hback hlast]
    rw [trim, hstart, String.ofList_toList]

theorem trim_eq_empty_iff {raw : String} : trim raw = "" ↔ Blank raw := trim_eq_iff.trans trims_empty_iff

/-! ## Lower case -/

theorem lowerChar_ne_nil (c : Char) : lowerChar c ≠ [] := by
  unfold lowerChar
  split
  · exact List.cons_ne_nil _ _
  · split <;> exact List.cons_ne_nil _ _

theorem lowerAfter_eq_nil_iff {before cs : List Char} : lowerAfter before cs = [] ↔ cs = [] := by
  fun_cases lowerAfter before cs with
  | case1 => simp
  | case2 => simp
  | case3 c rest => simp [lowerChar_ne_nil]

/-- No text but the empty one is empty in lower case. -/
theorem lowerCase_eq_empty_iff {s : String} : lowerCase s = "" ↔ s = "" := by
  rw [lowerCase, String.ofList_eq_empty_iff, lowerAfter_eq_nil_iff, String.toList_eq_nil_iff]

end Text

/-! ## Numbers -/

/-- The number that decimal digits denote by their places, the highest one first. -/
def placeValue (digits : List Char) : Nat := Nat.ofDigits 10 (digits.reverse.map fun c => c.toNat - '0'.toNat)

/-- Decimal digits, at least one, and the number that they denote. -/
structure Denotes (digits : List Char) (n : Nat) : Prop where
  ne_nil : digits ≠ []
  isDigit : ∀ c ∈ digits, c.isDigit = true
  value : n = placeValue digits

/-- A number: decimal digits, after a `+` if there is one. -/
def Numeral (text : List Char) (n : Nat) : Prop :=
  Denotes text n ∨ ∃ digits, text = '+' :: digits ∧ Denotes digits n

theorem placeValue_cons (c : Char) (cs : List Char) :
    placeValue (c :: cs) = (c.toNat - '0'.toNat) * 10 ^ cs.length + placeValue cs := by
  unfold placeValue
  rw [List.reverse_cons, List.map_append, Nat.ofDigits_append, List.length_map, List.length_reverse,
    List.map_singleton, Nat.ofDigits_singleton, Nat.add_comm, Nat.mul_comm]

theorem isDigit_iff {c : Char} : c.isDigit = true ↔ '0' ≤ c ∧ c ≤ '9' := by
  simp [Char.isDigit, Char.le_def]

/-- Digits behind a number that was read move it up by as many places. -/
theorem readDigits_eq_ok_iff {n m : Nat} {cs : List Char} (hn : n ≤ maxWord) : readDigits n cs = .ok m ↔
    (∀ c ∈ cs, c.isDigit = true) ∧ m = n * 10 ^ cs.length + placeValue cs ∧ m ≤ maxWord := by
  fun_induction readDigits n cs with
  | case1 n =>
    have hnone : placeValue [] = 0 := rfl
    simp only [Except.ok.injEq, List.length_nil, pow_zero, Nat.mul_one, hnone, Nat.add_zero, List.not_mem_nil,
      false_implies, implies_true, true_and]
    omega
  | case2 n c cs hc n' hle ih =>
    have hplaces : n' * 10 ^ cs.length + placeValue cs = n * 10 ^ (c :: cs).length + placeValue (c :: cs) := by
      rw [placeValue_cons, List.length_cons, pow_succ', show n' = n * 10 + (c.toNat - '0'.toNat) from rfl]
      ring
    rw [ih hle, hplaces, List.forall_mem_cons, isDigit_iff]
    simp only [hc, and_self, true_and]
  | case3 n c cs hc n' hlarge =>
    constructor
    · intro h
      cases h
    · -- more digits make it larger still
      rintro ⟨-, hm, hle⟩
      have hplaces : m = n' * 10 ^ cs.length + placeValue cs := by
        rw [hm, placeValue_cons, List.length_cons, pow_succ', show n' = n * 10 + (c.toNat - '0'.toNat) from rfl]
        ring
      have hgrows : n' ≤ n' * 10 ^ cs.length := Nat.le_mul_of_pos_right n' (by positivity)
      omega
  | case4 n c cs hc =>
    constructor
    · intro h
      cases h
    · intro h
      exact absurd (isDigit_iff.1 (h.1 c List.mem_cons_self)) hc

theorem not_denotes_plus {digits : List Char} {n : Nat} : ¬ Denotes ('+' :: digits) n := by
  intro h
  cases h.isDigit '+' List.mem_cons_self

theorem numeral_plus_iff {digits : List Char} {n : Nat} : Numeral ('+' :: digits) n ↔ Denotes digits n := by
  constructor
  · rintro (h | ⟨digits', ⟨⟩, h⟩)
    · exact absurd h not_denotes_plus
    · exact h
  · intro h
    exact .inr ⟨digits, rfl, h⟩

/-- No number is empty. -/
theorem Numeral.ne_nil {text : List Char} {n : Nat} (h : Numeral text n) : text ≠ [] := by
  rcases h with h | ⟨digits, rfl, -⟩
  · exact h.ne_nil
  · exact List.cons_ne_nil _ _

theorem readDigits_zero_eq_ok_iff {digits : List Char} {n : Nat} (hne : digits ≠ []) :
    readDigits 0 digits = .ok n ↔ Denotes digits n ∧ n ≤ maxWord := by
  rw [readDigits_eq_ok_iff (Nat.zero_le _), Nat.zero_mul, Nat.zero_add]
  constructor
  · rintro ⟨hall, hn, hle⟩
    exact ⟨⟨hne, hall, hn⟩, hle⟩
  · rintro ⟨h, hle⟩
    exact ⟨h.isDigit, h.value, hle⟩

/-- **The number that is read is the one that the digits denote**, as long as it has 64 bits. -/
theorem readWord_eq_ok_iff {cs : List Char} {n : Nat} : readWord cs = .ok n ↔ Numeral cs n ∧ n ≤ maxWord := by
  unfold readWord
  split
  · constructor
    · intro h
      cases h
    · rintro ⟨h, -⟩
      exact absurd rfl h.ne_nil
  · constructor
    · intro h
      cases h
    · rintro ⟨h, -⟩
      exact absurd rfl (numeral_plus_iff.1 h).ne_nil
  · rename_i digits hne
    rw [readDigits_zero_eq_ok_iff hne, numeral_plus_iff]
  · rename_i hempty _ hplus
    have hnumeral : Numeral cs n ↔ Denotes cs n := or_iff_left fun ⟨digits, hcs, _⟩ => hplus digits hcs
    rw [readDigits_zero_eq_ok_iff hempty, hnumeral]

/-! ## Variables -/

/-- What a variable of text may hold, and the text that it gives. -/
inductive ReadsText : Option String → Option String → Prop
  | missing : ReadsText none none
  | blank {raw : String} : Text.Blank raw → ReadsText (some raw) none
  | text {raw : String} : ¬ Text.Blank raw → ReadsText (some raw) (some raw)

/-- What a variable of numbers may hold, and the number that it gives. -/
inductive ReadsNumber : Option String → Option Nat → Prop
  | missing : ReadsNumber none none
  | blank {raw : String} : Text.Blank raw → ReadsNumber (some raw) none
  | numeral {raw core : String} {n : Nat} : Text.Trims raw core → Numeral core.toList n → n ≤ maxWord →
      ReadsNumber (some raw) (some n)

/-- What a variable of truth values may hold, and the truth value that it gives. -/
inductive ReadsBoolean : Option String → Option Bool → Prop
  | missing : ReadsBoolean none none
  | blank {raw : String} : Text.Blank raw → ReadsBoolean (some raw) none
  | yes {raw core : String} : Text.Trims raw core → Text.lowerCase core ∈ ["1", "true", "yes", "on"] →
      ReadsBoolean (some raw) (some true)
  | no {raw core : String} : Text.Trims raw core → Text.lowerCase core ∈ ["0", "false", "no", "off"] →
      ReadsBoolean (some raw) (some false)

/-- No word says both. -/
theorem booleanWord?_eq_some_iff {word : String} {b : Bool} : booleanWord? word = some b ↔
    b = true ∧ word ∈ ["1", "true", "yes", "on"] ∨ b = false ∧ word ∈ ["0", "false", "no", "off"] := by
  have hapart : word ∈ ["1", "true", "yes", "on"] → word ∉ ["0", "false", "no", "off"] := by
    revert word
    decide
  unfold booleanWord?
  simp only [List.contains_iff_mem]
  split
  · rename_i hyes
    simp [hyes, hapart hyes, eq_comm]
  · rename_i hyes
    split
    · rename_i hno
      simp [hyes, hno, eq_comm]
    · rename_i hno
      simp [hyes, hno]

/-- Nothing stands between the ends of a blank text. -/
theorem Text.Trims.eq_empty {raw core : String} (h : Trims raw core) (hblank : Blank raw) : core = "" :=
  (trim_eq_iff.2 h).symm.trans (trim_eq_empty_iff.2 hblank)

namespace Variables

variable {vars : Variables} {name : String}

theorem text?_eq_iff {value : Option String} : vars.text? name = value ↔ ReadsText (vars name) value := by
  unfold text?
  cases vars name with
  | none =>
    constructor
    · rintro rfl
      exact .missing
    · rintro ⟨⟩
      rfl
  | some raw =>
    rw [Option.filter_some]
    by_cases hblank : Text.Blank raw
    · rw [if_neg (by simp [Text.trim_eq_empty_iff.2 hblank])]
      constructor
      · rintro rfl
        exact .blank hblank
      · rintro (_ | _ | htext)
        · rfl
        · exact absurd hblank htext
    · rw [if_pos (by simp [mt Text.trim_eq_empty_iff.1 hblank])]
      constructor
      · rintro rfl
        exact .text hblank
      · rintro (_ | hblank' | _)
        · exact absurd hblank' hblank
        · rfl

theorem number?_eq_ok_iff {value : Option Nat} :
    vars.number? name = .ok value ↔ ReadsNumber (vars name) value := by
  unfold number?
  cases vars name with
  | none =>
    constructor
    · rintro ⟨⟩
      exact .missing
    · rintro ⟨⟩
      rfl
  | some raw =>
    dsimp only
    by_cases hblank : Text.Blank raw
    · rw [if_pos (Text.trim_eq_empty_iff.2 hblank)]
      constructor
      · rintro ⟨⟩
        exact .blank hblank
      · rintro (_ | _ | ⟨hcore, hn, -⟩)
        · rfl
        · cases hcore.eq_empty hblank
          exact absurd rfl hn.ne_nil
    · rw [if_neg (mt Text.trim_eq_empty_iff.1 hblank)]
      constructor
      · intro h
        split at h
        · rename_i n hread
          cases h
          obtain ⟨hn, hle⟩ := readWord_eq_ok_iff.1 hread
          exact .numeral (Text.trims_trim raw) hn hle
        · cases h
      · rintro (_ | hblank' | ⟨hcore, hn, hle⟩)
        · exact absurd hblank' hblank
        · rw [Text.trim_eq_iff.2 hcore, readWord_eq_ok_iff.2 ⟨hn, hle⟩]

theorem boolean?_eq_ok_iff {value : Option Bool} :
    vars.boolean? name = .ok value ↔ ReadsBoolean (vars name) value := by
  unfold boolean?
  cases vars name with
  | none =>
    constructor
    · rintro ⟨⟩
      exact .missing
    · rintro ⟨⟩
      rfl
  | some raw =>
    dsimp only
    by_cases hblank : Text.Blank raw
    · rw [if_pos (Text.lowerCase_eq_empty_iff.2 (Text.trim_eq_empty_iff.2 hblank))]
      constructor
      · rintro ⟨⟩
        exact .blank hblank
      · rintro (_ | _ | ⟨hcore, hword⟩ | ⟨hcore, hword⟩)
        · rfl
        · cases hcore.eq_empty hblank
          revert hword
          decide
        · cases hcore.eq_empty hblank
          revert hword
          decide
    · rw [if_neg (mt Text.lowerCase_eq_empty_iff.1 (mt Text.trim_eq_empty_iff.1 hblank))]
      constructor
      · intro h
        split at h
        · rename_i b hread
          cases h
          rcases booleanWord?_eq_some_iff.1 hread with ⟨rfl, hword⟩ | ⟨rfl, hword⟩
          · exact .yes (Text.trims_trim raw) hword
          · exact .no (Text.trims_trim raw) hword
        · cases h
      · rintro (_ | hblank' | ⟨hcore, hword⟩ | ⟨hcore, hword⟩)
        · exact absurd hblank' hblank
        · rw [Text.trim_eq_iff.2 hcore, booleanWord?_eq_some_iff.2 (.inl ⟨rfl, hword⟩)]
        · rw [Text.trim_eq_iff.2 hcore, booleanWord?_eq_some_iff.2 (.inr ⟨rfl, hword⟩)]

theorem variableName_of_number? {fault : SettingFault} (h : vars.number? name = .error fault) :
    fault.variableName = name := by
  unfold number? at h
  split at h
  · cases h
  · dsimp only at h
    repeat' split at h
    all_goals cases h
    rfl

theorem variableName_of_boolean? {fault : SettingFault} (h : vars.boolean? name = .error fault) :
    fault.variableName = name := by
  unfold boolean? at h
  split at h
  · cases h
  · dsimp only at h
    repeat' split at h
    all_goals cases h
    rfl

end Variables

/-! ## Readers -/

/-- A way to read a variable: what it may hold, and the reading, which finds just that or tells the variable. -/
structure Reader (β : Type) where
  Reads : Option String → Option β → Prop
  read : Variables → String → Except SettingFault (Option β)
  read_eq_ok_iff : ∀ {vars : Variables} {name : String} {value : Option β},
    read vars name = .ok value ↔ Reads (vars name) value
  variableName : ∀ {vars : Variables} {name : String} {fault : SettingFault},
    read vars name = .error fault → fault.variableName = name

namespace Reader

def text : Reader String where
  Reads := ReadsText
  read vars name := .ok (vars.text? name)
  read_eq_ok_iff := by
    intro vars name value
    rw [Except.ok.injEq]
    exact Variables.text?_eq_iff
  variableName h := by cases h

def number : Reader Nat :=
  ⟨ReadsNumber, Variables.number?, Variables.number?_eq_ok_iff, Variables.variableName_of_number?⟩

def boolean : Reader Bool :=
  ⟨ReadsBoolean, Variables.boolean?, Variables.boolean?_eq_ok_iff, Variables.variableName_of_boolean?⟩

/-- A variable says one thing. -/
theorem unique {β : Type} (r : Reader β) {raw? : Option String} {a b : Option β} (ha : r.Reads raw? a)
    (hb : r.Reads raw? b) : a = b := by
  have hread : ∀ value, r.Reads raw? value → r.read (fun _ => raw?) "" = .ok value :=
    fun _ h => r.read_eq_ok_iff.2 h
  exact Except.ok.inj ((hread a ha).symm.trans (hread b hb))

end Reader

end Roster
