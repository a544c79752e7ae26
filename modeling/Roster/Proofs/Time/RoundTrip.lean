import Mathlib.Algebra.Group.Nat.Defs
import Roster.Proofs.Json.Digits
import Roster.Proofs.Time.Calendar
import Roster.Time.Rfc3339

/-!
# Timestamps written and read

* `Timestamp.shortNumber_padded`, `Timestamp.number_padded` — a padded number is read back.
* `Timestamp.yearPart_yearText`, `smallPart_twoDigits`, `fractionPart_fractionText` — so are the fields that
  are written from it.
* `Timestamp.fractionText_fewest` — a fraction has no more digits than it needs.
* `Timestamp.fields?_chars` — the fields of a written timestamp.
* `Timestamp.parse?_text` — **reading undoes writing** for every timestamp that the clock can show, those in a
  leap second included.
-/

set_option autoImplicit false

namespace Roster.Timestamp

open Roster.Text (trimStart)

/-! ## Padded numbers -/

theorem digitsValue_eq (ds : List Char) : digitsValue ds = Nat.ofDigitChars 10 ds 0 :=
  Json.digitsValue_eq ds

theorem digitsValue_padded (width n : Nat) : digitsValue (Duration.padded width n) = n := by
  rw [digitsValue_eq, Duration.padded, Nat.ofDigitChars_append, Nat.ofDigitChars_replicate_zero,
    Nat.mul_zero, Nat.ofDigitChars_ten_toDigits]

theorem isDigit_of_mem_padded {width n : Nat} {c : Char} (h : c ∈ Duration.padded width n) :
    isDigit c = true := by
  rcases List.mem_append.1 h with h | h
  · rw [(List.mem_replicate.1 h).2]
    decide
  · exact Json.isDigit_of_mem_toDigits h

theorem length_padded {width n : Nat} (hw : 0 < width) (h : n < 10 ^ width) :
    (Duration.padded width n).length = width := by
  have hlen := (Nat.length_toDigits_le_iff (by decide : 1 < 10) hw).2 h
  simp only [Duration.padded, List.length_append, List.length_replicate]
  omega

theorem padded_ne_nil (width n : Nat) : Duration.padded width n ≠ [] :=
  List.append_ne_nil_of_right_ne_nil _ Nat.toDigits_ne_nil

/-- What follows a number does not begin with another digit. -/
def EndsNumber (rest : List Char) : Prop := ∀ c cs, rest = c :: cs → isDigit c = false

theorem endsNumber_cons {c : Char} (h : isDigit c = false) (cs : List Char) : EndsNumber (c :: cs) := by
  rintro c' cs' ⟨⟩
  exact h

theorem endsNumber_nil : EndsNumber [] := by
  intro c cs h
  cases h

/-- The digits of a padded number are split off as a whole. -/
theorem span_padded (width n : Nat) {rest : List Char} (hr : EndsNumber rest) :
    (Duration.padded width n ++ rest).takeWhile isDigit = Duration.padded width n ∧
      (Duration.padded width n ++ rest).dropWhile isDigit = rest :=
  Json.span_digits (fun _ => isDigit_of_mem_padded) hr

theorem number_padded (width n : Nat) {rest : List Char} (hr : EndsNumber rest) :
    number (Duration.padded width n ++ rest) = some (n, rest) := by
  obtain ⟨ht, hd⟩ := span_padded width n hr
  unfold number
  simp only [ht, hd, digitsValue_padded]
  rw [if_neg (by simpa using padded_ne_nil width n)]

/-- A number of exactly as many digits as are read needs no mark behind it. -/
theorem shortNumber_padded {width n : Nat} (hw : 0 < width) (h : n < 10 ^ width)
    (rest : List Char) : shortNumber width (Duration.padded width n ++ rest) = some (n, rest) := by
  have hlen := length_padded hw h
  have htake : (Duration.padded width n ++ rest).take width = Duration.padded width n := by
    rw [List.take_append_of_le_length (by omega), List.take_of_length_le (by omega)]
  have hall : (Duration.padded width n).takeWhile isDigit = Duration.padded width n := by
    simpa only [List.append_nil] using (span_padded width n endsNumber_nil).1
  unfold shortNumber
  simp only [htake, hall, digitsValue_padded, List.drop_left]
  rw [if_neg (by simpa using padded_ne_nil width n)]

/-! ## Fields -/

theorem trimStart_cons {c : Char} (h : Text.isBlank c = false) (cs : List Char) :
    trimStart (c :: cs) = c :: cs := by
  simp [trimStart, h]

theorem not_isBlank_of_isDigit {c : Char} (h : isDigit c = true) : Text.isBlank c = false := by
  have hc : 48 ≤ c.toNat ∧ c.toNat ≤ 57 := by
    simpa [isDigit, Char.le_def, UInt32.le_iff_toNat_le] using h
  rw [Bool.eq_false_iff]
  intro hb
  obtain ⟨r, hr, hle⟩ := CharClass.holds_iff.1 hb
  simp only [Text.blanks, List.mem_cons, List.not_mem_nil, or_false] at hr
  rcases hr with rfl | rfl | rfl | rfl | rfl | rfl | rfl | rfl | rfl | rfl <;> simp only at hle <;> omega

theorem padded_eq_cons (width n : Nat) :
    ∃ d ds, Duration.padded width n = d :: ds ∧ isDigit d = true := by
  cases h : Duration.padded width n with
  | nil => exact absurd h (padded_ne_nil width n)
  | cons d ds => exact ⟨d, ds, rfl, @isDigit_of_mem_padded width n d (by simp [h])⟩

theorem trimStart_padded (width n : Nat) (rest : List Char) :
    trimStart (Duration.padded width n ++ rest) = Duration.padded width n ++ rest := by
  obtain ⟨d, ds, hds, hd⟩ := padded_eq_cons width n
  rw [hds, List.cons_append, trimStart_cons (not_isBlank_of_isDigit hd)]

theorem smallPart_twoDigits {n : Nat} (h : n < 100) (rest : List Char) :
    smallPart (twoDigits n ++ rest) = some (n, rest) := by
  unfold smallPart twoDigits
  rw [trimStart_padded, shortNumber_padded (by decide) (by simpa using h)]

theorem mark_cons {c : Char} (h : Text.isBlank c = false) (cs : List Char) :
    mark c (c :: cs) = some cs := by
  unfold mark
  rw [trimStart_cons h]
  simp

theorem yearPart_yearText (year : Int) {rest : List Char} (hr : EndsNumber rest) :
    yearPart (yearText year ++ rest) = some (year, rest) := by
  unfold yearText
  split
  · rename_i h
    obtain ⟨d, ds, hds, hd⟩ := padded_eq_cons 4 year.toNat
    have hshort := @shortNumber_padded 4 year.toNat (by decide) (by omega) rest
    unfold yearPart
    rw [trimStart_padded]
    rw [hds, List.cons_append] at hshort ⊢
    split
    · rename_i he
      cases he
      exact absurd hd (by decide)
    · rename_i he
      cases he
      exact absurd hd (by decide)
    · simp only [hshort, Option.map_some, Int.toNat_of_nonneg h.1]
  · rename_i h
    have hn := number_padded 4 year.natAbs hr
    by_cases hy : year < 0
    · rw [if_pos hy, List.cons_append, yearPart, trimStart_cons (by decide)]
      simp only [hn, Option.map_some]
      congr
      omega
    · rw [if_neg hy, List.cons_append, yearPart, trimStart_cons (by decide)]
      simp only [hn, Option.map_some]
      congr
      omega

/-- A fraction of fewer than ten digits, without the zeros that would follow. -/
theorem fractionPart_padded {width n : Nat} (hw : 0 < width) (hw' : width ≤ 9) (h : n < 10 ^ width)
    {rest : List Char} (hr : EndsNumber rest) :
    fractionPart ('.' :: Duration.padded width n ++ rest) = some (n * 10 ^ (9 - width), rest) := by
  obtain ⟨ht, hd⟩ := span_padded width n hr
  have hlen := length_padded hw h
  have hkeep : (Duration.padded width n).take 9 = Duration.padded width n :=
    List.take_of_length_le (by omega)
  rw [List.cons_append, fractionPart]
  simp only [ht, hd, hkeep, hlen, digitsValue_padded]
  rw [if_neg (by simpa using padded_ne_nil width n)]
  rfl

theorem fractionPart_fractionText {nanos : Nat} (h : nanos < 1000000000) (cs : List Char) :
    fractionPart (fractionText nanos ++ 'Z' :: cs) = some (nanos, 'Z' :: cs) := by
  have hz : EndsNumber ('Z' :: cs) := endsNumber_cons (by decide) cs
  unfold fractionText
  split
  · rename_i h0
    rw [h0]
    rfl
  split
  · rw [fractionPart_padded (by decide) (by decide) (by omega) hz]
    congr
    omega
  split
  · rw [fractionPart_padded (by decide) (by decide) (by omega) hz]
    congr
    omega
  · rw [fractionPart_padded (by decide) (by decide) (by omega) hz]
    congr
    omega

/-- A fraction is written with the fewest of 0, 3, 6 or 9 digits that are exact. -/
theorem fractionText_fewest {nanos : Nat} (h : nanos < 1000000000) : ∃ digits ∈ [0, 3, 6, 9],
    (fractionText nanos).length = (if digits = 0 then 0 else digits + 1) ∧ nanos % 10 ^ (9 - digits) = 0 ∧
      ∀ fewer ∈ [0, 3, 6, 9], fewer < digits → nanos % 10 ^ (9 - fewer) ≠ 0 := by
  have hlength {width n : Nat} (hw : 0 < width) (hn : n < 10 ^ width) :
      ('.' :: Duration.padded width n).length = width + 1 :=
    congrArg Nat.succ (length_padded hw hn)
  unfold fractionText
  by_cases hzero : nanos = 0
  · subst hzero
    exact ⟨0, by decide, rfl, Nat.zero_mod _, fun _ _ hlt => absurd hlt (Nat.not_lt_zero _)⟩
  have hsecond : nanos % 1000000000 ≠ 0 := by omega
  rw [if_neg hzero]
  by_cases hmillis : nanos % 1000000 = 0
  · refine ⟨3, by decide, by rw [if_pos hmillis]; exact hlength (by decide) (by omega), hmillis, ?_⟩
    simpa using hsecond
  rw [if_neg hmillis]
  by_cases hmicros : nanos % 1000 = 0
  · refine ⟨6, by decide, by rw [if_pos hmicros]; exact hlength (by decide) (by omega), hmicros, ?_⟩
    simpa using ⟨hsecond, hmillis⟩
  · refine ⟨9, by decide, by rw [if_neg hmicros]; exact hlength (by decide) (by omega), Nat.mod_one nanos, ?_⟩
    simpa using ⟨hsecond, hmillis, hmicros⟩

/-! ## Whole timestamps -/

/-- The fields that a timestamp is written from. -/
def fields (t : Timestamp) : Fields :=
  let secondOfDay := (t.seconds % 86400).toNat
  ⟨Date.ofDays (t.seconds / 86400), secondOfDay / 3600, secondOfDay / 60 % 60,
    secondOfDay % 60 + if t.leap then 1 else 0, t.instant.subsecNanos, 0⟩

theorem subsecNanos_lt (t : Instant) : t.subsecNanos < 1000000000 := by
  simp only [Instant.subsecNanos, nanosPerSecond]
  omega

/-- Month and day have two digits at most. -/
theorem lt_hundred_of_isValid {d : Date} (h : d.isValid = true) : d.month < 100 ∧ d.day < 100 := by
  obtain ⟨year, month, day⟩ := d
  simp only [Date.isValid, Bool.and_eq_true, decide_eq_true_eq] at h
  have hlen : Date.monthLength year month ≤ 31 := by
    unfold Date.monthLength
    split
    · split <;> omega
    · split <;> omega
  show month < 100 ∧ day < 100
  omega

theorem fields?_chars (t : Timestamp) : fields? t.chars = some t.fields := by
  obtain ⟨hmonth, hday⟩ := lt_hundred_of_isValid (Date.isValid_ofDays (t.seconds / 86400))
  have hleap : (if t.leap then 1 else 0 : Nat) ≤ 1 := by split <;> omega
  have hfraction := fractionPart_fractionText (subsecNanos_lt t.instant) []
  unfold fields? chars fields
  generalize Date.ofDays (t.seconds / 86400) = date at hmonth hday
  generalize t.instant.subsecNanos = nanos at hfraction
  generalize hs : (t.seconds % 86400).toNat = secondOfDay
  generalize (if t.leap then 1 else 0 : Nat) = extra at hleap
  have hdash : ∀ cs, EndsNumber ('-' :: cs) := endsNumber_cons (by decide)
  have hblank : Text.isBlank '-' = false ∧ Text.isBlank ':' = false := by decide
  simp only [List.append_assoc, List.cons_append, bind, Option.bind,
    yearPart_yearText date.year (hdash _), mark_cons hblank.1, mark_cons hblank.2,
    smallPart_twoDigits hmonth, smallPart_twoDigits hday, dateTimeMark, true_or, if_true,
    smallPart_twoDigits (show secondOfDay / 3600 < 100 by omega),
    smallPart_twoDigits (show secondOfDay / 60 % 60 < 100 by omega),
    smallPart_twoDigits (show secondOfDay % 60 + extra < 100 by omega), hfraction]
  rfl

/-- The days that the clock can show. -/
theorem days_bounds (t : Timestamp) : -96465292 ≤ t.seconds / 86400 ∧ t.seconds / 86400 ≤ 95026236 := by
  have := t.instant.first_le
  have := t.instant.le_last
  simp only [seconds, Instant.seconds, nanosPerSecond, Instant.firstNanos, Instant.lastNanos] at *
  omega

theorem inRange_fields (t : Timestamp) : t.fields.inRange = true := by
  obtain ⟨hfirst, hlast⟩ := days_bounds t
  have hyear := Date.le_year_ofDays hfirst
  have hyear' := Date.year_ofDays_le hlast
  have hhour : (t.seconds % 86400).toNat / 3600 ≤ 23 := by omega
  have hminute : (t.seconds % 86400).toNat / 60 % 60 ≤ 59 := by omega
  have hsecond : ((t.seconds % 86400).toNat % 60 + if t.leap then 1 else 0) ≤ 60 := by
    split <;> omega
  simp only [Fields.inRange, fields, Date.isValid_ofDays, hyear, hyear', hhour, hminute, hsecond,
    decide_true, Bool.true_and, Bool.and_true]
  rfl

theorem secondOfMinute_eq (t : Instant) : t.secondOfMinute = (t.seconds % 86400).toNat % 60 := by
  unfold Instant.secondOfMinute
  omega

theorem epochSecond_fields (t : Timestamp) : t.fields.epochSecond = t.seconds := by
  have hsecond : min t.fields.second 59 = (t.seconds % 86400).toNat % 60 := by
    have hlast := t.leap_last
    rw [secondOfMinute_eq] at hlast
    unfold fields
    cases h : t.leap with
    | false =>
      simp only [Bool.false_eq_true, if_false]
      omega
    | true =>
      have := hlast h
      simp only [if_true, seconds]
      omega
  unfold Fields.epochSecond
  rw [hsecond]
  simp only [fields, Date.toDays_ofDays]
  omega

/-- A written second is 60 in a leap second alone. -/
theorem second_fields (t : Timestamp) : t.fields.second = 60 ↔ t.leap = true := by
  have hlast := t.leap_last
  rw [secondOfMinute_eq] at hlast
  unfold fields
  cases h : t.leap with
  | false =>
    simp only [Bool.false_eq_true, if_false, iff_false]
    omega
  | true =>
    have := hlast h
    simp only [if_true, iff_true, seconds]
    omega

theorem ofFields?_fields (t : Timestamp) : ofFields? t.fields = some t := by
  have hinstant : Instant.ofNanos? (t.fields.epochSecond * nanosPerSecond + t.fields.nanos) =
      some t.instant := by
    rw [Instant.ofNanos?_eq_some, epochSecond_fields]
    simp only [fields, seconds, Instant.seconds, Instant.subsecNanos, nanosPerSecond]
    omega
  have hleap : t.fields.second = 60 → t.instant.secondOfMinute = 59 := fun h =>
    t.leap_last ((second_fields t).1 h)
  unfold ofFields?
  rw [if_pos (inRange_fields t)]
  split
  · rename_i h
    rw [hinstant] at h
    cases h
  · rename_i i h
    rw [hinstant] at h
    cases h
    rw [dif_pos hleap]
    obtain ⟨i, leap, hl⟩ := t
    have hd : decide ((fields ⟨i, leap, hl⟩).second = 60) = leap := by
      rw [Bool.eq_iff_iff, decide_eq_true_iff]
      exact second_fields ⟨i, leap, hl⟩
    simp only [hd]

/-- **Reading undoes writing.** -/
theorem parse?_text (t : Timestamp) : parse? t.text = some t := by
  unfold parse? text
  rw [String.toList_ofList, fields?_chars, Option.bind_some, ofFields?_fields]

end Roster.Timestamp
