import Roster.Time.Calendar

/-!
# Days and dates

* `Date.ofDays_eq` — a count of days is taken apart into years from March on, in groups of 400, 100 and 4, and
  the day of such a year.
* `Date.isValid_ofDays` — every count of days gives a date of the calendar.
* `Date.toDays_ofDays` — the date of a count of days gives the count back.
* `Date.le_year_ofDays`, `Date.year_ofDays_le` — the days that the clock can show are in the years -262143 to
  262142.
-/

set_option autoImplicit false

namespace Roster.Date

/-- The date of a day of a year that begins in March. -/
def ofMarchYear (marchYear : Int) (dayOfYear : Nat) : Date :=
  let marchMonth := (5 * dayOfYear + 2) / 153
  let day := dayOfYear - (153 * marchMonth + 2) / 5 + 1
  let month := if marchMonth < 10 then marchMonth + 3 else marchMonth - 9
  ⟨if month ≤ 2 then marchYear + 1 else marchYear, month, day⟩

/-- A year of an era of 400 years, and a day in it. -/
structure Place where
  era : Int
  century : Nat
  quad : Nat
  yearOfQuad : Nat
  dayOfYear : Nat

namespace Place

/-- The year that began in March. -/
def marchYear (p : Place) : Int := p.era * 400 + (p.century * 100 + p.quad * 4 + p.yearOfQuad : Nat)

/-- The days from the start of the era. -/
def dayOfEra (p : Place) : Nat := p.century * 36524 + p.quad * 1461 + p.yearOfQuad * 365 + p.dayOfYear

/-- The parts are in their ranges, and only a leap year has a day 365 (counted from zero). -/
structure Valid (p : Place) : Prop where
  century_le : p.century ≤ 3
  quad_le : p.quad ≤ 24
  yearOfQuad_le : p.yearOfQuad ≤ 3
  dayOfYear_le : p.dayOfYear ≤ 365
  leap : p.dayOfYear = 365 → p.yearOfQuad = 3 ∧ (p.quad < 24 ∨ p.century = 3)

end Place

/-- Every day has a place in its era. -/
theorem ofDays_eq (n : Int) : ∃ p : Place, p.Valid ∧ n + epochShift = p.era * 146097 + p.dayOfEra ∧
    ofDays n = ofMarchYear p.marchYear p.dayOfYear := by
  let dayOfEra := ((n + epochShift) % 146097).toNat
  let century := min (dayOfEra / 36524) 3
  let dayOfCentury := dayOfEra - century * 36524
  let quad := dayOfCentury / 1461
  let dayOfQuad := dayOfCentury % 1461
  let yearOfQuad := min (dayOfQuad / 365) 3
  have hera : dayOfEra < 146097 := by omega
  have hcentury : dayOfCentury ≤ 36524 ∧ (dayOfCentury = 36524 → century = 3) := by omega
  have hquad : quad ≤ 24 := by omega
  refine ⟨⟨(n + epochShift) / 146097, century, quad, yearOfQuad, dayOfQuad - yearOfQuad * 365⟩,
    ⟨?_, ?_, ?_, ?_, ?_⟩, ?_, rfl⟩
  · show century ≤ 3
    omega
  · exact hquad
  · show yearOfQuad ≤ 3
    omega
  · show dayOfQuad - yearOfQuad * 365 ≤ 365
    omega
  · intro h
    change dayOfQuad - yearOfQuad * 365 = 365 at h
    show yearOfQuad = 3 ∧ (quad < 24 ∨ century = 3)
    omega
  · have hday : century * 36524 + quad * 1461 + yearOfQuad * 365 + (dayOfQuad - yearOfQuad * 365) =
        dayOfEra := by omega
    show n + epochShift = (n + epochShift) / 146097 * 146097 + (_ : Nat)
    simp only [Place.dayOfEra, hday]
    omega

/-! ## A year from March on -/

theorem isLeap_of_dayOfYear {p : Place} (h : p.Valid) (hd : p.dayOfYear = 365) :
    isLeap (p.marchYear + 1) = true := by
  obtain ⟨hy, hq⟩ := h.leap hd
  have := h.quad_le
  simp only [isLeap, Place.marchYear, hy, Bool.and_eq_true, Bool.or_eq_true, decide_eq_true_eq]
  refine ⟨by omega, ?_⟩
  rcases hq with hq | hc
  · exact .inl (by omega)
  · by_cases hq : p.quad = 24
    · exact .inr (by omega)
    · exact .inl (by omega)

/-- A day of a year from March on, by its month (counted from March) and the days of that month before it. -/
theorem ofMarchYear_eq (y : Int) {d : Nat} (h : d ≤ 365) : ∃ m r : Nat, m ≤ 11 ∧
    d = (153 * m + 2) / 5 + r ∧ r ≤ 30 ∧ (m = 1 ∨ m = 3 ∨ m = 6 ∨ m = 8 → r ≤ 29) ∧
    (m = 11 → r ≤ 28 ∧ (r = 28 → d = 365)) ∧
    ofMarchYear y d = if m < 10 then ⟨y, m + 3, r + 1⟩ else ⟨y + 1, m - 9, r + 1⟩ := by
  refine ⟨(5 * d + 2) / 153, d - (153 * ((5 * d + 2) / 153) + 2) / 5, by omega, by omega, by omega,
    by omega, by omega, ?_⟩
  unfold ofMarchYear
  simp only
  split
  · rw [if_neg (by omega)]
  · rw [if_pos (by omega)]

theorem isValid_ofMarchYear {p : Place} (h : p.Valid) :
    (ofMarchYear p.marchYear p.dayOfYear).isValid = true := by
  have hleap := isLeap_of_dayOfYear h
  obtain ⟨m, r, hm, hd, hr, hshort, hfeb, he⟩ := ofMarchYear_eq p.marchYear h.dayOfYear_le
  rw [he]
  by_cases h11 : m = 11
  · -- February comes last; its length alone depends on the year.
    subst h11
    obtain ⟨hle, hlast⟩ := hfeb rfl
    by_cases hr28 : r = 28
    · simp [isValid, monthLength, hleap (hlast hr28), hr28]
    · by_cases hl : isLeap (p.marchYear + 1) = true <;> simp [isValid, monthLength, hl] <;> omega
  · have : m = 0 ∨ m = 1 ∨ m = 2 ∨ m = 3 ∨ m = 4 ∨ m = 5 ∨ m = 6 ∨ m = 7 ∨ m = 8 ∨ m = 9 ∨ m = 10 := by
      omega
    rcases this with rfl | rfl | rfl | rfl | rfl | rfl | rfl | rfl | rfl | rfl | rfl <;>
      simp [isValid, monthLength] <;> omega

/-- The year of an era, from the year that began in March. -/
theorem marchYear_div_mod {p : Place} (h : p.Valid) : p.marchYear / 400 = p.era ∧
    (p.marchYear % 400).toNat = p.century * 100 + p.quad * 4 + p.yearOfQuad := by
  have := h.century_le
  have := h.quad_le
  have := h.yearOfQuad_le
  unfold Place.marchYear
  omega

theorem toDays_ofMarchYear {p : Place} (h : p.Valid) :
    (ofMarchYear p.marchYear p.dayOfYear).toDays = p.era * 146097 + p.dayOfEra - epochShift := by
  obtain ⟨m, r, hm, hd, -, -, -, he⟩ := ofMarchYear_eq p.marchYear h.dayOfYear_le
  obtain ⟨hera, hyear⟩ := marchYear_div_mod h
  have hq := h.quad_le
  have hy := h.yearOfQuad_le
  have hmonth : toDays (if m < 10 then ⟨p.marchYear, m + 3, r + 1⟩ else ⟨p.marchYear + 1, m - 9, r + 1⟩) =
      p.marchYear / 400 * 146097 + (((p.marchYear % 400).toNat * 365 + (p.marchYear % 400).toNat / 4 -
        (p.marchYear % 400).toNat / 100 + ((153 * m + 2) / 5 + r) : Nat) : Int) - epochShift := by
    by_cases h10 : m < 10
    · simp only [h10, if_true, toDays, show ¬ m + 3 ≤ 2 by omega, if_false, Nat.add_sub_cancel]
      rfl
    · have hm' : m - 9 + 9 = m := by omega
      simp only [h10, if_false, toDays, show m - 9 ≤ 2 by omega, if_true, Int.add_sub_cancel, hm']
      rfl
  rw [he, hmonth, hera, hyear, ← hd, Place.dayOfEra]
  omega

theorem isValid_ofDays (n : Int) : (ofDays n).isValid = true := by
  obtain ⟨p, hp, -, h⟩ := ofDays_eq n
  rw [h]
  exact isValid_ofMarchYear hp

theorem toDays_ofDays (n : Int) : (ofDays n).toDays = n := by
  obtain ⟨p, hp, hn, h⟩ := ofDays_eq n
  rw [h, toDays_ofMarchYear hp]
  omega

/-- The year that a date is in begins in January, two months before the end of the year from March on. -/
theorem year_ofDays (n : Int) : ∃ p : Place, p.Valid ∧ n + epochShift = p.era * 146097 + p.dayOfEra ∧
    (ofDays n).year = if p.dayOfYear < 306 then p.marchYear else p.marchYear + 1 := by
  obtain ⟨p, hp, hn, h⟩ := ofDays_eq n
  obtain ⟨m, r, hm, hd, hr, -, -, he⟩ := ofMarchYear_eq p.marchYear hp.dayOfYear_le
  refine ⟨p, hp, hn, ?_⟩
  rw [h, he]
  by_cases h10 : m < 10
  · rw [if_pos h10, if_pos (by omega)]
  · rw [if_neg h10, if_neg (by omega)]

theorem le_year_ofDays {n : Int} (h : -96465292 ≤ n) : -262143 ≤ (ofDays n).year := by
  obtain ⟨p, ⟨hc, hq, hy, hd, -⟩, hn, he⟩ := year_ofDays n
  rw [he]
  simp only [Place.dayOfEra, epochShift] at hn
  unfold Place.marchYear
  split <;> omega

theorem year_ofDays_le {n : Int} (h : n ≤ 95026236) : (ofDays n).year ≤ 262142 := by
  obtain ⟨p, ⟨hc, hq, hy, hd, -⟩, hn, he⟩ := year_ofDays n
  rw [he]
  simp only [Place.dayOfEra, epochShift] at hn
  unfold Place.marchYear
  split <;> omega

end Roster.Date
