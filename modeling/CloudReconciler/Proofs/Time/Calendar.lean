import CloudReconciler.Time.Instant

/-! # The calendar — every day has one date

    `CivilDate.ofDays` finds the year of a day by a division that corrects
    for the leap days, and `CivilDate.toDays` counts the days of whole
    years.  The two meet in the cycles of the calendar: a day of an era is
    some number of whole centuries, four-year cycles and years, and the days
    since March began (`EraDay`).  There the year that the division finds is
    the year that the cycles count, so the date of a day is valid and leads
    back to the day. -/

namespace CloudReconciler

/-- A day of an era of 400 years, by the whole cycles before it. -/
structure EraDay where
  centuries : Int
  /-- Four-year cycles of the century. -/
  cycles : Int
  /-- Years of the cycle. -/
  years : Int
  /-- Days since the year began in March. -/
  day : Int
  centuries_mem : 0 ≤ centuries ∧ centuries ≤ 3
  cycles_mem : 0 ≤ cycles ∧ cycles ≤ 24
  years_mem : 0 ≤ years ∧ years ≤ 3
  day_mem : 0 ≤ day ∧ day ≤ 365
  /-- The leap day ends a four-year cycle; the last one of a century is an exception, except for
      that of the era. -/
  leap : day = 365 → years = 3 ∧ (cycles < 24 ∨ centuries = 3)

namespace EraDay

/-- The number of the day in its era. -/
def number (e : EraDay) : Int :=
  36524 * e.centuries + 1461 * e.cycles + 365 * e.years + e.day

/-- The year of the era. -/
def year (e : EraDay) : Int := 100 * e.centuries + 4 * e.cycles + e.years

theorem exists_number_eq {n : Int} (hn : 0 ≤ n ∧ n < 146097) : ∃ e : EraDay, e.number = n := by
  obtain ⟨c, hc⟩ : ∃ c, c = min 3 (n / 36524) := ⟨_, rfl⟩
  obtain ⟨q, hq⟩ : ∃ q, q = (n - 36524 * c) / 1461 := ⟨_, rfl⟩
  obtain ⟨k, hk⟩ : ∃ k, k = min 3 ((n - 36524 * c - 1461 * q) / 365) := ⟨_, rfl⟩
  obtain ⟨d, hd⟩ : ∃ d, d = n - 36524 * c - 1461 * q - 365 * k := ⟨_, rfl⟩
  have hsum : 36524 * c + 1461 * q + 365 * k + d = n := by omega
  exact ⟨⟨c, q, k, d, by omega, by omega, by omega, by omega, by omega⟩, hsum⟩

variable (e : EraDay)

theorem number_mem : 0 ≤ e.number ∧ e.number < 146097 := by
  obtain ⟨c, q, k, d, hc, hq, hk, hd, hleap⟩ := e
  simp only [number]
  by_cases h365 : d = 365
  · obtain ⟨rfl, hlast⟩ := hleap h365
    omega
  · omega

theorem year_mem : 0 ≤ e.year ∧ e.year ≤ 399 := by
  obtain ⟨c, q, k, d, hc, hq, hk, -, -⟩ := e
  simp only [year]
  omega

/-- The centuries before a day; the last day of the era is counted twice. -/
theorem centuries_eq : e.number / 36524 - e.number / 146096 = e.centuries := by
  obtain ⟨c, q, k, d, hc, hq, hk, hd, hleap⟩ := e
  simp only [number]
  have hrest : 1461 * q + 365 * k + d ≤ 36523 ∨ 1461 * q + 365 * k + d = 36524 ∧ c = 3 := by
    by_cases h365 : d = 365
    · obtain ⟨rfl, hq' | rfl⟩ := hleap h365
      · exact .inl (by omega)
      · omega
    · omega
  rcases hrest with hrest | ⟨hrest, rfl⟩
  · have hcentury : (36524 * c + 1461 * q + 365 * k + d) / 36524 = c := by omega
    have hera : (36524 * c + 1461 * q + 365 * k + d) / 146096 = 0 := by omega
    omega
  · have hlast : 36524 * 3 + 1461 * q + 365 * k + d = 146096 := by omega
    rw [hlast]
    rfl

/-- The division that corrects for the leap days finds the year. -/
theorem year_eq :
    (e.number - e.number / 1460 + e.number / 36524 - e.number / 146096) / 365 = e.year := by
  have hcenturies := e.centuries_eq
  obtain ⟨c, q, k, d, hc, hq, hk, hd, hleap⟩ := e
  simp only [number, year] at hcenturies ⊢
  have hcycles : (36524 * c + 1461 * q + 365 * k + d) / 1460 =
      25 * c + q + (24 * c + q + 365 * k + d) / 1460 := by omega
  omega

/-- The days of the years before make up the rest. -/
theorem number_sub_years :
    e.number - (365 * e.year + e.year / 4 - e.year / 100) = e.day := by
  obtain ⟨c, q, k, d, hc, hq, hk, -, -⟩ := e
  simp only [number, year]
  omega

/-- The year that follows the leap day has one. -/
theorem isLeapYear_of_day_eq (h : e.day = 365) (era : Int) :
    CivilDate.isLeapYear (e.year + era * 400 + 1) = true := by
  obtain ⟨hyears, hlast⟩ := e.leap h
  have hcycles := e.cycles_mem
  have hyear : e.year + era * 400 + 1 = 100 * e.centuries + 4 * e.cycles + 4 + era * 400 := by
    rw [year, hyears]
    omega
  have hfour : (e.year + era * 400 + 1) % 4 = 0 := by omega
  have hcentury : (e.year + era * 400 + 1) % 100 ≠ 0 ∨ (e.year + era * 400 + 1) % 400 = 0 := by
    omega
  rw [CivilDate.isLeapYear, decide_eq_true hfour, Bool.true_and, Bool.or_eq_true]
  exact hcentury.imp decide_eq_true decide_eq_true

end EraDay

namespace CivilDate

/-- Month and day of the month, for the days of a year that begins in March. -/
theorem month_of_day : ∀ n < 366, ∀ fromMarch month day : Nat, fromMarch = (5 * n + 2) / 153 →
    month = (if fromMarch < 10 then fromMarch + 3 else fromMarch - 9) →
    day = n - (153 * fromMarch + 2) / 5 + 1 →
    (1 ≤ month ∧ month ≤ 12) ∧ (month ≤ 2 ↔ 306 ≤ n) ∧
      (153 * ((month + 9) % 12) + 2) / 5 + day = n + 1 ∧ 1 ≤ day ∧ day ≤ 31 ∧
      (month = 4 ∨ month = 6 ∨ month = 9 ∨ month = 11 → day ≤ 30) ∧
      (month = 2 → day ≤ 28 ∨ n = 365 ∧ day = 29) := by
  rintro n hn _ _ _ rfl rfl rfl
  revert n
  decide +kernel

/-- The date is that of a day of an era. -/
structure IsDateOf (date : CivilDate) (e : EraDay) (era : Int) : Prop where
  year : date.year = e.year + era * 400 + (if date.month ≤ 2 then 1 else 0)
  month : 1 ≤ date.month ∧ date.month ≤ 12
  early : date.month ≤ 2 ↔ 306 ≤ e.day
  day : ((153 * ((date.month + 9) % 12) + 2) / 5 + date.day : Nat) = e.day + 1
  day_mem : 1 ≤ date.day ∧ date.day ≤ 31
  short : date.month = 4 ∨ date.month = 6 ∨ date.month = 9 ∨ date.month = 11 → date.day ≤ 30
  february : date.month = 2 → date.day ≤ 28 ∨ e.day = 365 ∧ date.day = 29

/-- A day has a place in an era. -/
theorem exists_era (days : Int) :
    ∃ (era : Int) (e : EraDay), days + 719468 = 146097 * era + e.number := by
  obtain ⟨e, he⟩ := EraDay.exists_number_eq
    (n := (days + 719468) % 146097) ⟨by omega, by omega⟩
  exact ⟨(days + 719468) / 146097, e, by omega⟩

variable {days era : Int} {e : EraDay} {date : CivilDate}

theorem isDateOf_ofDays (h : days + 719468 = 146097 * era + e.number) :
    (ofDays days).IsDateOf e era := by
  have hnumber := e.number_mem
  have hera : (days + 719468) / 146097 = era := by omega
  have hday : (days + 719468) % 146097 = e.number := by omega
  obtain ⟨n, hn⟩ := Int.eq_ofNat_of_zero_le e.day_mem.1
  have hn366 : n < 366 := by
    have hle := e.day_mem.2
    omega
  obtain ⟨fromMarch, hfrom⟩ : ∃ m, m = (5 * n + 2) / 153 := ⟨_, rfl⟩
  obtain ⟨month, hmonth⟩ :
      ∃ m, m = (if fromMarch < 10 then fromMarch + 3 else fromMarch - 9) := ⟨_, rfl⟩
  obtain ⟨day, hday'⟩ : ∃ d, d = n - (153 * fromMarch + 2) / 5 + 1 := ⟨_, rfl⟩
  obtain ⟨hmem, hearly, hback, hpos, hle, hshort, hfebruary⟩ :=
    month_of_day n hn366 fromMarch month day hfrom hmonth hday'
  have hdate : ofDays days =
      ⟨e.year + era * 400 + (if month ≤ 2 then 1 else 0), month, day⟩ := by
    simp only [ofDays, hera, hday, e.year_eq, e.number_sub_years, hn]
    have hfrom' : (5 * (n : Int) + 2) / 153 = fromMarch := by omega
    have hmonth' : (if (fromMarch : Int) < 10 then (fromMarch : Int) + 3 else fromMarch - 9) =
        month := by
      rw [hmonth]
      split <;> split <;> omega
    have hday'' : (n : Int) - (153 * fromMarch + 2) / 5 + 1 = day := by omega
    rw [hfrom', hmonth', hday'']
    simp only [Int.toNat_natCast, CivilDate.mk.injEq, and_self, and_true]
    omega
  rw [hdate]
  refine ⟨rfl, hmem, ?_, ?_, ⟨hpos, hle⟩, hshort, ?_⟩
  · rw [hn, hearly]
    omega
  · rw [hn]
    show ((((153 * ((month + 9) % 12) + 2) / 5 : Nat) : Int) + day = n + 1)
    omega
  · intro htwo
    rcases hfebruary htwo with hday | ⟨hlast, hday⟩
    · exact .inl hday
    · exact .inr ⟨by omega, hday⟩

/-- A date leads back to its day. -/
theorem IsDateOf.toDays_eq (hd : date.IsDateOf e era)
    (h : days + 719468 = 146097 * era + e.number) : date.toDays = days := by
  have hyear := e.year_mem
  have hnumber := e.number_sub_years
  have hfromMarch : (if date.month ≤ 2 then date.year - 1 else date.year) = e.year + era * 400 := by
    rw [hd.year]
    split <;> omega
  have hera : (e.year + era * 400) / 400 = era := by omega
  have hyearOfEra : (e.year + era * 400) % 400 = e.year := by omega
  have hmonth : ((date.month : Int) + 9) % 12 = ((date.month + 9) % 12 : Nat) := by omega
  simp only [toDays, hfromMarch, hera, hyearOfEra, hmonth]
  have hday := hd.day
  omega

@[simp] theorem toDays_ofDays (days : Int) : (ofDays days).toDays = days := by
  obtain ⟨era, e, h⟩ := exists_era days
  exact (isDateOf_ofDays h).toDays_eq h

theorem daysInMonth_le (year : Int) (month : Nat) : daysInMonth year month ≤ 31 := by
  rw [daysInMonth]
  split
  · split <;> omega
  · split <;> omega

/-- The month has the day. -/
theorem IsDateOf.day_le (hd : date.IsDateOf e era) :
    date.day ≤ daysInMonth date.year date.month := by
  rw [daysInMonth]
  split
  · next htwo =>
    rcases hd.february htwo with hday | ⟨hlast, hday⟩
    · split <;> omega
    · have hleap := e.isLeapYear_of_day_eq hlast era
      rw [hd.year, if_pos (Nat.le_of_eq htwo), hleap, if_pos rfl]
      exact Nat.le_of_eq hday
  · split
    · next hshort => exact hd.short hshort
    · exact hd.day_mem.2

/-- The days of the years that clocks can hold have valid dates. -/
theorem isValid_ofDays (hfirst : toDays ⟨-262143, 1, 1⟩ ≤ days)
    (hlast : days < toDays ⟨262143, 1, 1⟩) : (ofDays days).isValid = true := by
  have hfirst' : -96465292 ≤ days := hfirst
  have hlast' : days < 95026237 := hlast
  obtain ⟨era, e, h⟩ := exists_era days
  have hd := isDateOf_ofDays h
  have hyear : -262143 ≤ (ofDays days).year ∧ (ofDays days).year ≤ 262142 := by
    rw [hd.year]
    have hearly := hd.early
    have hc := e.centuries_mem
    have hq := e.cycles_mem
    have hk := e.years_mem
    have hday := e.day_mem
    have hera : -656 ≤ era ∧ era ≤ 655 := by
      have hnumber := e.number_mem
      omega
    rw [EraDay.number] at h
    rw [EraDay.year]
    -- the bounds cut through the first and the last era
    have hbounds : (era = -656 → 256 ≤ 100 * e.centuries + 4 * e.cycles + e.years) ∧
        (era = 655 → 100 * e.centuries + 4 * e.cycles + e.years ≤ 142) := by
      constructor <;> rintro rfl <;> omega
    split <;> omega
  simp only [isValid, Bool.and_eq_true, decide_eq_true_eq]
  exact ⟨⟨⟨⟨⟨hyear.1, hyear.2⟩, hd.month.1⟩, hd.month.2⟩, hd.day_mem.1⟩, hd.day_le⟩

end CivilDate

end CloudReconciler
