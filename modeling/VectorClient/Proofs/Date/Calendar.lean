import VectorClient.Date.Calendar

/-!
# Days and their numbers

A day number is split into eras, centuries, leap cycles and years that start in March. The day of
the calendar at that place exists, and has that number.
-/

namespace VectorClient.Date

/-- Where a day lies among years that start in March. A cycle ends in a leap day unless the century
does, and a century ends in one only at the end of an era. -/
structure Place where
  era : Int
  century : Int
  cycle : Int
  year : Int
  day : Int
  century_range : 0 ≤ century ∧ century ≤ 3
  cycle_range : 0 ≤ cycle ∧ cycle ≤ 24
  year_range : 0 ≤ year ∧ year ≤ 3
  day_range : 0 ≤ day ∧ day ≤ 365
  leap_day : day = 365 → year = 3 ∧ (cycle < 24 ∨ century = 3)

namespace Place

def dayOfEra (p : Place) : Int := 36524 * p.century + 1461 * p.cycle + 365 * p.year + p.day

def yearOfEra (p : Place) : Int := 100 * p.century + 4 * p.cycle + p.year

def days (p : Place) : Int := p.era * Civil.daysPerEra + p.dayOfEra - Civil.epochShift

/-- The month, from 0 for March. -/
def month (p : Place) : Int := (5 * p.day + 2) / 153

def civil (p : Place) : Civil :=
  { year := p.yearOfEra + p.era * 400 + if p.month < 10 then 0 else 1
    month := (if p.month < 10 then p.month + 3 else p.month - 9).toNat
    day := (p.day - (153 * p.month + 2) / 5 + 1).toNat }

theorem exists_days (days : Int) : ∃ p : Place, p.days = days := by
  let shifted := days + Civil.epochShift
  let dayOfEra := shifted % 146097
  let century := min (dayOfEra / 36524) 3
  let inCentury := dayOfEra - 36524 * century
  let inCycle := inCentury % 1461
  let year := min (inCycle / 365) 3
  refine ⟨⟨shifted / 146097, century, inCentury / 1461, year, inCycle - 365 * year,
    ?_, ?_, ?_, ?_, ?_⟩, ?_⟩
  all_goals
    simp only [Place.days, Place.dayOfEra, Civil.daysPerEra, Civil.epochShift, shifted, dayOfEra,
      century, inCentury, inCycle, year]
    omega

variable (p : Place)

theorem dayOfEra_range : 0 ≤ p.dayOfEra ∧ p.dayOfEra < Civil.daysPerEra := by
  obtain ⟨era, century, cycle, year, day, _, _, _, _, _⟩ := p
  simp only [dayOfEra, Civil.daysPerEra]
  omega

theorem yearOfEra_range : 0 ≤ p.yearOfEra ∧ p.yearOfEra < 400 := by
  obtain ⟨era, century, cycle, year, day, _, _, _, _, _⟩ := p
  simp only [yearOfEra]
  omega

theorem month_range : 0 ≤ p.month ∧ p.month ≤ 11 := by
  have := p.day_range
  unfold month
  omega

theorem dayOfEra_sub_year :
    p.dayOfEra - (365 * p.yearOfEra + p.yearOfEra / 4 - p.yearOfEra / 100) = p.day := by
  obtain ⟨era, century, cycle, year, day, _, _, _, _, _⟩ := p
  simp only [dayOfEra, yearOfEra]
  omega

/-- Without its leap days an era is made of years of equal length. -/
theorem yearOfEra_eq :
    (p.dayOfEra - p.dayOfEra / 1460 + p.dayOfEra / 36524 - p.dayOfEra / 146096) / 365 =
      p.yearOfEra := by
  obtain ⟨era, century, cycle, year, day, _, _, _, _, _⟩ := p
  simp only [dayOfEra, yearOfEra]
  generalize number : 36524 * century + 1461 * cycle + 365 * year + day = n
  -- Near its end a cycle counts a day more, which the leap day makes up for.
  have cycles : n / 1460 = 25 * century + cycle ∧ day < 365 ∨
      n / 1460 = 25 * century + cycle + 1 ∧ 0 < day := by omega
  have centuries : n / 36524 - n / 146096 = century := by
    have last : n - 36524 * century < 36524 ∨ century = 3 ∧ n = 146096 := by omega
    rcases last with inside | ⟨rfl, rfl⟩
    · have notLast : n / 146096 = 0 := Int.ediv_eq_zero_of_lt (by omega) (by omega)
      omega
    · rfl
  omega

/-! ### Both directions -/

theorem ofDays_days : Civil.ofDays p.days = p.civil := by
  obtain ⟨first, last⟩ := p.dayOfEra_range
  have era : (p.days + Civil.epochShift).fdiv Civil.daysPerEra = p.era := by
    rw [days, Int.sub_add_cancel, Int.fdiv_eq_ediv_of_nonneg _ (by decide), Int.add_comm,
      Int.add_mul_ediv_right _ _ (by decide), Int.ediv_eq_zero_of_lt first last, Int.zero_add]
  have inEra : p.days + Civil.epochShift - p.era * Civil.daysPerEra = p.dayOfEra := by
    unfold days
    omega
  simp only [Civil.ofDays, era, inEra, yearOfEra_eq, dayOfEra_sub_year]
  have months := p.month_range
  simp only [civil, month] at months ⊢
  rw [Civil.mk.injEq]
  refine ⟨?_, rfl, rfl⟩
  split <;> split <;> omega

theorem toDays_civil : p.civil.toDays = p.days := by
  obtain ⟨first, last⟩ := p.yearOfEra_range
  obtain ⟨march, february⟩ := p.month_range
  have marchYear : (if p.civil.month ≤ 2 then p.civil.year - 1 else p.civil.year) =
      p.yearOfEra + p.era * 400 := by
    simp only [civil]
    split <;> split <;> omega
  have marchMonth : (if p.civil.month ≤ 2 then (p.civil.month : Int) + 9 else p.civil.month - 3) =
      p.month := by
    simp only [civil]
    split <;> split <;> omega
  have day : ((p.civil.day : Nat) : Int) = p.day - (153 * p.month + 2) / 5 + 1 := by
    have := p.day_range
    simp only [civil, month]
    omega
  have era : (p.yearOfEra + p.era * 400).fdiv 400 = p.era := by
    rw [Int.fdiv_eq_ediv_of_nonneg _ (by decide), Int.add_mul_ediv_right _ _ (by decide),
      Int.ediv_eq_zero_of_lt first last, Int.zero_add]
  have start := p.dayOfEra_sub_year
  simp only [Civil.toDays, marchYear, marchMonth, day, era, Int.add_sub_cancel, days]
  omega

theorem isLeapYear_of_leap_day (leap : p.day = 365) :
    isLeapYear (p.yearOfEra + p.era * 400 + 1) = true := by
  obtain ⟨era, century, cycle, year, day, _, _, _, _, last⟩ := p
  obtain ⟨rfl, placed⟩ := last leap
  simp only [isLeapYear, yearOfEra, Bool.and_eq_true, Bool.or_eq_true]
  refine ⟨decide_eq_true (by omega), ?_⟩
  rcases placed with inside | rfl
  · exact .inl (decide_eq_true (by omega))
  · rcases Int.lt_or_eq_of_le (show cycle ≤ 24 by omega) with inside | rfl
    · exact .inl (decide_eq_true (by omega))
    · exact .inr (decide_eq_true (by omega))

theorem day_le_daysInMonth : p.civil.day ≤ daysInMonth p.civil.year p.civil.month := by
  have months := p.month_range
  have bound := p.day_range
  have month_eq : p.month = (5 * p.day + 2) / 153 := rfl
  have cases : p.month = 0 ∨ p.month = 1 ∨ p.month = 2 ∨ p.month = 3 ∨ p.month = 4 ∨ p.month = 5 ∨
      p.month = 6 ∨ p.month = 7 ∨ p.month = 8 ∨ p.month = 9 ∨ p.month = 10 ∨ p.month = 11 := by
    omega
  rcases cases with m | m | m | m | m | m | m | m | m | m | m | m
  case inr.inr.inr.inr.inr.inr.inr.inr.inr.inr.inr =>
    -- February, which the leap day makes longer.
    by_cases leap : p.day = 365
    · have year := p.isLeapYear_of_leap_day leap
      simp [civil, m, daysInMonth, leap, year]
    · have short : p.civil.day ≤ 28 := by
        simp only [civil, m]
        omega
      have month_two : p.civil.month = 2 := by simp [civil, m]
      rw [month_two, daysInMonth]
      split <;> omega
  all_goals
    simp [civil, m, daysInMonth]
    omega

theorem isValid_civil : p.civil.isValid = true := by
  have months := p.month_range
  have bound := p.day_range
  have month_eq : p.month = (5 * p.day + 2) / 153 := rfl
  have month_valid : 1 ≤ p.civil.month ∧ p.civil.month ≤ 12 := by
    simp only [civil]
    split <;> omega
  have day_valid : 1 ≤ p.civil.day := by
    simp only [civil]
    omega
  simp only [Civil.isValid, Bool.and_eq_true, decide_eq_true_eq]
  exact ⟨⟨⟨month_valid.1, month_valid.2⟩, day_valid⟩, p.day_le_daysInMonth⟩

end Place

theorem Civil.month_le {c : Civil} (valid : c.isValid = true) : c.month ≤ 12 := by
  simp only [isValid, Bool.and_eq_true, decide_eq_true_eq] at valid
  exact valid.1.1.2

theorem Civil.day_le {c : Civil} (valid : c.isValid = true) : c.day ≤ 31 := by
  simp only [isValid, Bool.and_eq_true, decide_eq_true_eq] at valid
  refine Nat.le_trans valid.2 ?_
  unfold daysInMonth
  split
  · split <;> decide
  all_goals decide

theorem Civil.toDays_ofDays (days : Int) : (Civil.ofDays days).toDays = days := by
  obtain ⟨p, rfl⟩ := Place.exists_days days
  rw [p.ofDays_days, p.toDays_civil]

theorem Civil.isValid_ofDays (days : Int) : (Civil.ofDays days).isValid = true := by
  obtain ⟨p, rfl⟩ := Place.exists_days days
  rw [p.ofDays_days, p.isValid_civil]

end VectorClient.Date
