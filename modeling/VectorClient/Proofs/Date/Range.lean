import VectorClient.Proofs.Date.Text
import VectorClient.Property.Wire

/-!
# Dates that can be exchanged

Between the first second of the year 0 and the last of the year 9999 every date is read from its own
text as it was, and no other date is read from its text at all.
-/

namespace VectorClient

namespace Date

namespace Place

variable (p : Place)

/-- January and February belong to the year after the one in which their March year began. -/
theorem civil_year_eq :
    p.civil.year = p.yearOfEra + p.era * 400 + if p.day < 306 then 0 else 1 := by
  have march : p.month < 10 ↔ p.day < 306 := by
    unfold month
    omega
  simp only [civil, march]

theorem year_nonneg_iff : 0 ≤ p.civil.year ↔ Civil.toDays ⟨0, 1, 1⟩ ≤ p.days := by
  have first : Civil.toDays ⟨0, 1, 1⟩ = -719528 := by decide
  rw [first, civil_year_eq]
  obtain ⟨era, century, cycle, year, day, _, _, _, _, _⟩ := p
  simp only [days, dayOfEra, yearOfEra, Civil.daysPerEra, Civil.epochShift]
  split <;> omega

theorem year_le_iff : p.civil.year ≤ 9999 ↔ p.days < Civil.toDays ⟨10000, 1, 1⟩ := by
  have next : Civil.toDays ⟨10000, 1, 1⟩ = 2932897 := by decide
  rw [next, civil_year_eq]
  obtain ⟨era, century, cycle, year, day, _, _, _, _, _⟩ := p
  simp only [days, dayOfEra, yearOfEra, Civil.daysPerEra, Civil.epochShift]
  split <;> omega

end Place

theorem Civil.year_nonneg_iff {days : Int} :
    0 ≤ (Civil.ofDays days).year ↔ Civil.toDays ⟨0, 1, 1⟩ ≤ days := by
  obtain ⟨p, rfl⟩ := Place.exists_days days
  rw [p.ofDays_days, p.year_nonneg_iff]

theorem Civil.year_le_iff {days : Int} :
    (Civil.ofDays days).year ≤ 9999 ↔ days < Civil.toDays ⟨10000, 1, 1⟩ := by
  obtain ⟨p, rfl⟩ := Place.exists_days days
  rw [p.ofDays_days, p.year_le_iff]

theorem hasPlainYear_iff {d : Date} :
    d.HasPlainYear ↔ Civil.toDays ⟨0, 1, 1⟩ * secondsPerDay ≤ d.seconds ∧
      d.seconds < Civil.toDays ⟨10000, 1, 1⟩ * secondsPerDay := by
  have seconds := d.seconds_eq
  have inDay := d.secondOfDay_lt
  rw [HasPlainYear, civil, Civil.year_nonneg_iff, Civil.year_le_iff]
  unfold secondsPerDay at seconds ⊢
  omega

end Date

/-! ### Both directions -/

theorem readDate_text {d : Date} (plain : d.HasPlainYear) : readDate d.text = .ok d := by
  rw [readDate, Date.read?_text plain]

theorem readDate_text_of_not_plain {d : Date} (notPlain : ¬ d.HasPlainYear) :
    readDate d.text = .error (.wireDecode (.date d.text)) := by
  rw [readDate, Date.read?_text_of_not_plain notPlain]

/-- A date of the years 0 to 9999 is read from its text as it was, down to the nanosecond and with
its leap second, and the text of any other date is refused. The bounds are the first seconds of the
years 0 and 10000. -/
theorem readDate_text_exact (d : Date) :
    readDate d.text = (if 0 ≤ d.civil.year ∧ d.civil.year ≤ 9999 then .ok d
      else .error (.wireDecode (.date d.text))) ∧
    (0 ≤ d.civil.year ∧ d.civil.year ≤ 9999 ↔
      Date.Civil.toDays ⟨0, 1, 1⟩ * Date.secondsPerDay ≤ d.seconds ∧
        d.seconds < Date.Civil.toDays ⟨10000, 1, 1⟩ * Date.secondsPerDay) := by
  refine ⟨?_, Date.hasPlainYear_iff⟩
  split
  case isTrue plain => exact readDate_text plain
  case isFalse notPlain => exact readDate_text_of_not_plain notPlain

/-- Half a second into the leap second at the end of 2016, and the second before the year 0. -/
example :
    Date.text ⟨1483228799, 1500000000, by decide⟩ = "2016-12-31T23:59:60.500Z" ∧
      Date.text ⟨-62167219201, 0, by decide⟩ = "-0001-12-31T23:59:59Z" := by
  decide +kernel

end VectorClient
