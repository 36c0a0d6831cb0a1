import VolunteerScreening.Library.Calendar
import Mathlib.Order.Bounds.Defs

/-!
# Whole-month shifts

Months are numbered through the years, so that a shift adds to the month's
number.  A shift is the latest day of the month it leads to that does not pass
the day it starts from; it keeps the order of dates, and two shifts in a row
fall short of one only where the first of them clamps.
-/

namespace VolunteerScreening.Calendar

namespace Date

/-- The month of a date, counted through the years. -/
def monthNumber (date : Date) : Int := date.year * 12 + date.month.val

variable {first second : Date}

theorem monthNumber_eq_iff :
    first.monthNumber = second.monthNumber ↔
      first.year = second.year ∧ first.month = second.month := by
  have month := first.month.2
  have month' := second.month.2
  unfold monthNumber
  constructor
  · intro same
    exact ⟨by omega, Subtype.ext (by omega)⟩
  · rintro ⟨sameYear, sameMonth⟩
    rw [sameYear, sameMonth]

theorem lt_iff_monthNumber :
    first < second ↔ first.monthNumber < second.monthNumber ∨
      first.monthNumber = second.monthNumber ∧ first.day < second.day := by
  have short := le_trans first.day_le (monthLength_le _ _)
  have short' := le_trans second.day_le (monthLength_le _ _)
  have positive := first.day_pos
  have positive' := second.day_pos
  rw [lt_iff_serial]
  unfold serial monthNumber
  omega

theorem le_iff_monthNumber :
    first ≤ second ↔ first.monthNumber < second.monthNumber ∨
      first.monthNumber = second.monthNumber ∧ first.day ≤ second.day := by
  rw [← not_lt, lt_iff_monthNumber]
  omega

/-- A date is known by its month and its day. -/
theorem eq_of_monthNumber (sameMonth : first.monthNumber = second.monthNumber)
    (sameDay : first.day = second.day) : first = second := by
  apply le_antisymm
  · exact le_iff_monthNumber.mpr (.inr ⟨sameMonth, sameDay.le⟩)
  · exact le_iff_monthNumber.mpr (.inr ⟨sameMonth.symm, sameDay.ge⟩)

def monthDays (date : Date) : Nat := monthLength date.year date.month

theorem day_le_monthDays (date : Date) : date.day ≤ date.monthDays := date.day_le

theorem monthDays_congr (same : first.monthNumber = second.monthNumber) :
    first.monthDays = second.monthDays := by
  obtain ⟨sameYear, sameMonth⟩ := monthNumber_eq_iff.mp same
  rw [monthDays, monthDays, sameYear, sameMonth]

section Shift

variable (start : Date) (months more : Int)

@[simp]
theorem monthNumber_addMonths :
    (start.addMonths months).monthNumber = start.monthNumber + months := by
  unfold addMonths monthNumber
  dsimp only
  omega

/-- The day of a shifted date is the starting day, as far as the month reaches. -/
theorem day_addMonths :
    (start.addMonths months).day = min start.day (start.addMonths months).monthDays := rfl

theorem day_addMonths_le : (start.addMonths months).day ≤ start.day :=
  min_le_left _ _

/-- The latest day of its month that is not past the day of the start. -/
theorem isGreatest_addMonths :
    IsGreatest {date : Date |
      date.monthNumber = start.monthNumber + months ∧ date.day ≤ start.day}
      (start.addMonths months) := by
  refine ⟨⟨monthNumber_addMonths start months, day_addMonths_le start months⟩, ?_⟩
  rintro date ⟨inMonth, notPast⟩
  have sameMonth : date.monthNumber = (start.addMonths months).monthNumber := by
    rw [inMonth, monthNumber_addMonths]
  have within : date.day ≤ (start.addMonths months).monthDays := by
    rw [← monthDays_congr sameMonth]
    exact date.day_le_monthDays
  exact le_iff_monthNumber.mpr (.inr ⟨sameMonth, le_min notPast within⟩)

theorem addMonths_mono : Monotone (addMonths · months) := by
  intro first second ordered
  rw [le_iff_monthNumber] at ordered ⊢
  simp only [monthNumber_addMonths]
  rcases ordered with earlier | ⟨sameMonth, notLater⟩
  · exact .inl (by omega)
  · have sameTarget : (first.addMonths months).monthNumber =
        (second.addMonths months).monthNumber := by simp [sameMonth]
    refine .inr ⟨by omega, ?_⟩
    rw [day_addMonths, day_addMonths, monthDays_congr sameTarget]
    exact min_le_min_right _ notLater

variable {months more} in
theorem addMonths_lt_addMonths (fewer : months < more) :
    start.addMonths months < start.addMonths more := by
  apply lt_iff_monthNumber.mpr
  simp only [monthNumber_addMonths]
  exact .inl (by omega)

theorem monthNumber_addMonths_addMonths :
    ((start.addMonths months).addMonths more).monthNumber =
      (start.addMonths (months + more)).monthNumber := by
  simp only [monthNumber_addMonths]
  omega

/-- Two shifts in a row do not go past the one shift. -/
theorem addMonths_addMonths_le :
    (start.addMonths months).addMonths more ≤ start.addMonths (months + more) := by
  have sameMonth := monthNumber_addMonths_addMonths start months more
  refine le_iff_monthNumber.mpr (.inr ⟨sameMonth, ?_⟩)
  rw [day_addMonths _ more, day_addMonths _ (months + more), monthDays_congr sameMonth]
  exact min_le_min_right _ (day_addMonths_le start months)

/-- Two shifts in a row are the one shift, where the first does not clamp. -/
theorem addMonths_addMonths_of_day_eq (kept : (start.addMonths months).day = start.day) :
    (start.addMonths months).addMonths more = start.addMonths (months + more) := by
  have sameMonth := monthNumber_addMonths_addMonths start months more
  apply eq_of_monthNumber sameMonth
  rw [day_addMonths _ more, day_addMonths _ (months + more), monthDays_congr sameMonth, kept]

/-! ## Counting a window forwards and backwards -/

/-- Past the end of a window that is counted from its start. -/
theorem addMonths_lt_iff {date : Date} :
    start.addMonths months < date ↔ start.monthNumber + months < date.monthNumber ∨
      start.monthNumber + months = date.monthNumber ∧ start.day < date.day := by
  rw [lt_iff_monthNumber, monthNumber_addMonths]
  apply or_congr_right
  apply and_congr_right
  intro sameMonth
  have sameLength : (start.addMonths months).monthDays = date.monthDays :=
    monthDays_congr ((monthNumber_addMonths start months).trans sameMonth)
  have short := date.day_le_monthDays
  rw [day_addMonths, sameLength]
  omega

/-- Past the end of a window that is counted back from a date: a start on the last day of its
month stays inside for the whole of the month the window ends in. -/
theorem lt_addMonths_neg_iff {date : Date} :
    start < date.addMonths (-months) ↔ start.monthNumber + months < date.monthNumber ∨
      start.monthNumber + months = date.monthNumber ∧ start.day < date.day ∧
        start.day ≠ start.monthDays := by
  rw [lt_iff_monthNumber, monthNumber_addMonths]
  apply or_congr
  · omega
  · have short := start.day_le_monthDays
    constructor
    · rintro ⟨sameMonth, earlier⟩
      have sameLength : start.monthDays = (date.addMonths (-months)).monthDays :=
        monthDays_congr (sameMonth.trans (monthNumber_addMonths date (-months)).symm)
      rw [day_addMonths, ← sameLength] at earlier
      omega
    · rintro ⟨sameMonth, earlier, notLast⟩
      have sameMonth' : start.monthNumber = date.monthNumber + -months := by omega
      have sameLength : start.monthDays = (date.addMonths (-months)).monthDays :=
        monthDays_congr (sameMonth'.trans (monthNumber_addMonths date (-months)).symm)
      rw [day_addMonths, ← sameLength]
      omega

end Shift

end Date

end VolunteerScreening.Calendar
