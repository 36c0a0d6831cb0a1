import VolunteerScreening.Requirements.Months

/-!
# Month arithmetic

Every deadline is a shift by whole months.  What such a shift is, that it keeps
the order of dates, and what becomes of two in a row, for all the dates and all
the months that stay within the years a date can have.
-/

namespace VolunteerScreening.Requirements

open Calendar

/-- What a shift of this date by this many months has to be. -/
structure ShiftsByMonths (start : Date) (months : Int) (shifted : Date) : Prop where
  latest : IsGreatest {date : Date |
    date.monthNumber = start.monthNumber + months ∧ date.day ≤ start.day} shifted
  mono : ∀ later shiftedLater, start ≤ later →
    addMonthsTo later months = some shiftedLater → shifted ≤ shiftedLater
  strictMono : ∀ more shiftedMore, months < more →
    addMonthsTo start more = some shiftedMore → shifted < shiftedMore
  again : ∀ more, isDateYear (shiftedYear start (months + more)) = true →
    ∃ twice once, addMonthsTo shifted more = some twice ∧
      addMonthsTo start (months + more) = some once ∧ twice ≤ once ∧
      (shifted.day = start.day → twice = once)

theorem shiftedYear_addMonths (start : Date) (months more : Int) :
    shiftedYear (start.addMonths months) more = shiftedYear start (months + more) := by
  unfold shiftedYear Date.addMonths
  dsimp only
  omega

/-- Within the years a date can have, a shift is made, and it is what it has to be. -/
theorem add_months_to_shifts (start : Date) (months : Int)
    (inRange : isDateYear (shiftedYear start months) = true) :
    ∃ shifted, addMonthsTo start months = some shifted ∧ ShiftsByMonths start months shifted := by
  refine ⟨start.addMonths months, addMonthsTo_eq_some_iff.mpr ⟨inRange, rfl⟩, ?_, ?_, ?_, ?_⟩
  · exact start.isGreatest_addMonths months
  · intro later shiftedLater ordered made
    obtain ⟨_, rfl⟩ := addMonthsTo_eq_some_iff.mp made
    exact Date.addMonths_mono months ordered
  · intro more shiftedMore fewer made
    obtain ⟨_, rfl⟩ := addMonthsTo_eq_some_iff.mp made
    exact start.addMonths_lt_addMonths fewer
  · intro more inRange'
    refine ⟨(start.addMonths months).addMonths more, start.addMonths (months + more),
      addMonthsTo_eq_some_iff.mpr ⟨?_, rfl⟩, addMonthsTo_eq_some_iff.mpr ⟨inRange', rfl⟩, ?_, ?_⟩
    · rw [shiftedYear_addMonths]
      exact inRange'
    · exact start.addMonths_addMonths_le months more
    · exact start.addMonths_addMonths_of_day_eq months more

theorem add_months_to_shifts_january :
    ∃ shifted, addMonthsTo (.lastOf 2026 ⟨1, first_month⟩) 1 = some shifted ∧
      ShiftsByMonths (.lastOf 2026 ⟨1, first_month⟩) 1 shifted :=
  add_months_to_shifts (.lastOf 2026 ⟨1, first_month⟩) 1 (by decide)

end VolunteerScreening.Requirements
