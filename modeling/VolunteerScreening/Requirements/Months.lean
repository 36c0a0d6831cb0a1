import VolunteerScreening.Library.Months
import VolunteerScreening.Requirements.Models

/-!
# Month arithmetic within the years a date can have

The shift by whole months as the code computes it: it raises where the year it
arrives at is not one that a date can have.
-/

namespace VolunteerScreening.Requirements

open Calendar

def isDateYear (year : Int) : Bool := 1 ≤ year && year ≤ 9999

def shiftedYear (start : Date) (months : Int) : Int :=
  start.year + ((start.month.val : Int) - 1 + months) / 12

theorem month_of_index (monthIndex : Int) :
    1 ≤ (monthIndex % 12).toNat + 1 ∧ (monthIndex % 12).toNat + 1 ≤ 12 := by omega

theorem clamped_pos (start : Date) (year : Int) (month : Month) :
    1 ≤ min start.day (monthLength year month) :=
  le_min start.day_pos (monthLength_pos year month)

theorem clamped_le (start : Date) (year : Int) (month : Month) :
    min start.day (monthLength year month) ≤ monthLength year month := min_le_right _ _

def addMonthsTo (start : Date) (months : Int) : Option Date :=
  let monthIndex := (start.month.val : Int) - 1 + months
  let year := start.year + monthIndex / 12
  let month : Month := ⟨(monthIndex % 12).toNat + 1, month_of_index monthIndex⟩
  if isDateYear year then
    some ⟨year, month, min start.day (monthLength year month), clamped_pos start year month,
      clamped_le start year month⟩
  else none

example : (addMonthsTo (.early 2026 ⟨1, first_month⟩ 27) (-12 * 2025)).isSome = true := by decide

theorem addMonthsTo_eq (start : Date) (months : Int) :
    addMonthsTo start months =
      if isDateYear (shiftedYear start months) then some (start.addMonths months) else none := rfl

theorem addMonthsTo_eq_some_iff {start shifted : Date} {months : Int} :
    addMonthsTo start months = some shifted ↔
      isDateYear (shiftedYear start months) = true ∧ start.addMonths months = shifted := by
  rw [addMonthsTo_eq]
  split
  · next inRange => simp [inRange]
  · next outOfRange => simp [outOfRange]

theorem RequirementDefinition.expiryFor_eq (definition : RequirementDefinition)
    (completedOn : Date)
    (inRange : ∀ months ∈ nonzeroMonths definition.intervalMonths,
      isDateYear (shiftedYear completedOn months) = true) :
    definition.expiryFor completedOn =
      (nonzeroMonths definition.intervalMonths).bind (addMonthsTo completedOn ·) := by
  unfold expiryFor
  cases interval : nonzeroMonths definition.intervalMonths with
  | none => rfl
  | some months =>
      have valid := inRange months interval
      change some (completedOn.addMonths months) = addMonthsTo completedOn months
      rw [addMonthsTo_eq, if_pos valid]

end VolunteerScreening.Requirements
