import VolunteerScreening.Requirements.Onboarding

/-!
# The onboarding window

The window is three months long, and is counted back from today.  Counted
forward from the earliest date, as deadlines are, it would end on the same day,
except where that date is the last of its month.
-/

namespace VolunteerScreening.Requirements

open Calendar

/-- Whether a day is past the window that is counted forward from the earliest date. -/
def PastWindow (earliest asOf : Date) : Prop :=
  ∃ limit, addMonthsTo earliest onboardingWindowMonths = some limit ∧ limit < asOf

def WindowCounted (settings : Settings) (isOnboarding : Pk → Bool) (file : VolunteerFile)
    (earliest asOf : Date) : Prop :=
  ∃ breached, onboardingWindowBreached settings isOnboarding file asOf = some breached ∧
    (breached = true ↔ PastWindow earliest asOf)

/-- The earliest date is the last of its month, and this a later day of the month in which the
window ends. -/
def SwallowedByMonthEnd (earliest asOf : Date) : Prop :=
  earliest.monthNumber + onboardingWindowMonths = asOf.monthNumber ∧
    earliest.day < asOf.day ∧ earliest.day = earliest.monthDays

theorem isDateYear_iff {year : Int} : isDateYear year = true ↔ 1 ≤ year ∧ year ≤ 9999 := by
  simp [isDateYear]

theorem pastWindow_iff {earliest asOf : Date} (began : isDateYear earliest.year = true)
    (asked : isDateYear asOf.year = true) :
    PastWindow earliest asOf ↔ earliest.addMonths onboardingWindowMonths < asOf := by
  constructor
  · rintro ⟨limit, made, past⟩
    obtain ⟨_, rfl⟩ := addMonthsTo_eq_some_iff.mp made
    exact past
  · intro past
    refine ⟨_, addMonthsTo_eq_some_iff.mpr ⟨?_, rfl⟩, past⟩
    rw [isDateYear_iff] at began asked ⊢
    have notLater := Date.year_le_of_le past.le
    have inYear : (earliest.addMonths onboardingWindowMonths).year =
        shiftedYear earliest onboardingWindowMonths := rfl
    have month := earliest.month.2
    rw [inYear] at notLater
    unfold shiftedYear onboardingWindowMonths at *
    omega

theorem lt_window_iff {earliest asOf : Date} :
    (earliest < asOf.addMonths (-onboardingWindowMonths) ↔
        earliest.addMonths onboardingWindowMonths < asOf) ↔
      ¬SwallowedByMonthEnd earliest asOf := by
  rw [Date.lt_addMonths_neg_iff, Date.addMonths_lt_iff, SwallowedByMonthEnd]
  by_cases last : earliest.day = earliest.monthDays
  · omega
  · simp [last]

/-- While approval is outstanding the window is counted like a deadline, unless there is no
day three months ago or a month's end swallows the difference. -/
theorem onboarding_window_iff {settings : Settings} {isOnboarding : Pk → Bool}
    {file : VolunteerFile} {earliest asOf : Date}
    (outstanding : leadershipApproved settings isOnboarding file = false)
    (least : IsLeast {date | date ∈ onboardingDates settings isOnboarding file} earliest)
    (began : isDateYear earliest.year = true) (asked : isDateYear asOf.year = true) :
    WindowCounted settings isOnboarding file earliest asOf ↔
      isDateYear (shiftedYear asOf (-onboardingWindowMonths)) = true ∧
        ¬SwallowedByMonthEnd earliest asOf := by
  unfold WindowCounted
  rw [onboardingWindowBreached_eq asOf outstanding least, addMonthsTo_eq,
    pastWindow_iff began asked, ← lt_window_iff]
  split
  · next inRange => simp [inRange]
  · next outOfRange => simp [outOfRange]

namespace Sample

open VolunteerScreening.Sample

def februaryEnd : Date := (Date.lastOf 2026 ⟨12, last_month⟩).addMonths 2

def mayEnd : Date := (Date.lastOf 2026 ⟨12, last_month⟩).addMonths 5

def onboarding : VolunteerFile :=
  (VolunteerFile.opened adult).saveInstance 1
    { RequirementInstance.fresh with status := .inProgress, startedOn := some februaryEnd }

theorem onboardingDates_onboarding :
    onboardingDates (settings orientationOnly) (fun _ => true) onboarding = [februaryEnd] := by
  decide +kernel

theorem least_onboarding :
    IsLeast {date | date ∈ onboardingDates (settings orientationOnly) (fun _ => true) onboarding}
      februaryEnd := by
  rw [onboardingDates_onboarding]
  simp [IsLeast, lowerBounds]

end Sample

open VolunteerScreening.Sample Sample in
theorem onboarding_window_in_june :
    WindowCounted (settings orientationOnly) (fun _ => true) onboarding februaryEnd
      (mayEnd.addMonths 1) := by
  refine (onboarding_window_iff (by decide +kernel) least_onboarding (by decide) (by decide)).mpr ?_
  refine ⟨by decide +kernel, ?_⟩
  rintro ⟨sameMonth, _⟩
  exact absurd sameMonth (by decide +kernel)

open VolunteerScreening.Sample Sample in
/-- Begun on 28 February, and on 31 May not past three months. -/
theorem onboarding_window_swallowed :
    leadershipApproved (settings orientationOnly) (fun _ => true) onboarding = false ∧
      IsLeast {date | date ∈
        onboardingDates (settings orientationOnly) (fun _ => true) onboarding} februaryEnd ∧
      onboardingWindowBreached (settings orientationOnly) (fun _ => true) onboarding mayEnd =
        some false ∧
      PastWindow februaryEnd mayEnd :=
  ⟨by decide +kernel, least_onboarding, by decide +kernel,
    februaryEnd.addMonths 3, by decide +kernel, by decide +kernel⟩

end VolunteerScreening.Requirements
