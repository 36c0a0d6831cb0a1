import VolunteerScreening.File
import VolunteerScreening.Requirements.Months

/-!
# The onboarding window

A volunteer's onboarding should be through within three months.  Whether it has
run past them is worked out from the dates on the instances of the onboarding
requirements in force, while leadership approval is outstanding.
-/

namespace VolunteerScreening.Requirements

open Calendar

def onboardingWindowMonths : Int := 3

section

variable (settings : Settings) (isOnboarding : Pk → Bool) (file : VolunteerFile)

def onboardingInstances : List (RequirementDefinition × RequirementInstance) :=
  (settings.catalogue.active.filter (isOnboarding ·.pk)).filterMap fun definition =>
    (file.requirementInstances definition.pk).map (definition, ·)

def approvalInstances : List (RequirementDefinition × RequirementInstance) :=
  (onboardingInstances settings isOnboarding file).filter fun entry =>
    entry.1.requirementType == .leadershipApproval

def leadershipApproved : Bool :=
  !(approvalInstances settings isOnboarding file).isEmpty &&
    (approvalInstances settings isOnboarding file).all fun entry =>
      RequirementStatus.satisfiedValues.contains entry.2.status

def onboardingDates : List Date :=
  (onboardingInstances settings isOnboarding file).flatMap fun entry =>
    entry.2.startedOn.toList ++ entry.2.completedOn.toList

/-- Whether onboarding has run past the policy's window; `none` where the date arithmetic
raises. -/
def onboardingWindowBreached (asOf : Date) : Option Bool :=
  if (onboardingInstances settings isOnboarding file).isEmpty then some false
  else if leadershipApproved settings isOnboarding file then some false
  else
    match (onboardingDates settings isOnboarding file).min? with
    | none => some false
    | some earliest =>
        (addMonthsTo asOf (-onboardingWindowMonths)).map fun opened => earliest < opened

end

variable {settings : Settings} {isOnboarding : Pk → Bool} {file : VolunteerFile}

theorem onboardingWindowBreached_eq {earliest : Date} (asOf : Date)
    (outstanding : leadershipApproved settings isOnboarding file = false)
    (least : IsLeast {date | date ∈ onboardingDates settings isOnboarding file} earliest) :
    onboardingWindowBreached settings isOnboarding file asOf =
      (addMonthsTo asOf (-onboardingWindowMonths)).map fun opened =>
        decide (earliest < opened) := by
  have some_row : (onboardingInstances settings isOnboarding file).isEmpty = false := by
    obtain ⟨entry, listed, _⟩ := List.mem_flatMap.mp least.1
    exact List.isEmpty_eq_false_iff_exists_mem.mpr ⟨entry, listed⟩
  have minimum : (onboardingDates settings isOnboarding file).min? = some earliest :=
    List.min?_eq_some_iff.mpr ⟨least.1, fun _ listed => least.2 listed⟩
  unfold onboardingWindowBreached
  rw [some_row, outstanding, minimum]
  rfl

end VolunteerScreening.Requirements
