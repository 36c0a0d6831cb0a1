import VolunteerScreening.Requirements.Sync

/-!
# The nightly sweep of one file

A serving volunteer's requirements are synced, the checks of those who have
turned 18 are switched on, and every status is brought in line with the date.
-/

namespace VolunteerScreening.Requirements

open Calendar Org

def turns18 (settings : Settings) (asOf : Date) (file : VolunteerFile) (rows : Instances)
    (definition : RequirementDefinition) : Bool :=
  definition.ageRule == .adultsOnly && file.volunteer.hasBirthDate &&
    file.volunteer.isAdultOn asOf && definition.appliesToVolunteer (file.activeRoles settings) &&
    (unmetPrerequisite settings.catalogue rows definition).isNone

/-- Activate the requirements an age exemption held, for a volunteer who has now turned 18. -/
def activateTurning18Checks (settings : Settings) (asOf : Date) (file : VolunteerFile) :
    VolunteerFile :=
  { file with
    requirementInstances := settings.catalogue.active.foldl
      (fun rows definition =>
        match file.requirementInstances definition.pk with
        | some row =>
            if row.status = .notApplicable ∧ turns18 settings asOf file rows definition then
              Function.update rows definition.pk
                (some (activate settings.catalogue rows file.volunteer definition row))
            else rows
        | none => rows)
      file.requirementInstances }

def recomputeAllStatuses (asOf : Date) (file : VolunteerFile) : VolunteerFile :=
  { file with
    requirementInstances := fun pk => (file.requirementInstances pk).map (·.recompute asOf) }

/-- The sweep passes over those who no longer serve. -/
def sweepVolunteer (settings : Settings) (asOf : Date) (file : VolunteerFile) : VolunteerFile :=
  if file.volunteer.isActive then
    recomputeAllStatuses asOf
      (activateTurning18Checks settings asOf (synced settings asOf file))
  else file

theorem activateTurning18Checks_row (settings : Settings) (asOf : Date) (file : VolunteerFile)
    (pk : Pk) :
    ((activateTurning18Checks settings asOf file).requirementInstances pk).isSome =
        (file.requirementInstances pk).isSome ∧
      ∀ row, file.requirementInstances pk = some row → row.status ≠ .notApplicable →
        (activateTurning18Checks settings asOf file).requirementInstances pk = some row := by
  unfold activateTurning18Checks
  refine List.foldlRecOn (motive := fun rows : Instances =>
    (rows pk).isSome = (file.requirementInstances pk).isSome ∧
      ∀ row, file.requirementInstances pk = some row → row.status ≠ .notApplicable →
        rows pk = some row) _ _ ⟨rfl, fun _ present _ => present⟩ ?_
  intro rows kept definition _
  cases present : file.requirementInstances definition.pk with
  | none => exact kept
  | some parked =>
      dsimp only
      by_cases switched : parked.status = .notApplicable ∧
          turns18 settings asOf file rows definition = true
      · rw [if_pos switched]
        by_cases self : pk = definition.pk
        · subst self
          refine ⟨by rw [Function.update_self, present]; rfl, ?_⟩
          intro row found unparked
          rw [present] at found
          cases found
          exact absurd switched.1 unparked
        · rw [Function.update_of_ne self]
          exact kept
      · rw [if_neg switched]
        exact kept

@[simp]
theorem activateTurning18Checks_volunteer (settings : Settings) (asOf : Date)
    (file : VolunteerFile) :
    (activateTurning18Checks settings asOf file).volunteer = file.volunteer := rfl

end VolunteerScreening.Requirements
