import VolunteerScreening.File
import VolunteerScreening.Library.Sweep

/-!
# Keeping a volunteer's requirement list correct

`syncVolunteerRequirements` visits the active definitions in order and
reconciles each instance with the volunteer's current roles, age and
prerequisites.  An instance is never removed; it is parked as not applicable
with a stated reason.
-/

namespace VolunteerScreening.Requirements

open Calendar Org

abbrev Instances := Pk → Option RequirementInstance

def reasonNoRole : String := "No current role requires this"

def reasonUnder18 : String := "Under 18 — no criminal record check required"

def reasonNoBirthDate : String := "Date of birth not recorded — age rule cannot be applied"

def ageExemptReason (volunteer : Volunteer) (definition : RequirementDefinition) : String :=
  if !volunteer.hasBirthDate then reasonNoBirthDate
  else if definition.isCrc then reasonUnder18
  else "Applies to adults (18+) only"

def prerequisiteReason (blockedBy : RequirementDefinition) : String :=
  Text.truncate 200 ("Not required until " ++ blockedBy.name ++ " is complete")

/-- Whether a prerequisite's instance still holds up what is gated behind it. -/
def blocks (prerequisite : RequirementDefinition) (prior : RequirementInstance) : Bool :=
  if prior.completedOn.isSome then false
  else if prior.status = .waived then false
  else if prior.status = .notApplicable ∧ !prerequisite.isGated then false
  else true

def unmetPrerequisite (catalogue : Catalogue) (rows : Instances)
    (definition : RequirementDefinition) : Option RequirementDefinition :=
  if !definition.isGated then none
  else
    match definition.mustFollow.bind catalogue.get with
    | none => none
    | some prerequisite =>
        if !prerequisite.isActive then none
        else
          match rows prerequisite.pk with
          | none => none
          | some prior => if blocks prerequisite prior then some prerequisite else none

def prerequisiteDeadline (catalogue : Catalogue) (rows : Instances)
    (definition : RequirementDefinition) : Option (Date × String) :=
  match nonzeroMonths definition.prerequisiteOffsetMonths,
      definition.mustFollow.bind catalogue.get with
  | some months, some prerequisite =>
      match (rows prerequisite.pk).bind (·.completedOn) with
      | none => none
      | some completedOn =>
          some (completedOn.addMonths months, Text.truncate 200
            (prerequisite.name ++ " was completed on " ++ completedOn.dayMonthYear ++
              s!"; this falls due {months} months later."))
  | _, _ => none

/-- Park an outstanding instance as not applicable, clearing any deadline with it. -/
def holdNotApplicable (row : RequirementInstance) (reason : String) : RequirementInstance :=
  { row with
    status := .notApplicable
    notApplicableReason := reason
    dueOn := none
    dueReason := "" }

/-- Keep a released gate's deadline in step with the date it was derived from; `none` when
nothing changes. -/
def refreshPrerequisiteDeadline (catalogue : Catalogue) (rows : Instances)
    (definition : RequirementDefinition) (row : RequirementInstance) :
    Option RequirementInstance :=
  match prerequisiteDeadline catalogue rows definition with
  | none => none
  | some (deadline, reason) =>
      if row.dueOn = some deadline then none
      else if RequirementInstance.isBefore row.dueOn deadline then none
      else some { row with dueOn := some deadline, dueReason := reason }

def activate (catalogue : Catalogue) (rows : Instances) (volunteer : Volunteer)
    (definition : RequirementDefinition) (row : RequirementInstance) : RequirementInstance :=
  let row := { row with status := .notStarted, notApplicableReason := "" }
  if definition.isCrc && definition.ageRule == .adultsOnly then
    match volunteer.eighteenthBirthdayTriggerDate with
    | some trigger =>
        { row with
          dueOn := some (trigger.addMonths turning18CrcDeadlineMonths)
          dueReason := "Turned 18 (from " ++ trigger.monthYear ++ "); the policy allows three " ++
            "months to submit a criminal record check." }
    | none => row
  else if definition.isGated then
    match prerequisiteDeadline catalogue rows definition with
    | some (deadline, reason) => { row with dueOn := some deadline, dueReason := reason }
    | none => row
  else row

/-- Move an existing instance between applicable and not-applicable states; `none` when nothing
changes. -/
def reconcileExisting (catalogue : Catalogue) (rows : Instances) (volunteer : Volunteer)
    (definition : RequirementDefinition) (row : RequirementInstance) (ageExempt : Bool)
    (blockedBy : Option RequirementDefinition) : Option RequirementInstance :=
  if ageExempt && row.status.isOutstanding then
    some (holdNotApplicable row (ageExemptReason volunteer definition))
  else
    match blockedBy with
    | some prerequisite =>
        if row.status.isOutstanding then
          some (holdNotApplicable row (prerequisiteReason prerequisite))
        else none
    | none =>
        if !ageExempt && row.status == .notApplicable then
          some (activate catalogue rows volunteer definition row)
        else if definition.isGated && row.completedOn.isNone && row.status.isOutstanding then
          refreshPrerequisiteDeadline catalogue rows definition row
        else none

/-- How many instances a sync created, updated and retired. -/
structure SyncCounts where
  created : Nat
  updated : Nat
  retired : Nat
  deriving DecidableEq, Repr

namespace SyncCounts

def zero : SyncCounts := ⟨0, 0, 0⟩

def add (first second : SyncCounts) : SyncCounts :=
  ⟨first.created + second.created, first.updated + second.updated,
    first.retired + second.retired⟩

end SyncCounts

/-- Whom and when a sync is about: what stays fixed while it runs. -/
structure SyncSubject where
  catalogue : Catalogue
  volunteer : Volunteer
  roles : List Role
  asOf : Date
  existing : Instances

namespace SyncSubject

variable (subject : SyncSubject)

def applies (definition : RequirementDefinition) : Bool :=
  definition.appliesToVolunteer subject.roles

def exempt (definition : RequirementDefinition) : Bool :=
  definition.isAgeExempt subject.volunteer subject.asOf

def turn (rows : Instances) (definition : RequirementDefinition) :
    Option RequirementInstance × SyncCounts :=
  let current := subject.existing definition.pk
  if !subject.applies definition then
    match current with
    | some row =>
        if row.status.isOutstanding then
          (some (holdNotApplicable row reasonNoRole), ⟨0, 0, 1⟩)
        else (some row, .zero)
    | none => (none, .zero)
  else
    let ageExempt := subject.exempt definition
    let blockedBy :=
      if ageExempt then none else unmetPrerequisite subject.catalogue rows definition
    match current with
    | none =>
        let row := RequirementInstance.fresh
        let row :=
          if ageExempt then
            { row with
              status := .notApplicable
              notApplicableReason := ageExemptReason subject.volunteer definition }
          else
            match blockedBy with
            | some prerequisite =>
                { row with
                  status := .notApplicable
                  notApplicableReason := prerequisiteReason prerequisite }
            | none => row
        (some row, ⟨1, 0, 0⟩)
    | some row =>
        match reconcileExisting subject.catalogue rows subject.volunteer definition row ageExempt
            blockedBy with
        | some changed => (some changed, ⟨0, 1, 0⟩)
        | none => (some row, .zero)

def result : Instances × SyncCounts :=
  subject.catalogue.active.foldl
    (fun (rows, counts) definition =>
      let (row, tally) := subject.turn rows definition
      (Function.update rows definition.pk row, counts.add tally))
    (subject.existing, .zero)

end SyncSubject

def syncSubject (settings : Settings) (asOf : Date) (file : VolunteerFile) : SyncSubject :=
  ⟨settings.catalogue, file.volunteer, file.activeRoles settings, asOf, file.requirementInstances⟩

def syncVolunteerRequirements (settings : Settings) (asOf : Date) (file : VolunteerFile) :
    VolunteerFile × SyncCounts :=
  let (rows, counts) := (syncSubject settings asOf file).result
  ({ file with requirementInstances := rows }, counts)

def synced (settings : Settings) (asOf : Date) (file : VolunteerFile) : VolunteerFile :=
  (syncVolunteerRequirements settings asOf file).1

theorem synced_eq (settings : Settings) (asOf : Date) (file : VolunteerFile) :
    synced settings asOf file =
      { file with requirementInstances := (syncSubject settings asOf file).result.1 } := rfl

def hasDependents (settings : Settings) (definition : Pk) : Bool :=
  settings.catalogue.definitions.any fun dependent =>
    dependent.mustFollow == some definition && dependent.dependencyMode == .gate &&
      dependent.isActive

def refreshDependents (settings : Settings) (today : Date) (definition : Pk)
    (file : VolunteerFile) : VolunteerFile :=
  if hasDependents settings definition then synced settings today file else file

theorem refreshDependents_eq (settings : Settings) (today : Date) (definition : Pk)
    (file : VolunteerFile) :
    refreshDependents settings today definition file =
      { file with
        requirementInstances :=
          (refreshDependents settings today definition file).requirementInstances } := by
  unfold refreshDependents
  split <;> rfl

end VolunteerScreening.Requirements

namespace VolunteerScreening.Work

open Requirements

/-- The transaction commits, and the queued resyncs run one after another. -/
def commit (ambient : Ambient) (work : Work) : VolunteerFile :=
  (synced ambient.settings ambient.today)^[work.resyncs] work.file

@[simp]
theorem commit_start (ambient : Ambient) (file : VolunteerFile) :
    (Work.start file).commit ambient = file := rfl

theorem commit_succ (ambient : Ambient) (file : VolunteerFile) (resyncs : Nat) :
    (Work.mk file (resyncs + 1)).commit ambient =
      (Work.mk (synced ambient.settings ambient.today file) resyncs).commit ambient := rfl

theorem commit_eq (ambient : Ambient) (work : Work) :
    work.commit ambient =
      { work.file with requirementInstances := (work.commit ambient).requirementInstances } := by
  obtain ⟨file, resyncs⟩ := work
  induction resyncs generalizing file with
  | zero => rfl
  | succ resyncs inductionHypothesis =>
      rw [commit_succ, inductionHypothesis, synced_eq]

end VolunteerScreening.Work
