import VolunteerScreening.Requirements.Sync
import VolunteerScreening.Review.Recording

/-!
# Recording progress on a requirement

Completing, starting, waiving, and reversing a waiver.  Each writes one
instance, may open a review item, and re-derives what is gated behind it.
-/

namespace VolunteerScreening.Requirements

open Calendar Fallible Org Review

def snapshot (row : RequirementInstance) : InstanceSnapshot :=
  ⟨row.status, row.startedOn, row.completedOn, row.expiresOn, row.dueOn, row.dueReason⟩

def instanceState (row : RequirementInstance) : Snapshot :=
  { Snapshot.empty with requirement := some (snapshot row) }

/-- The label every entry about an instance uses: person and requirement. -/
def label (file : VolunteerFile) (definition : RequirementDefinition) : String :=
  file.volunteer.displayName ++ " — " ++ definition.name

def fetchInstance (ambient : Ambient) (pk : Pk) (file : VolunteerFile) :
    Except Refusal (RequirementDefinition × RequirementInstance) :=
  match ambient.settings.catalogue.get pk, file.requirementInstances pk with
  | some definition, some row => .ok (definition, row)
  | _, _ => .error .notFound

theorem fetchInstance_eq_ok_iff {ambient : Ambient} {pk : Pk} {file : VolunteerFile}
    {found : RequirementDefinition × RequirementInstance} :
    fetchInstance ambient pk file = .ok found ↔
      ambient.settings.catalogue.get pk = some found.1 ∧
        file.requirementInstances pk = some found.2 := by
  unfold fetchInstance
  cases ambient.settings.catalogue.get pk <;> cases file.requirementInstances pk <;>
    simp [Prod.ext_iff]

/-- Nobody records against their own file while somebody else could. -/
def refuseSelfRecording (ambient : Ambient) (file : VolunteerFile) : Except Refusal Unit :=
  Core.refuseSelfRecording ambient.settings.administration ambient.actor file.volunteer.userId

def markRequirementComplete (ambient : Ambient) (pk : Pk) (completedOn : Date) (notes : String)
    (openReview : Bool) (file : VolunteerFile) : Except Refusal VolunteerFile := do
  let (definition, row) ← fetchInstance ambient pk file
  refuseSelfRecording ambient file
  refuseIf (row.status = .blocked)
    (Refusal.invalid ("This requirement is blocked pending the outcome of a criminal record " ++
      "check and cannot be marked complete."))
  refuseIf (ambient.today < completedOn) (Refusal.field "completed_on" "Cannot be in the future.")
  let file := file.saveInstance pk (row.markComplete definition completedOn notes)
  let file ← openReviewWhen openReview ambient
    ⟨.requirementCompletion, .requirementInstance pk, label file definition, instanceState row,
      none⟩ file
  return refreshDependents ambient.settings ambient.today pk file

theorem markRequirementComplete_ok {ambient : Ambient} {pk : Pk} {completedOn : Date}
    {notes : String} {openReview : Bool} {file after : VolunteerFile}
    (success : markRequirementComplete ambient pk completedOn notes openReview file = .ok after) :
    ∃ definition row, ambient.settings.catalogue.get pk = some definition ∧
      file.requirementInstances pk = some row ∧ row.status ≠ .blocked ∧
      completedOn ≤ ambient.today ∧
      after = refreshDependents ambient.settings ambient.today pk
        { file.saveInstance pk (row.markComplete definition completedOn notes) with
          reviewItems :=
            if openReview then
              queueAfter ambient ⟨.requirementCompletion, .requirementInstance pk,
                label file definition, instanceState row, none⟩ file
            else file.reviewItems } := by
  obtain ⟨⟨definition, row⟩, found, success⟩ := bind_eq_ok_iff.mp success
  obtain ⟨_, _, success⟩ := bind_eq_ok_iff.mp success
  obtain ⟨_, unblocked, success⟩ := bind_eq_ok_iff.mp success
  obtain ⟨_, notFuture, success⟩ := bind_eq_ok_iff.mp success
  simp only [openReviewWhen_eq, ok_bind, pure_eq_ok_iff] at success
  obtain ⟨listed, present⟩ := fetchInstance_eq_ok_iff.mp found
  exact ⟨definition, row, listed, present, refuseIf_eq_ok_iff.mp unblocked,
    not_lt.mp (refuseIf_eq_ok_iff.mp notFuture), success.symm⟩

def startRequirement (ambient : Ambient) (pk : Pk) (file : VolunteerFile) :
    Except Refusal VolunteerFile := do
  let (_, row) ← fetchInstance ambient pk file
  let started := { row with
    startedOn := some ambient.today
    status := if row.status = .notStarted then .inProgress else row.status }
  return if row.status = .notStarted ∨ row.status = .overdue then file.saveInstance pk started
    else file

def waivedRow (row : RequirementInstance) (reason waivedBy : String) (today : Date) :
    RequirementInstance :=
  { row with
    status := .waived
    waivedReason := reason
    waivedBy := Text.truncate 150 waivedBy
    waivedOn := some today
    dueOn := none
    dueReason := "" }

/-- Waive a requirement.  The criminal record check cannot be waived. -/
def waiveRequirement (ambient : Ambient) (pk : Pk) (reason waivedBy : String)
    (file : VolunteerFile) : Except Refusal VolunteerFile := do
  let (definition, row) ← fetchInstance ambient pk file
  refuseSelfRecording ambient file
  refuseIf (Text.isBlank reason)
    (Refusal.field "reason" "A waiver must record why it was granted.")
  refuseIf definition.isCrc
    (Refusal.invalid ("A criminal record check cannot be waived. Volunteers under 18 are exempt " ++
      "automatically; adults in a position of trust must have a current check."))
  let file := file.saveInstance pk (waivedRow row reason waivedBy ambient.today)
  let file ← openIfUnverified ambient
    ⟨.waiver, .requirementInstance pk, label file definition, instanceState row, none⟩ file
  return refreshDependents ambient.settings ambient.today pk file

theorem waiveRequirement_ok {ambient : Ambient} {pk : Pk} {reason waivedBy : String}
    {file after : VolunteerFile}
    (success : waiveRequirement ambient pk reason waivedBy file = .ok after) :
    ∃ definition row, ambient.settings.catalogue.get pk = some definition ∧
      file.requirementInstances pk = some row ∧ definition.isCrc = false ∧
      after = refreshDependents ambient.settings ambient.today pk
        { file.saveInstance pk (waivedRow row reason waivedBy ambient.today) with
          reviewItems := queueAfter ambient ⟨.waiver, .requirementInstance pk,
            label file definition, instanceState row, none⟩ file } := by
  obtain ⟨⟨definition, row⟩, found, success⟩ := bind_eq_ok_iff.mp success
  obtain ⟨_, _, success⟩ := bind_eq_ok_iff.mp success
  obtain ⟨_, _, success⟩ := bind_eq_ok_iff.mp success
  obtain ⟨_, waivable, success⟩ := bind_eq_ok_iff.mp success
  simp only [openIfUnverified_eq, ok_bind, pure_eq_ok_iff] at success
  obtain ⟨listed, present⟩ := fetchInstance_eq_ok_iff.mp found
  refine ⟨definition, row, listed, present, ?_, success.symm⟩
  simpa using refuseIf_eq_ok_iff.mp waivable

def unwaivedRow (row : RequirementInstance) (restoreDue : Option (Option Date × String)) :
    RequirementInstance :=
  let row := { row with
    status := row.statusAfterReversal
    waivedReason := ""
    waivedBy := ""
    waivedOn := none }
  match restoreDue with
  | some (dueOn, dueReason) => { row with dueOn := dueOn, dueReason := dueReason }
  | none => row

/-- Undo a waiver.  A caller with a snapshot gives the deadline back as well. -/
def reverseWaiver (ambient : Ambient) (pk : Pk) (reason : String)
    (restoreDue : Option (Option Date × String)) (file : VolunteerFile) :
    Except Refusal VolunteerFile := do
  let (_, row) ← fetchInstance ambient pk file
  refuseIf (row.status ≠ .waived)
    (Refusal.invalid "This requirement is not waived, so there is nothing to reverse.")
  refuseIf (Text.isBlank reason) (Refusal.field "reason" "Say why this waiver is being reversed.")
  let file := file.saveInstance pk ((unwaivedRow row restoreDue).recompute ambient.today)
  return refreshDependents ambient.settings ambient.today pk file

theorem reverseWaiver_eq_ok_iff {ambient : Ambient} {pk : Pk} {reason : String}
    {restoreDue : Option (Option Date × String)} {file after : VolunteerFile} :
    reverseWaiver ambient pk reason restoreDue file = .ok after ↔
      ∃ definition row, ambient.settings.catalogue.get pk = some definition ∧
        file.requirementInstances pk = some row ∧ row.status = .waived ∧
        Text.isBlank reason = false ∧
        after = refreshDependents ambient.settings ambient.today pk
          (file.saveInstance pk ((unwaivedRow row restoreDue).recompute ambient.today)) := by
  unfold reverseWaiver
  simp only [bind_eq_ok_iff, fetchInstance_eq_ok_iff, refuseIf_eq_ok_iff, pure_eq_ok_iff]
  constructor
  · rintro ⟨⟨definition, row⟩, ⟨defined, present⟩, _, waived, _, explained, written⟩
    exact ⟨definition, row, defined, present, by simpa using waived, by simpa using explained,
      written.symm⟩
  · rintro ⟨definition, row, defined, present, waived, explained, rfl⟩
    exact ⟨(definition, row), ⟨defined, present⟩, (), by simpa using waived, (),
      by simp [explained], rfl⟩

theorem reverseWaiver_ok {ambient : Ambient} {pk : Pk} {reason : String}
    {restoreDue : Option (Option Date × String)} {file after : VolunteerFile}
    (success : reverseWaiver ambient pk reason restoreDue file = .ok after) :
    ∃ row, file.requirementInstances pk = some row ∧ row.status = .waived ∧
      after = refreshDependents ambient.settings ambient.today pk
        (file.saveInstance pk ((unwaivedRow row restoreDue).recompute ambient.today)) := by
  obtain ⟨_, row, _, present, waived, _, written⟩ := reverseWaiver_eq_ok_iff.mp success
  exact ⟨row, present, waived, written⟩

theorem startRequirement_ok {ambient : Ambient} {pk : Pk} {file after : VolunteerFile}
    (success : startRequirement ambient pk file = .ok after) :
    ∃ row, file.requirementInstances pk = some row ∧
      after = if row.status = .notStarted ∨ row.status = .overdue then
          file.saveInstance pk { row with
            startedOn := some ambient.today
            status := if row.status = .notStarted then .inProgress else row.status }
        else file := by
  obtain ⟨⟨_, row⟩, found, success⟩ := bind_eq_ok_iff.mp success
  exact ⟨row, (fetchInstance_eq_ok_iff.mp found).2, (pure_eq_ok_iff.mp success).symm⟩

end VolunteerScreening.Requirements
