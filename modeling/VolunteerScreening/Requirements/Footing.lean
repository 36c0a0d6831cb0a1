import VolunteerScreening.Requirements.Progress
import VolunteerScreening.Requirements.Settling
import VolunteerScreening.Review.Decisions

/-!
# What an instance stands on

A waived instance stands on its waiver, any other on its completion if it has
one.  A sync moves neither.
-/

namespace VolunteerScreening.Requirements

open Calendar Fallible Org Review

inductive Footing where
  | waiver
  | completion
  | nothing
  deriving DecidableEq, Repr

/-- The footing of an instance that is not waived. -/
def Footing.ofCompletion (completedOn : Option Date) : Footing :=
  if completedOn.isSome then .completion else .nothing

def RequirementInstance.footing (row : RequirementInstance) : Footing :=
  if row.status = .waived then .waiver else .ofCompletion row.completedOn

/-- What an instance stands on; an absent one stands on nothing. -/
def footing (row : Option RequirementInstance) : Footing :=
  (row.map RequirementInstance.footing).getD .nothing

def footings (file : VolunteerFile) (pk : Pk) : Footing := footing (file.requirementInstances pk)

@[simp]
theorem footing_some (row : RequirementInstance) : footing (some row) = row.footing := rfl

namespace RequirementInstance

variable (row : RequirementInstance)

theorem footing_of_not_waived {row : RequirementInstance} (unwaived : row.status ≠ .waived) :
    row.footing = .ofCompletion row.completedOn := if_neg unwaived

theorem recompute_waived_iff (asOf : Date) :
    (row.recompute asOf).status = .waived ↔ row.status = .waived := by
  unfold recompute
  cases status : row.status <;> dsimp only <;> (try split) <;> simp [status]

@[simp]
theorem recompute_footing (asOf : Date) : (row.recompute asOf).footing = row.footing := by
  unfold footing
  simp only [recompute_waived_iff, recompute_completedOn]

theorem statusAfterReversal_ne_waived : row.statusAfterReversal ≠ .waived := by
  unfold statusAfterReversal
  split
  · decide
  · split <;> decide

@[simp]
theorem markComplete_footing (definition : RequirementDefinition) (completedOn : Date)
    (notes : String) : (row.markComplete definition completedOn notes).footing = .completion := rfl

end RequirementInstance

@[simp]
theorem waivedRow_footing (row : RequirementInstance) (reason waivedBy : String) (today : Date) :
    (waivedRow row reason waivedBy today).footing = .waiver := rfl

@[simp]
theorem unwaivedRow_footing (row : RequirementInstance)
    (restoreDue : Option (Option Date × String)) :
    (unwaivedRow row restoreDue).footing = .ofCompletion row.completedOn := by
  unfold unwaivedRow
  cases restoreDue <;>
    exact RequirementInstance.footing_of_not_waived row.statusAfterReversal_ne_waived

@[simp]
theorem restoredRow_footing (state : Snapshot) (row : RequirementInstance) :
    (restoredRow state row).footing = .ofCompletion state.completedOn :=
  RequirementInstance.footing_of_not_waived (RequirementInstance.statusAfterReversal_ne_waived _)

namespace SyncSubject

variable (subject : SyncSubject)

theorem turn_footing (rows : Instances) (definition : RequirementDefinition) :
    footing (subject.turn rows definition).1 = footing (subject.existing definition.pk) := by
  cases current : subject.existing definition.pk with
  | none =>
      rw [subject.turn_of_none rows definition current]
      cases subject.applies definition
      · rfl
      · unfold createdRow
        cases subject.parkingReason rows definition <;> rfl
  | some row =>
      rw [(subject.turn_of_some rows definition current).1]
      have waived : (subject.reconciled rows definition row).status = .waived ↔
          row.status = .waived := by
        rw [reconciled_status]
        split
        · rfl
        · next undecided =>
            simp only [not_or] at undecided
            split
            · simp [undecided.2]
            · split <;> simp [undecided.2]
      simp [RequirementInstance.footing, waived]

theorem result_footing (pk : Pk) :
    footing (subject.result.1 pk) = footing (subject.existing pk) := by
  obtain same | ⟨definition, listed, rfl⟩ := subject.result_cases pk
  · rw [same]
  · rw [subject.result_of_mem definition listed]
    exact subject.turn_footing _ definition

end SyncSubject

@[simp]
theorem synced_footings (settings : Settings) (asOf : Date) (file : VolunteerFile) :
    footings (synced settings asOf file) = footings file :=
  funext fun pk => (syncSubject settings asOf file).result_footing pk

@[simp]
theorem refreshDependents_footings (settings : Settings) (today : Date) (pk : Pk)
    (file : VolunteerFile) :
    footings (refreshDependents settings today pk file) = footings file := by
  unfold refreshDependents
  split
  · exact synced_footings settings today file
  · rfl

theorem saveInstance_footings (file : VolunteerFile) (pk : Pk) (row : RequirementInstance) :
    footings (file.saveInstance pk row) = Function.update (footings file) pk row.footing := by
  funext other
  by_cases same : other = pk
  · subst same
    rw [Function.update_self]
    unfold footings
    rw [VolunteerFile.saveInstance_self]
    rfl
  · rw [Function.update_of_ne same]
    unfold footings
    rw [VolunteerFile.saveInstance_other _ same]

theorem restoreFromSnapshot_footings (ambient : Ambient) (pk : Pk) (state : Snapshot)
    {file : VolunteerFile} (present : (file.requirementInstances pk).isSome = true) :
    footings (restoreFromSnapshot ambient pk state file) =
      Function.update (footings file) pk (.ofCompletion state.completedOn) := by
  obtain ⟨row, found⟩ := Option.isSome_iff_exists.mp present
  rw [restoreFromSnapshot_of_some ambient state found, refreshDependents_footings,
    saveInstance_footings]
  simp

end VolunteerScreening.Requirements
