import VolunteerScreening.Operations
import VolunteerScreening.Review.Queue

/-!
# What each operation enters in the queue

Every operation leaves the queue alone, enters one row of its own, or closes the
item it decides.
-/

namespace VolunteerScreening

open Calendar Documents Fallible Org Requirements Review

def Operation.row (file : VolunteerFile) : Operation → Option Entity
  | .markRequirementComplete definition _ _ => some (.requirementInstance definition)
  | .waiveRequirement definition _ _ => some (.requirementInstance definition)
  | .recordCrc _ => some (.crcRecord file.crcRecords.length)
  | .recordConvictions _ entries =>
      if entries.isEmpty then none else some (.disqualifyingConviction file.convictions.length)
  | .recordDiscretionaryOverride _ _ => some (.discretionaryOverride file.overrides.length)
  | .storeDocument _ => some (.document file.documents.length)
  | _ => none

theorem storeDocument_queueMove {ambient : Ambient} {entry : DocumentEntry}
    {file after : VolunteerFile} (success : storeDocument ambient entry file = .ok after) :
    QueueMove ambient file.reviewItems (some (.document file.documents.length))
      after.reviewItems := by
  obtain ⟨document, written, completed, recorded, rfl⟩ := storeDocument_ok success
  have same : written.reviewItems = file.reviewItems := by
    obtain rfl | ⟨_, _, _, _, rfl⟩ := recorded
    · rfl
    · rw [refreshDependents_eq]
      rfl
  exact .entered _ _ rfl same rfl

theorem recordCrc_queueMove {ambient : Ambient} {report : CheckReport} {file : VolunteerFile}
    {work : Work} (success : recordCrc ambient report file = .ok work) :
    QueueMove ambient file.reviewItems (some (.crcRecord file.crcRecords.length))
      work.file.reviewItems := by
  obtain ⟨_, _, written, blocked, rfl⟩ := recordCrc_ok success
  have same : written.file.reviewItems = file.reviewItems := by
    have checked : (checkWritten ambient report file).file.reviewItems = file.reviewItems := by
      rw [checkWritten_eq]
      rfl
    obtain ⟨rfl, _⟩ | ⟨_, _, _, rfl⟩ := setBlockFor_ok blocked <;> exact checked
  exact .entered _ _ rfl same rfl

theorem recordDiscretionaryOverride_queueMove {ambient : Ambient} {check : Nat}
    {entry : DecisionEntry} {file : VolunteerFile} {work : Work}
    (success : recordDiscretionaryOverride ambient check entry file = .ok work) :
    QueueMove ambient file.reviewItems (some (.discretionaryOverride file.overrides.length))
      work.file.reviewItems := by
  obtain ⟨_, written, _, decided, rfl, rfl⟩ := recordDiscretionaryOverride_ok success
  have same : written.file.reviewItems = file.reviewItems := by
    obtain withdrawn | ⟨_, rfl⟩ | ⟨_, rfl⟩ := applyDecision_ok decided
    · obtain ⟨_, rfl⟩ := withdraw_ok withdrawn
      rfl
    · rfl
    · rfl
  exact .entered _ _ rfl same rfl

theorem revert_reviewItems {ambient : Ambient} {item : ReviewItem} {reason : String}
    {work after : Work} {outcome : Outcome}
    (success : revert ambient item reason work = .ok (after, outcome)) :
    after.file.reviewItems = work.file.reviewItems := by
  obtain ⟨_, _, _, _, _, _, retracted⟩ | ⟨_, _, _, _, rfl⟩ := revert_ok success
  · rw [retractCheck_eq] at retracted
    cases retracted
    have rows : (retractedRows ambient item work.file).reviewItems = work.file.reviewItems := by
      rw [retractedRows_eq]
      cases item.beforeState.supersededById <;> rfl
    unfold lifted
    split <;> exact rows
  · rfl

theorem sendBack_queueMove {ambient : Ambient} {user : Core.User} {position : Nat}
    {reason : String} {file : VolunteerFile} {work : Work} {outcome : Outcome}
    (success : sendBack ambient user position reason file = .ok (work, outcome)) :
    QueueMove ambient file.reviewItems none work.file.reviewItems := by
  obtain ⟨item, reverted, listed, _, _, undone, rfl⟩ := sendBack_ok success
  have same : reverted.file.reviewItems = file.reviewItems := revert_reviewItems undone
  obtain ⟨outlasts, shut⟩ :=
    closed_outlasts item (by decide : ReviewStatus.sentBack ≠ .pending) (some user) reason
      ambient.now
  show QueueMove ambient file.reviewItems none (reverted.file.reviewItems.set position _)
  rw [same]
  exact .decided listed outlasts shut

theorem affirm_queueMove {ambient : Ambient} {user : Core.User} {position : Nat}
    {file after : VolunteerFile} (success : affirm ambient user position file = .ok after) :
    QueueMove ambient file.reviewItems none after.reviewItems := by
  obtain ⟨item, listed, _, _, rfl⟩ := affirm_ok success
  obtain ⟨outlasts, shut⟩ :=
    closed_outlasts item (by decide : ReviewStatus.affirmed ≠ .pending) (some user) "" ambient.now
  exact .decided listed outlasts shut

theorem perform_queueMove {ambient : Ambient} {operation : Operation} {file : VolunteerFile}
    {work : Work} (success : perform ambient operation file = .ok work) :
    QueueMove ambient file.reviewItems (operation.row file) work.file.reviewItems := by
  cases operation with
  | markRequirementComplete =>
      obtain ⟨_, written, rfl⟩ := map_eq_ok_iff.mp success
      obtain ⟨_, _, _, _, _, _, rfl⟩ := markRequirementComplete_ok written
      dsimp only [Work.start]
      rw [refreshDependents_eq]
      exact .entered _ _ rfl rfl rfl
  | startRequirement =>
      obtain ⟨_, written, rfl⟩ := map_eq_ok_iff.mp success
      obtain ⟨_, _, rfl⟩ := startRequirement_ok written
      dsimp only [Work.start]
      split <;> exact .kept
  | waiveRequirement =>
      obtain ⟨_, written, rfl⟩ := map_eq_ok_iff.mp success
      obtain ⟨_, _, _, _, _, rfl⟩ := waiveRequirement_ok written
      dsimp only [Work.start]
      rw [refreshDependents_eq]
      exact .entered _ _ rfl rfl rfl
  | reverseWaiver =>
      obtain ⟨_, written, rfl⟩ := map_eq_ok_iff.mp success
      obtain ⟨_, _, _, rfl⟩ := reverseWaiver_ok written
      dsimp only [Work.start]
      rw [refreshDependents_eq]
      exact .kept
  | recordCrc => exact recordCrc_queueMove success
  | recordConvictions check entries =>
      obtain ⟨created, _, _, rfl, rfl⟩ := recordConvictions_ok success
      unfold Operation.row
      dsimp only
      split
      · exact .kept
      · exact .entered _ _ rfl (convictionsWritten_reviewItems ambient created file) rfl
  | recordDiscretionaryOverride => exact recordDiscretionaryOverride_queueMove success
  | resolveNotClear =>
      obtain ⟨_, _, withdrawn | rfl⟩ := resolveNotClear_ok success
      · obtain ⟨_, rfl⟩ := withdraw_ok withdrawn
        exact .kept
      · exact .kept
  | storeDocument =>
      obtain ⟨_, written, rfl⟩ := map_eq_ok_iff.mp success
      exact storeDocument_queueMove written
  | affirm =>
      obtain ⟨_, written, rfl⟩ := map_eq_ok_iff.mp success
      exact affirm_queueMove written
  | sendBack =>
      obtain ⟨⟨_, _⟩, written, rfl⟩ := map_eq_ok_iff.mp success
      exact sendBack_queueMove written
  | assignmentCreate =>
      obtain ⟨_, _, _, rfl⟩ := assignmentCreate_ok success
      exact .kept
  | assignmentEnd =>
      obtain ⟨_, _, _, rfl⟩ := assignmentEnd_ok success
      dsimp only [Work.write, deactivateIfUnassigned]
      split <;> exact .kept
  | volunteerEdit =>
      obtain ⟨_, _, _, rfl⟩ := volunteerEdit_ok success
      exact .kept
  | volunteerDeactivate =>
      obtain ⟨_, _, _, _, rfl, rfl⟩ := volunteerDeactivate_ok success
      split <;> exact .kept
  | volunteerReactivate =>
      obtain ⟨_, _, rfl⟩ := volunteerReactivate_ok success
      exact .kept
  | volunteerResync =>
      obtain ⟨_, rfl⟩ := volunteerResync_ok success
      exact .kept
  | syncVolunteerRequirements =>
      cases success
      exact .kept
  | nightlySweep =>
      cases success
      dsimp only [Work.start, sweepVolunteer]
      split <;> exact .kept

end VolunteerScreening
