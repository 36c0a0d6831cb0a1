import VolunteerScreening.Operations

/-!
# What a request does to the assignments

An assignment is started by one operation and ended by five, each on a day of
its own choice.  Every operation's effect on the assignments is one and the
same: the active ones it ends are finished, and the one it starts comes last.
-/

namespace VolunteerScreening

open Calendar Documents Fallible Org Requirements Review

def Operation.endsOn (today : Date) (position : Nat) : Operation → Option Date
  | .assignmentEnd _ other endedOn => if position = other then some (endedOn.getD today) else none
  | .volunteerDeactivate _ stoppedServingOn endAssignments =>
      if endAssignments then some stoppedServingOn else none
  | .recordConvictions _ entries =>
      if entries.any (·.isAutomaticDisqualifier) then some today else none
  | .recordDiscretionaryOverride _ entry =>
      if entry.decision = .declined then some today else none
  | .resolveNotClear _ outcome _ => if outcome = .withdrew then some today else none
  | _ => none

def Operation.started : Operation → List RoleAssignment
  | .assignmentCreate _ role startedOn => [⟨role, startedOn, none, true⟩]
  | _ => []

def Org.RoleAssignment.endedBy (assignment : RoleAssignment) (on : Option Date) : RoleAssignment :=
  match on with
  | none => assignment
  | some day => if assignment.isActive then assignment.finish day else assignment

/-- End each active assignment on the day given for its position. -/
def ended (endsOn : Nat → Option Date) (assignments : List RoleAssignment) :
    List RoleAssignment :=
  assignments.mapIdx fun position assignment => assignment.endedBy (endsOn position)

section Ended

variable {assignments : List RoleAssignment} {day : Date} {endsOn : Nat → Option Date}

@[simp]
theorem ended_none : ended (fun _ => none) assignments = assignments := by
  refine List.mapIdx_eq_iff.mpr fun position => ?_
  simp [RoleAssignment.endedBy]

theorem ended_some :
    ended (fun _ => some day) assignments = assignments.map fun assignment =>
      if assignment.isActive then assignment.finish day else assignment := by
  refine List.mapIdx_eq_iff.mpr fun position => ?_
  simp [RoleAssignment.endedBy]

theorem ended_set {position : Nat} {assignment : RoleAssignment}
    (placed : assignments[position]? = some assignment) (active : assignment.isActive = true) :
    ended (fun other => if other = position then some day else none) assignments =
      assignments.set position (assignment.finish day) := by
  refine List.mapIdx_eq_iff.mpr fun other => ?_
  rw [List.getElem?_set]
  by_cases same : position = other
  · subst same
    obtain ⟨within, _⟩ := List.getElem?_eq_some_iff.mp placed
    rw [if_pos rfl, if_pos within, placed, Option.map_some]
    simp [active, RoleAssignment.endedBy]
  · rw [if_neg same]
    simp [Ne.symm same, RoleAssignment.endedBy]

theorem ended_kept {after : List RoleAssignment} (same : after = assignments) :
    after = ended (fun _ => none) assignments ++ [] := by
  rw [ended_none, List.append_nil, same]

theorem ended_roles : (ended endsOn assignments).map (·.role) = assignments.map (·.role) := by
  apply List.ext_getElem?
  intro position
  simp only [ended, List.getElem?_map, List.getElem?_mapIdx, Option.map_map]
  congr 1
  funext assignment
  unfold Function.comp RoleAssignment.endedBy
  cases endsOn position with
  | none => rfl
  | some day =>
      dsimp only
      split <;> rfl

end Ended

section Transactions

variable {ambient : Ambient} {file : VolunteerFile} {work after : Work}

theorem Work.endAssignments_assignments (work : Work) (on : Date) :
    (work.endAssignments on).file.assignments =
      ended (fun _ => some on) work.file.assignments := ended_some.symm

theorem withdraw_assignments (success : withdraw ambient work = .ok after) :
    after.file.assignments = ended (fun _ => some ambient.today) work.file.assignments := by
  obtain ⟨_, rfl⟩ := withdraw_ok success
  exact Work.endAssignments_assignments _ _

theorem applyDecision_assignments {decision : Decision}
    (success : applyDecision ambient decision work = .ok after) :
    after.file.assignments =
      ended (fun _ => if decision = .declined then some ambient.today else none)
        work.file.assignments := by
  unfold applyDecision at success
  split
  · next declined =>
      rw [if_pos declined] at success
      exact withdraw_assignments success
  · next approved =>
      rw [if_neg approved] at success
      rw [ended_none]
      split at success
      · obtain ⟨_, rfl⟩ := Work.setScreeningBlock_ok success
        rfl
      · cases success
        rfl

theorem resolveBlock_assignments {outcome : CRCNotClearOutcome}
    (success : resolveBlock ambient outcome work = .ok after) :
    after.file.assignments =
      ended (fun _ => if outcome = .withdrew then some ambient.today else none)
        work.file.assignments := by
  unfold resolveBlock at success
  split
  · next withdrew =>
      rw [if_pos withdrew] at success
      exact withdraw_assignments success
  · next kept =>
      rw [if_neg kept] at success
      cases success
      exact ended_none.symm

theorem convictionsWritten_assignments (ambient : Ambient) (file : VolunteerFile)
    (created : List DisqualifyingConviction) :
    (convictionsWritten ambient created file).file.assignments =
      ended (fun _ => if created.any (·.isAutomaticDisqualifier) then some ambient.today else none)
        file.assignments := by
  unfold convictionsWritten
  dsimp only
  split
  · exact Work.endAssignments_assignments _ _
  · exact ended_none.symm

theorem refreshDependents_assignments (settings : Settings) (today : Date) (pk : Pk)
    (file : VolunteerFile) :
    (refreshDependents settings today pk file).assignments = file.assignments := by
  rw [refreshDependents_eq]

theorem restoreFromSnapshot_assignments (ambient : Ambient) (pk : Pk) (state : Snapshot)
    (file : VolunteerFile) :
    (restoreFromSnapshot ambient pk state file).assignments = file.assignments := by
  rw [restoreFromSnapshot_eq]

theorem revert_assignments {item : ReviewItem} {reason : String} {outcome : Outcome}
    (success : revert ambient item reason work = .ok (after, outcome)) :
    after.file.assignments = work.file.assignments := by
  have unchanged : ∀ {why}, (Except.ok (work, why) : Except Refusal (Work × Outcome)) =
      .ok (after, outcome) → after.file.assignments = work.file.assignments := by
    intro _ same
    cases same
    rfl
  unfold revert at success
  split at success
  · unfold sendBackCompletion at success
    split at success
    · exact unchanged success
    · split at success
      · exact unchanged success
      · cases success
        exact restoreFromSnapshot_assignments _ _ _ _
  · obtain ⟨_, _, retired⟩ := retireDocument_eq item work
    unfold sendBackDocument at success
    simp only [retired] at success
    split at success
    · cases success
      rfl
    · cases success
      exact restoreFromSnapshot_assignments _ _ _ _
  · unfold sendBackCrc at success
    split at success
    · exact unchanged success
    · split at success
      · exact unchanged success
      · split at success
        · exact unchanged success
        · rw [retractCheck_eq] at success
          cases success
          have rows : (retractedRows ambient item work.file).assignments =
              work.file.assignments := by
            rw [retractedRows_eq]
            unfold restorePrevious
            cases item.beforeState.supersededById <;> rfl
          unfold lifted
          split <;> exact rows
    · exact unchanged success
  · unfold sendBackWaiver at success
    split at success
    · exact unchanged success
    · split at success
      · exact unchanged success
      · obtain ⟨reversed, written, success⟩ := bind_eq_ok_iff.mp success
        cases success
        obtain ⟨_, _, _, rfl⟩ := reverseWaiver_ok written
        exact refreshDependents_assignments _ _ _ _
  · exact unchanged success

/-- A request that goes through ends the assignments it ends, starts the one it starts, and
leaves every other as it was. -/
theorem perform_assignments {operation : Operation}
    (success : perform ambient operation file = .ok work) :
    work.file.assignments =
      ended (operation.endsOn ambient.today ·) file.assignments ++ operation.started := by
  cases operation with
  | markRequirementComplete =>
      obtain ⟨_, written, rfl⟩ := map_eq_ok_iff.mp success
      obtain ⟨_, _, _, _, _, _, rfl⟩ := markRequirementComplete_ok written
      exact ended_kept (refreshDependents_assignments _ _ _ _)
  | startRequirement =>
      obtain ⟨_, written, rfl⟩ := map_eq_ok_iff.mp success
      obtain ⟨_, _, rfl⟩ := startRequirement_ok written
      dsimp only [Work.start]
      split <;> exact ended_kept rfl
  | waiveRequirement =>
      obtain ⟨_, written, rfl⟩ := map_eq_ok_iff.mp success
      obtain ⟨_, _, _, _, _, rfl⟩ := waiveRequirement_ok written
      exact ended_kept (refreshDependents_assignments _ _ _ _)
  | reverseWaiver =>
      obtain ⟨_, written, rfl⟩ := map_eq_ok_iff.mp success
      obtain ⟨_, _, _, rfl⟩ := reverseWaiver_ok written
      exact ended_kept (refreshDependents_assignments _ _ _ _)
  | recordCrc report =>
      obtain ⟨_, _, written, blocked, rfl⟩ := recordCrc_ok success
      have same : (checkWritten ambient report file).file.assignments = file.assignments := by
        rw [checkWritten_eq]
        rfl
      obtain ⟨rfl, _⟩ | ⟨_, _, _, rfl⟩ := setBlockFor_ok blocked <;> exact ended_kept same
  | recordConvictions check entries =>
      obtain ⟨created, _, automatic, _, rfl⟩ := recordConvictions_ok success
      have finished := convictionsWritten_assignments ambient file created
      rw [automatic] at finished
      exact finished.trans (List.append_nil _).symm
  | recordDiscretionaryOverride check entry =>
      obtain ⟨_, _, _, decided, _, rfl⟩ := recordDiscretionaryOverride_ok success
      exact (applyDecision_assignments decided).trans (List.append_nil _).symm
  | resolveNotClear check outcome notes =>
      obtain ⟨_, _, success⟩ := bind_eq_ok_iff.mp success
      obtain ⟨_, _, success⟩ := bind_eq_ok_iff.mp success
      obtain ⟨_, _, success⟩ := bind_eq_ok_iff.mp success
      exact (resolveBlock_assignments success).trans (List.append_nil _).symm
  | storeDocument =>
      obtain ⟨_, written, rfl⟩ := map_eq_ok_iff.mp success
      obtain ⟨_, _, _, rfl | ⟨_, _, _, _, rfl⟩, rfl⟩ := storeDocument_ok written
      · exact ended_kept rfl
      · exact ended_kept (refreshDependents_assignments _ _ _ _)
  | affirm =>
      obtain ⟨_, written, rfl⟩ := map_eq_ok_iff.mp success
      obtain ⟨_, _, _, _, rfl⟩ := affirm_ok written
      exact ended_kept rfl
  | sendBack =>
      obtain ⟨⟨_, _⟩, written, rfl⟩ := map_eq_ok_iff.mp success
      obtain ⟨_, _, _, _, _, undone, rfl⟩ := sendBack_ok written
      exact ended_kept (revert_assignments undone)
  | assignmentCreate =>
      obtain ⟨_, _, _, rfl⟩ := assignmentCreate_ok success
      exact congrArg (· ++ _) ended_none.symm
  | assignmentEnd user position endedOn =>
      obtain ⟨assignment, fetched, _, rfl⟩ := assignmentEnd_ok success
      obtain ⟨placed, active, _⟩ := fetchAssignment_eq_ok_iff.mp fetched
      refine Eq.trans ?_ (List.append_nil _).symm
      refine Eq.trans ?_ (ended_set placed active).symm
      unfold deactivateIfUnassigned
      split <;> rfl
  | volunteerEdit =>
      obtain ⟨_, _, _, rfl⟩ := volunteerEdit_ok success
      exact ended_kept rfl
  | volunteerDeactivate user stoppedServingOn endAssignments =>
      obtain ⟨_, _, _, _, rfl, rfl⟩ := volunteerDeactivate_ok success
      cases endAssignments with
      | true => exact (Work.endAssignments_assignments _ _).trans (List.append_nil _).symm
      | false => exact ended_kept rfl
  | volunteerReactivate =>
      obtain ⟨_, _, rfl⟩ := volunteerReactivate_ok success
      exact ended_kept rfl
  | volunteerResync =>
      obtain ⟨_, rfl⟩ := volunteerResync_ok success
      exact ended_kept rfl
  | syncVolunteerRequirements =>
      cases success
      exact ended_kept rfl
  | nightlySweep =>
      cases success
      unfold sweepVolunteer
      split <;> exact ended_kept rfl

end Transactions

theorem commit_assignments (ambient : Ambient) (work : Work) :
    (work.commit ambient).assignments = work.file.assignments := by
  rw [Work.commit_eq]

end VolunteerScreening
