import VolunteerScreening.Operations

/-!
# A disqualification is permanent

No operation takes a disqualification away, and none leaves a disqualified
volunteer an active assignment.  What one operation keeps, every run keeps.
-/

namespace VolunteerScreening

open Calendar Documents Fallible Org Requirements Review

namespace VolunteerFile

def isDisqualified (file : VolunteerFile) : Prop := file.volunteer.screeningBlock = .disqualified

/-- A disqualified volunteer serves nowhere. -/
def Barred (file : VolunteerFile) : Prop :=
  file.isDisqualified → file.hasActiveAssignment = false

/-- What every operation does to a disqualification. -/
structure KeepsBar (before after : VolunteerFile) : Prop where
  stays : before.isDisqualified → after.isDisqualified
  bars : before.Barred → after.Barred

namespace KeepsBar

variable {before middle after : VolunteerFile}

theorem refl (file : VolunteerFile) : KeepsBar file file := ⟨id, id⟩

theorem trans (first : KeepsBar before middle) (second : KeepsBar middle after) :
    KeepsBar before after := ⟨second.stays ∘ first.stays, second.bars ∘ first.bars⟩

theorem of_same (block : after.volunteer.screeningBlock = before.volunteer.screeningBlock)
    (assignments : after.assignments = before.assignments) : KeepsBar before after := by
  refine ⟨fun disqualified => block.trans disqualified, fun barred disqualified => ?_⟩
  unfold hasActiveAssignment
  rw [assignments]
  exact barred (block.symm.trans disqualified)

theorem of_free (free : before.volunteer.screeningBlock ≠ .disqualified)
    (stillFree : after.volunteer.screeningBlock ≠ .disqualified) : KeepsBar before after :=
  ⟨fun disqualified => absurd disqualified free,
    fun _ disqualified => absurd disqualified stillFree⟩

theorem of_ended (block : after.volunteer.screeningBlock = before.volunteer.screeningBlock)
    (ended : before.hasActiveAssignment = false → after.hasActiveAssignment = false) :
    KeepsBar before after :=
  ⟨fun disqualified => block.trans disqualified,
    fun barred disqualified => ended (barred (block.symm.trans disqualified))⟩

/-- Every assignment has ended, and a disqualification has not been lifted. -/
theorem of_idle (stays : before.isDisqualified → after.isDisqualified)
    (idle : after.hasActiveAssignment = false) : KeepsBar before after :=
  ⟨stays, fun _ _ => idle⟩

/-- Rows that are neither the volunteer's nor a role's can be written freely. -/
theorem refreshed (kept : KeepsBar before middle) (settings : Settings) (today : Date) (pk : Pk) :
    KeepsBar before (refreshDependents settings today pk middle) := by
  rw [refreshDependents_eq]
  exact kept.trans (of_same rfl rfl)

theorem synced (kept : KeepsBar before middle) (settings : Settings) (asOf : Date) :
    KeepsBar before (Requirements.synced settings asOf middle) :=
  kept.trans (of_same rfl rfl)

theorem queued (kept : KeepsBar before middle) (items : List ReviewItem) :
    KeepsBar before { middle with reviewItems := items } :=
  kept.trans (of_same rfl rfl)

theorem sweepVolunteer (settings : Settings) (asOf : Date) (file : VolunteerFile) :
    KeepsBar file (Requirements.sweepVolunteer settings asOf file) := by
  unfold Requirements.sweepVolunteer
  split
  · exact of_same rfl rfl
  · exact refl file

end KeepsBar

end VolunteerFile

open VolunteerFile

theorem markRequirementComplete_keepsBar {ambient : Ambient} {pk : Pk} {completedOn : Date}
    {notes : String} {openReview : Bool} {file after : VolunteerFile}
    (success : markRequirementComplete ambient pk completedOn notes openReview file = .ok after) :
    KeepsBar file after := by
  obtain ⟨_, _, _, _, _, _, rfl⟩ := markRequirementComplete_ok success
  refine KeepsBar.refreshed ?_ _ _ _
  exact KeepsBar.of_same rfl rfl

theorem startRequirement_keepsBar {ambient : Ambient} {pk : Pk} {file after : VolunteerFile}
    (success : startRequirement ambient pk file = .ok after) : KeepsBar file after := by
  obtain ⟨_, _, rfl⟩ := startRequirement_ok success
  split
  · exact KeepsBar.of_same rfl rfl
  · exact KeepsBar.refl file

theorem waiveRequirement_keepsBar {ambient : Ambient} {pk : Pk} {reason waivedBy : String}
    {file after : VolunteerFile}
    (success : waiveRequirement ambient pk reason waivedBy file = .ok after) :
    KeepsBar file after := by
  obtain ⟨_, _, _, _, _, rfl⟩ := waiveRequirement_ok success
  refine KeepsBar.refreshed ?_ _ _ _
  exact KeepsBar.of_same rfl rfl

theorem reverseWaiver_keepsBar {ambient : Ambient} {pk : Pk} {reason : String}
    {restoreDue : Option (Option Date × String)} {file after : VolunteerFile}
    (success : reverseWaiver ambient pk reason restoreDue file = .ok after) :
    KeepsBar file after := by
  obtain ⟨_, _, _, rfl⟩ := reverseWaiver_ok success
  refine KeepsBar.refreshed ?_ _ _ _
  exact KeepsBar.of_same rfl rfl

theorem storeDocument_keepsBar {ambient : Ambient} {entry : DocumentEntry}
    {file after : VolunteerFile} (success : storeDocument ambient entry file = .ok after) :
    KeepsBar file after := by
  obtain ⟨document, written, completed, recorded, rfl⟩ := storeDocument_ok success
  refine KeepsBar.queued ?_ _
  obtain rfl | ⟨_, _, _, _, rfl⟩ := recorded
  · exact KeepsBar.of_same rfl rfl
  · refine KeepsBar.refreshed ?_ _ _ _
    exact KeepsBar.of_same rfl rfl

theorem recordCrc_keepsBar {ambient : Ambient} {report : CheckReport} {file : VolunteerFile}
    {work : Work} (success : recordCrc ambient report file = .ok work) :
    KeepsBar file work.file := by
  obtain ⟨free, _, written, blocked, rfl⟩ := recordCrc_ok success
  have sameVolunteer : (checkWritten ambient report file).file.volunteer = file.volunteer := by
    rw [checkWritten_eq]
    rfl
  refine KeepsBar.of_free free ?_
  show written.file.volunteer.screeningBlock ≠ .disqualified
  obtain ⟨rfl, _⟩ | ⟨block, chosen, _, rfl⟩ := setBlockFor_ok blocked
  · rwa [sameVolunteer]
  · rw [Work.saveVolunteer_screeningBlock]
    show block ≠ .disqualified
    rw [chosen]
    split <;> decide

theorem recordConvictions_keepsBar {ambient : Ambient} {check : Nat}
    {entries : List ConvictionEntry} {file : VolunteerFile} {work : Work}
    (success : recordConvictions ambient check entries file = .ok work) :
    KeepsBar file work.file := by
  obtain ⟨created, items, _, _, rfl⟩ := recordConvictions_ok success
  refine KeepsBar.queued ?_ _
  unfold convictionsWritten
  dsimp only
  split
  · exact KeepsBar.of_idle (fun _ => Volunteer.deriveBirth_screeningBlock _)
      (Work.endAssignments_hasActiveAssignment _ _)
  · exact KeepsBar.of_same rfl rfl

theorem withdraw_keepsBar {ambient : Ambient} {file : VolunteerFile} {work after : Work}
    (success : withdraw ambient work = .ok after) (kept : KeepsBar file work.file) :
    KeepsBar file after.file := by
  obtain ⟨free, rfl⟩ := withdraw_ok success
  refine kept.trans (KeepsBar.of_free free ?_)
  rw [Work.endAssignments_volunteer, Work.saveVolunteer_screeningBlock]
  show ScreeningBlock.withdrawn ≠ .disqualified
  decide

theorem recordDiscretionaryOverride_keepsBar {ambient : Ambient} {check : Nat}
    {entry : DecisionEntry} {file : VolunteerFile} {work : Work}
    (success : recordDiscretionaryOverride ambient check entry file = .ok work) :
    KeepsBar file work.file := by
  obtain ⟨free, written, items, decided, _, rfl⟩ := recordDiscretionaryOverride_ok success
  refine KeepsBar.queued ?_ _
  obtain withdrawn | ⟨_, rfl⟩ | ⟨_, rfl⟩ := applyDecision_ok decided
  · exact withdraw_keepsBar withdrawn (.of_same rfl rfl)
  · refine KeepsBar.of_free free ?_
    rw [Work.saveVolunteer_screeningBlock]
    show ScreeningBlock.none ≠ .disqualified
    decide
  · exact KeepsBar.of_same rfl rfl

theorem resolveNotClear_keepsBar {ambient : Ambient} {check : Nat}
    {outcome : CRCNotClearOutcome} {notes : String} {file : VolunteerFile} {work : Work}
    (success : resolveNotClear ambient check outcome notes file = .ok work) :
    KeepsBar file work.file := by
  obtain ⟨_, _, withdrawn | rfl⟩ := resolveNotClear_ok success
  · exact withdraw_keepsBar withdrawn (.of_same rfl rfl)
  · exact KeepsBar.of_same rfl rfl

theorem affirm_keepsBar {ambient : Ambient} {user : Core.User} {position : Nat}
    {file after : VolunteerFile} (success : affirm ambient user position file = .ok after) :
    KeepsBar file after := by
  obtain ⟨_, _, _, _, rfl⟩ := affirm_ok success
  exact KeepsBar.of_same rfl rfl

theorem restoreFromSnapshot_keepsBar (ambient : Ambient) (pk : Pk) (state : Snapshot)
    (file : VolunteerFile) : KeepsBar file (restoreFromSnapshot ambient pk state file) := by
  rw [restoreFromSnapshot_eq]
  exact KeepsBar.of_same rfl rfl

theorem sendBackWaiver_keepsBar {ambient : Ambient} {item : ReviewItem} {reason : String}
    {work after : Work} {outcome : Outcome}
    (success : sendBackWaiver ambient item reason work = .ok (after, outcome)) :
    KeepsBar work.file after.file := by
  unfold sendBackWaiver at success
  split at success
  · cases success
    exact KeepsBar.refl _
  · split at success
    · cases success
      exact KeepsBar.refl _
    · obtain ⟨file, reversed, success⟩ := bind_eq_ok_iff.mp success
      cases success
      exact reverseWaiver_keepsBar reversed

theorem lifted_keepsBar {file : VolunteerFile} {work : Work} (kept : KeepsBar file work.file) :
    KeepsBar file (lifted work).file := by
  unfold lifted
  split
  · next blocked =>
      refine kept.trans (KeepsBar.of_free ?_ ?_)
      · intro disqualified
        cases blocked.symm.trans disqualified
      · rw [Work.saveVolunteer_screeningBlock]
        show ScreeningBlock.none ≠ .disqualified
        decide
  · exact kept

theorem retractCheck_keepsBar {ambient : Ambient} {item : ReviewItem} {work after : Work}
    {outcome : Outcome} (success : retractCheck ambient item work = .ok (after, outcome)) :
    KeepsBar work.file after.file := by
  rw [retractCheck_eq] at success
  cases success
  refine lifted_keepsBar ?_
  show KeepsBar work.file (retractedRows ambient item work.file)
  rw [retractedRows_eq]
  unfold restorePrevious
  cases item.beforeState.supersededById <;> exact KeepsBar.of_same rfl rfl

theorem revert_keepsBar {ambient : Ambient} {item : ReviewItem} {reason : String}
    {work after : Work}
    {outcome : Outcome} (success : revert ambient item reason work = .ok (after, outcome)) :
    KeepsBar work.file after.file := by
  unfold revert at success
  split at success
  · unfold sendBackCompletion at success
    split at success
    · cases success
      exact KeepsBar.refl _
    · split at success
      · cases success
        exact KeepsBar.refl _
      · cases success
        exact restoreFromSnapshot_keepsBar _ _ _ _
  · obtain ⟨documents, _, retired⟩ := retireDocument_eq item work
    unfold sendBackDocument at success
    simp only [retired] at success
    split at success
    · cases success
      exact KeepsBar.of_same rfl rfl
    · cases success
      refine KeepsBar.trans ?_ (restoreFromSnapshot_keepsBar _ _ _ _)
      exact KeepsBar.of_same rfl rfl
  · unfold sendBackCrc at success
    split at success
    · cases success
      exact KeepsBar.refl _
    · split at success
      · cases success
        exact KeepsBar.refl _
      · split at success
        · cases success
          exact KeepsBar.refl _
        · exact retractCheck_keepsBar success
    · cases success
      exact KeepsBar.refl _
  · exact sendBackWaiver_keepsBar success
  · cases success
    exact KeepsBar.refl _

theorem sendBack_keepsBar {ambient : Ambient} {user : Core.User} {position : Nat}
    {reason : String} {file : VolunteerFile} {work : Work} {outcome : Outcome}
    (success : sendBack ambient user position reason file = .ok (work, outcome)) :
    KeepsBar file work.file := by
  obtain ⟨_, reverted, _, _, _, undone, rfl⟩ := sendBack_ok success
  exact KeepsBar.queued (revert_keepsBar undone) _

theorem assignmentCreate_keepsBar {ambient : Ambient} {user : Core.User} {role : Pk}
    {startedOn : Date} {file : VolunteerFile} {work : Work}
    (success : assignmentCreate ambient user role startedOn file = .ok work) :
    KeepsBar file work.file := by
  obtain ⟨_, _, valid, rfl⟩ := assignmentCreate_ok success
  have free : file.volunteer.screeningBlock ≠ .disqualified := fun disqualified =>
    RoleAssignment.clean_refuses_disqualified _ rfl disqualified valid
  exact KeepsBar.of_free free free

theorem deactivateIfUnassigned_keepsBar (endedOn : Date) (work : Work) :
    KeepsBar work.file (deactivateIfUnassigned endedOn work).file := by
  unfold deactivateIfUnassigned
  split
  · exact KeepsBar.of_same (Volunteer.deriveBirth_screeningBlock _) rfl
  · exact KeepsBar.refl _

theorem assignmentEnd_keepsBar {ambient : Ambient} {user : Core.User} {position : Nat}
    {endedOn : Option Date} {file : VolunteerFile} {work : Work}
    (success : assignmentEnd ambient user position endedOn file = .ok work) :
    KeepsBar file work.file := by
  obtain ⟨assignment, _, _, rfl⟩ := assignmentEnd_ok success
  refine KeepsBar.synced ?_ _ _
  refine KeepsBar.trans ?_ (deactivateIfUnassigned_keepsBar _ _)
  refine KeepsBar.of_ended rfl fun idle => ?_
  simp only [hasActiveAssignment, List.any_eq_false] at idle ⊢
  intro other listed
  rcases List.mem_or_eq_of_mem_set listed with kept | rfl
  · exact idle other kept
  · simp

theorem volunteerDeactivate_keepsBar {ambient : Ambient} {user : Core.User}
    {stoppedServingOn : Date} {endAssignments : Bool} {file : VolunteerFile} {work : Work}
    (success : volunteerDeactivate ambient user stoppedServingOn endAssignments file = .ok work) :
    KeepsBar file work.file := by
  obtain ⟨_, _, _, _, rfl, rfl⟩ := volunteerDeactivate_ok success
  split
  · exact KeepsBar.of_ended (Volunteer.deriveBirth_screeningBlock _)
      fun _ => Work.endAssignments_hasActiveAssignment _ _
  · exact KeepsBar.of_same (Volunteer.deriveBirth_screeningBlock _) rfl

theorem volunteerReactivate_keepsBar {ambient : Ambient} {user : Core.User}
    {file : VolunteerFile} {work : Work}
    (success : volunteerReactivate ambient user file = .ok work) : KeepsBar file work.file := by
  obtain ⟨_, _, rfl⟩ := volunteerReactivate_ok success
  exact KeepsBar.of_same (Volunteer.deriveBirth_screeningBlock _) rfl

theorem volunteerEdit_keepsBar {ambient : Ambient} {user : Core.User} {form : VolunteerForm}
    {file : VolunteerFile} {work : Work}
    (success : volunteerEdit ambient user form file = .ok work) : KeepsBar file work.file := by
  obtain ⟨_, _, _, rfl⟩ := volunteerEdit_ok success
  exact KeepsBar.of_same (Volunteer.deriveBirth_screeningBlock _) rfl

theorem perform_keepsBar {ambient : Ambient} {operation : Operation} {file : VolunteerFile}
    {work : Work} (success : perform ambient operation file = .ok work) :
    KeepsBar file work.file := by
  cases operation with
  | markRequirementComplete =>
      obtain ⟨_, written, rfl⟩ := map_eq_ok_iff.mp success
      exact markRequirementComplete_keepsBar written
  | startRequirement =>
      obtain ⟨_, written, rfl⟩ := map_eq_ok_iff.mp success
      exact startRequirement_keepsBar written
  | waiveRequirement =>
      obtain ⟨_, written, rfl⟩ := map_eq_ok_iff.mp success
      exact waiveRequirement_keepsBar written
  | reverseWaiver =>
      obtain ⟨_, written, rfl⟩ := map_eq_ok_iff.mp success
      exact reverseWaiver_keepsBar written
  | storeDocument =>
      obtain ⟨_, written, rfl⟩ := map_eq_ok_iff.mp success
      exact storeDocument_keepsBar written
  | affirm =>
      obtain ⟨_, written, rfl⟩ := map_eq_ok_iff.mp success
      exact affirm_keepsBar written
  | sendBack =>
      obtain ⟨⟨_, _⟩, written, rfl⟩ := map_eq_ok_iff.mp success
      exact sendBack_keepsBar written
  | recordCrc => exact recordCrc_keepsBar success
  | recordConvictions => exact recordConvictions_keepsBar success
  | recordDiscretionaryOverride => exact recordDiscretionaryOverride_keepsBar success
  | resolveNotClear => exact resolveNotClear_keepsBar success
  | assignmentCreate => exact assignmentCreate_keepsBar success
  | assignmentEnd => exact assignmentEnd_keepsBar success
  | volunteerEdit => exact volunteerEdit_keepsBar success
  | volunteerDeactivate => exact volunteerDeactivate_keepsBar success
  | volunteerReactivate => exact volunteerReactivate_keepsBar success
  | volunteerResync =>
      obtain ⟨_, rfl⟩ := volunteerResync_ok success
      exact KeepsBar.of_same rfl rfl
  | syncVolunteerRequirements =>
      cases success
      exact KeepsBar.of_same rfl rfl
  | nightlySweep =>
      cases success
      exact KeepsBar.sweepVolunteer _ _ _

theorem step_keepsBar (file : VolunteerFile) (request : Request) :
    KeepsBar file (step file request) :=
  step_induction (KeepsBar.refl file) (fun _ success => perform_keepsBar success)
    fun _ kept => kept.trans (KeepsBar.of_same rfl rfl)

theorem run_keepsBar (file : VolunteerFile) (requests : List Request) :
    KeepsBar file (Machine.run step file requests) :=
  Machine.run_preserves step (KeepsBar file)
    (fun _ request kept => kept.trans (step_keepsBar _ request)) (KeepsBar.refl file) requests

theorem opened_barred (volunteer : Volunteer) : (VolunteerFile.opened volunteer).Barred :=
  fun _ => rfl

/-- Once a volunteer of the church is disqualified, they are disqualified after every later run,
and serve in no role. -/
theorem disqualification_permanent (volunteers : List Volunteer)
    (earlier later : List (Nat × Request)) (volunteer : Nat) (file after : VolunteerFile)
    (reached : (Machine.run churchStep (newChurch volunteers) earlier)[volunteer]? = some file)
    (disqualified : file.isDisqualified)
    (ran : (Machine.run churchStep (newChurch volunteers) (earlier ++ later))[volunteer]? =
      some after) :
    after.isDisqualified ∧ after.hasActiveAssignment = false := by
  rw [Machine.run_append] at ran
  unfold churchStep at reached ran
  rw [Machine.run_stepAt_getElem?, reached, Option.map_some, Option.some.injEq] at ran
  rw [Machine.run_stepAt_getElem?, newChurch, List.getElem?_map, Option.map_map,
    Option.map_eq_some_iff] at reached
  obtain ⟨opened, _, rfl⟩ := reached
  have barred := (run_keepsBar _ (Machine.own volunteer earlier)).bars
    (opened_barred opened.deriveBirth)
  have kept := run_keepsBar (Machine.run step (VolunteerFile.opened opened.deriveBirth)
    (Machine.own volunteer earlier)) (Machine.own volunteer later)
  subst ran
  exact ⟨kept.stays disqualified, kept.bars barred (kept.stays disqualified)⟩

def disqualifyingRun : List (Nat × Request) :=
  let ambient := Sample.byPrimaryAdmin Sample.recordCheckOnly (Sample.march 0)
  [(0, ⟨ambient, .assignmentCreate Sample.primaryAdmin 1 (Sample.january 3)⟩),
    (0, ⟨ambient, .recordCrc ⟨.notClear, Sample.february 0, true, false, "", ""⟩⟩),
    (0, ⟨ambient, .recordConvictions 0 [⟨"Abduction", true, "", none, ""⟩]⟩)]

def reinstatingRun : List (Nat × Request) :=
  let ambient := Sample.byPrimaryAdmin Sample.recordCheckOnly (Sample.march 1)
  [(0, ⟨ambient, .recordCrc ⟨.cleared, Sample.march 0, true, false, "", ""⟩⟩),
    (0, ⟨ambient, .volunteerReactivate Sample.primaryAdmin⟩),
    (0, ⟨ambient, .assignmentCreate Sample.primaryAdmin 1 (Sample.march 1)⟩)]

theorem disqualification_permanent_reinstating :
    ∃ after, (Machine.run churchStep (newChurch [Sample.adult])
        (disqualifyingRun ++ reinstatingRun))[0]? = some after ∧
      after.isDisqualified ∧ after.hasActiveAssignment = false :=
  ⟨_, rfl, disqualification_permanent [Sample.adult] disqualifyingRun reinstatingRun 0 _ _ rfl rfl
    rfl⟩

end VolunteerScreening
