import VolunteerScreening.Operations

/-!
# The birth year and month follow the full date

Saving a volunteer derives the queryable birth year and month from the full date
of birth, so in every file a run reaches they agree with it.
-/

namespace VolunteerScreening

open Calendar Documents Fallible Org Requirements Review

def VolunteerFile.BirthDerived (file : VolunteerFile) : Prop :=
  file.volunteer.deriveBirth = file.volunteer

def Org.Volunteer.birth (volunteer : Volunteer) : Option Date × Option Int × Option Month :=
  (volunteer.dateOfBirth, volunteer.birthYear, volunteer.birthMonth)

/-- Saving derives the year and month from the date, from whatever row has these columns. -/
theorem Org.Volunteer.deriveBirth_birth {first second : Volunteer}
    (same : first.birth = second.birth) : first.deriveBirth.birth = second.deriveBirth.birth := by
  simp only [birth, Prod.mk.injEq] at same
  obtain ⟨date, year, month⟩ := same
  unfold birth deriveBirth
  rw [date]
  cases second.dateOfBirth <;> simp [date, year, month]

/-- The birth columns are as they were, or as a save derives them. -/
def Org.Volunteer.Resaved (before after : Volunteer) : Prop :=
  after.birth = before.birth ∨ after.birth = before.deriveBirth.birth

namespace Org.Volunteer.Resaved

variable {before between after : Volunteer}

theorem refl (volunteer : Volunteer) : Resaved volunteer volunteer := .inl rfl

theorem save (resaved : Resaved before between) (same : after.birth = between.birth) :
    Resaved before after.deriveBirth := by
  refine .inr ?_
  rw [Volunteer.deriveBirth_birth same]
  rcases resaved with kept | derived
  · exact Volunteer.deriveBirth_birth kept
  · rw [Volunteer.deriveBirth_birth derived, deriveBirth_deriveBirth]

theorem derived (resaved : Resaved before after) (saved : before.deriveBirth = before) :
    after.deriveBirth = after := by
  have columns : after.birth = before.birth := by
    rcases resaved with kept | derived
    · exact kept
    · rw [derived, saved]
  have same : after.deriveBirth.birth = after.birth := by
    rw [Volunteer.deriveBirth_birth columns, saved, columns]
  have rest : ∀ volunteer : Volunteer, volunteer.deriveBirth =
      { volunteer with
        dateOfBirth := volunteer.deriveBirth.birth.1
        birthYear := volunteer.deriveBirth.birth.2.1
        birthMonth := volunteer.deriveBirth.birth.2.2 } := by
    rintro ⟨_, _, _, _, _, dateOfBirth, _, _, _, _, _, _, _⟩
    cases dateOfBirth <;> rfl
  rw [rest, same]
  rfl

end Org.Volunteer.Resaved

open Org.Volunteer

theorem withdraw_resaved {before : Volunteer} {ambient : Ambient} {work after : Work}
    (resaved : Resaved before work.file.volunteer) (success : withdraw ambient work = .ok after) :
    Resaved before after.file.volunteer := by
  obtain ⟨_, rfl⟩ := withdraw_ok success
  exact resaved.save rfl

theorem lifted_resaved {before : Volunteer} {work : Work}
    (resaved : Resaved before work.file.volunteer) :
    Resaved before (lifted work).file.volunteer := by
  unfold lifted
  split
  · exact resaved.save rfl
  · exact resaved

theorem revert_resaved {ambient : Ambient} {item : ReviewItem} {reason : String}
    {work after : Work} {outcome : Outcome}
    (success : revert ambient item reason work = .ok (after, outcome)) :
    Resaved work.file.volunteer after.file.volunteer := by
  obtain ⟨_, _, _, _, _, _, retracted⟩ | ⟨_, _, _, _, rfl⟩ := revert_ok success
  · rw [retractCheck_eq] at retracted
    cases retracted
    refine lifted_resaved ?_
    show Resaved work.file.volunteer (retractedRows ambient item work.file).volunteer
    have same : (retractedRows ambient item work.file).volunteer = work.file.volunteer := by
      rw [retractedRows_eq]
      unfold restorePrevious
      cases item.beforeState.supersededById <;> rfl
    rw [same]
    exact .refl _
  · exact .refl _

/-- Only an edit does more to the birth columns than a save does. -/
theorem perform_resaved {ambient : Ambient} {operation : Operation} {file : VolunteerFile}
    {work : Work} (notEdit : operation.isEdit = false)
    (success : perform ambient operation file = .ok work) :
    Resaved file.volunteer work.file.volunteer := by
  cases operation with
  | markRequirementComplete =>
      obtain ⟨_, written, rfl⟩ := map_eq_ok_iff.mp success
      obtain ⟨_, _, _, _, _, _, rfl⟩ := markRequirementComplete_ok written
      dsimp only [Work.start]
      rw [refreshDependents_eq]
      exact .refl _
  | startRequirement =>
      obtain ⟨_, written, rfl⟩ := map_eq_ok_iff.mp success
      obtain ⟨_, _, rfl⟩ := startRequirement_ok written
      dsimp only [Work.start]
      split <;> exact .refl _
  | waiveRequirement =>
      obtain ⟨_, written, rfl⟩ := map_eq_ok_iff.mp success
      obtain ⟨_, _, _, _, _, rfl⟩ := waiveRequirement_ok written
      dsimp only [Work.start]
      rw [refreshDependents_eq]
      exact .refl _
  | reverseWaiver =>
      obtain ⟨_, written, rfl⟩ := map_eq_ok_iff.mp success
      obtain ⟨_, _, _, rfl⟩ := reverseWaiver_ok written
      dsimp only [Work.start]
      rw [refreshDependents_eq]
      exact .refl _
  | recordCrc report =>
      obtain ⟨_, _, written, blocked, rfl⟩ := recordCrc_ok success
      obtain ⟨rfl, _⟩ | ⟨_, _, _, rfl⟩ := setBlockFor_ok blocked
      · rw [checkWritten_eq]
        exact .refl _
      · rw [checkWritten_eq]
        exact (Resaved.refl file.volunteer).save rfl
  | recordConvictions =>
      obtain ⟨_, _, _, _, rfl⟩ := recordConvictions_ok success
      dsimp only [convictionsWritten]
      split
      · exact (Resaved.refl file.volunteer).save rfl
      · exact .refl _
  | recordDiscretionaryOverride =>
      obtain ⟨_, _, _, decided, _, rfl⟩ := recordDiscretionaryOverride_ok success
      obtain withdrawn | ⟨_, rfl⟩ | ⟨_, rfl⟩ := applyDecision_ok decided
      · have resaved := withdraw_resaved (.refl file.volunteer) withdrawn
        exact resaved
      · exact (Resaved.refl file.volunteer).save rfl
      · exact .refl _
  | resolveNotClear =>
      obtain ⟨_, _, withdrawn | rfl⟩ := resolveNotClear_ok success
      · have resaved := withdraw_resaved (.refl file.volunteer) withdrawn
        exact resaved
      · exact .refl _
  | storeDocument =>
      obtain ⟨_, written, rfl⟩ := map_eq_ok_iff.mp success
      obtain ⟨_, _, _, rfl | ⟨_, _, _, _, rfl⟩, rfl⟩ := storeDocument_ok written
      · exact .refl _
      · rw [refreshDependents_eq]
        exact .refl _
  | affirm =>
      obtain ⟨_, written, rfl⟩ := map_eq_ok_iff.mp success
      obtain ⟨_, _, _, _, rfl⟩ := affirm_ok written
      exact .refl _
  | sendBack =>
      obtain ⟨⟨_, _⟩, written, rfl⟩ := map_eq_ok_iff.mp success
      obtain ⟨_, _, _, _, _, undone, rfl⟩ := sendBack_ok written
      exact revert_resaved undone
  | assignmentCreate =>
      obtain ⟨_, _, _, rfl⟩ := assignmentCreate_ok success
      exact .refl _
  | assignmentEnd =>
      obtain ⟨_, _, _, rfl⟩ := assignmentEnd_ok success
      dsimp only [Work.write, deactivateIfUnassigned]
      split
      · exact (Resaved.refl file.volunteer).save rfl
      · exact .refl _
  | volunteerEdit => cases notEdit
  | volunteerDeactivate =>
      obtain ⟨_, _, _, _, rfl, rfl⟩ := volunteerDeactivate_ok success
      split <;> exact (Resaved.refl file.volunteer).save rfl
  | volunteerReactivate =>
      obtain ⟨_, _, rfl⟩ := volunteerReactivate_ok success
      exact (Resaved.refl file.volunteer).save rfl
  | volunteerResync =>
      obtain ⟨_, rfl⟩ := volunteerResync_ok success
      exact .refl _
  | syncVolunteerRequirements =>
      cases success
      exact .refl _
  | nightlySweep =>
      cases success
      dsimp only [Work.start, sweepVolunteer]
      split <;> exact .refl _

theorem commit_volunteer (ambient : Ambient) (work : Work) :
    (work.commit ambient).volunteer = work.file.volunteer := by
  rw [Work.commit_eq]

theorem perform_birthDerived {ambient : Ambient} {operation : Operation} {file : VolunteerFile}
    {work : Work} (derived : file.BirthDerived)
    (success : perform ambient operation file = .ok work) :
    work.file.BirthDerived := by
  cases edits : operation.isEdit with
  | false => exact (perform_resaved edits success).derived derived
  | true =>
      cases operation with
      | volunteerEdit user form =>
          obtain ⟨_, _, _, rfl⟩ := volunteerEdit_ok success
          exact Volunteer.deriveBirth_deriveBirth _
      | _ => cases edits

theorem run_birthDerived (volunteer : Volunteer) (requests : List Request) :
    (Machine.run step (.opened volunteer.deriveBirth) requests).BirthDerived := by
  have opened : (VolunteerFile.opened volunteer.deriveBirth).BirthDerived :=
    volunteer.deriveBirth_deriveBirth
  refine Machine.run_preserves step VolunteerFile.BirthDerived ?_ opened requests
  intro file request derived
  refine @step_induction (fun _ after => after.BirthDerived) request file derived ?_ ?_
  · intro work success
    exact perform_birthDerived derived success
  · intro after kept
    exact kept

end VolunteerScreening
