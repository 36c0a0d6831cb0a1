import VolunteerScreening.Requirements.Resyncing
import VolunteerScreening.Results.SyncIdempotence

/-!
# Two syncs settle everything

The first sync settles every prerequisite, and creates or switches on what was
missing; the second brings parking and deadlines in line with it.  A third finds
nothing to do, and what it finds is what the definitions ask for.
-/

namespace VolunteerScreening.Requirements

open Calendar Org

namespace SyncSubject

variable (subject : SyncSubject) {definition : RequirementDefinition}

theorem again_changesSides {prerequisite : RequirementDefinition}
    (inForce : prerequisite ∈ subject.catalogue.active) :
    subject.again.changesSides prerequisite = false := by
  have settled := (subject.result_settled prerequisite inForce).1
  rw [changesSides_eq, bne_eq_false_iff_eq]
  exact settled

theorem again_present (listed : definition ∈ subject.catalogue.active)
    (applies : subject.applies definition = true) :
    ∃ row, subject.again.existing definition.pk = some row ∧
      (subject.parkingReason (subject.rowsAt definition) definition = none →
        row.status ≠ .notApplicable) := by
  have left : subject.again.existing definition.pk = _ := subject.result_of_mem definition listed
  cases current : subject.existing definition.pk with
  | none =>
      rw [subject.turn_of_none _ definition current, applies, if_pos rfl] at left
      refine ⟨_, left, ?_⟩
      intro released
      simp [createdRow, released, RequirementInstance.fresh]
  | some row =>
      rw [(subject.turn_of_some _ definition current).1] at left
      refine ⟨_, left, ?_⟩
      intro released
      rw [reconciled_status, released]
      by_cases decided : row.status = .complete ∨ row.status = .waived
      · rw [if_pos decided]
        rcases decided with complete | waived
        · simp [complete]
        · simp [waived]
      · rw [if_neg decided]
        by_cases parked : row.status = .notApplicable
        · simp [parked]
        · simp [parked]

theorem again_settlesAtOnce (listed : definition ∈ subject.catalogue.active)
    (applies : subject.applies definition = true) (notExempt : subject.exempt definition = false) :
    subject.again.SettlesAtOnce definition := by
  obtain ⟨row, present, switchedOn⟩ := subject.again_present listed applies
  refine ⟨?_, ?_, ?_⟩
  · intro absent
    rw [present] at absent
    cases absent
  · intro parkedRow found parked _ deadline reason birthday derived
    rw [present] at found
    obtain rfl := Option.some.inj found
    -- A derived deadline comes from a completion, and a completed prerequisite blocks nothing.
    have derivedBefore : prerequisiteDeadline subject.catalogue subject.existing definition =
        some (deadline, reason) :=
      (prerequisiteDeadline_congr subject.result_completedOn definition).symm.trans derived
    have released := subject.released_of_deadline listed applies notExempt
      (Option.isSome_iff_exists.mpr ⟨_, derivedBefore⟩)
    exact absurd parked (switchedOn released)
  · intro prerequisite gate _ _
    exact subject.again_changesSides (gatePrerequisite_some gate).2.2

theorem rowsAt_of_still (still : subject.result.1 = subject.existing)
    (listed : definition ∈ subject.catalogue.active) :
    subject.rowsAt definition = subject.existing := by
  funext pk
  by_cases visited : pk ∈ (subject.catalogue.before definition).map (·.pk)
  · obtain ⟨first, _, rfl⟩ := List.mem_map.mp visited
    rw [subject.rowsAt_of_precedes definition listed
      (subject.catalogue.precedes_iff.mpr visited), still]
  · exact Sweep.sweep_of_not_mem _ _ _ visited

end SyncSubject

/-- What the definitions ask of a volunteer's instance of one requirement: nothing is owed that
no role requires; what a role requires has an instance, which is parked while the age exempts or
the prerequisite is unmet, and in play otherwise. -/
structure AsSpecified (settings : Settings) (asOf : Date) (file : VolunteerFile)
    (definition : RequirementDefinition) : Prop where
  unrequired : definition.appliesToVolunteer (file.activeRoles settings) = false →
    ∀ row, file.requirementInstances definition.pk = some row → row.status.isOutstanding = false
  required : definition.appliesToVolunteer (file.activeRoles settings) = true →
    ∃ row, file.requirementInstances definition.pk = some row ∧
      (definition.isAgeExempt file.volunteer asOf = true ∨
          unmetPrerequisite settings.catalogue file.requirementInstances definition ≠ none →
        row.status.isOutstanding = false) ∧
      (definition.isAgeExempt file.volunteer asOf = false →
        unmetPrerequisite settings.catalogue file.requirementInstances definition = none →
        row.status ≠ .notApplicable)

theorem asSpecified_of_still {settings : Settings} {asOf : Date} {file : VolunteerFile}
    (still : (syncSubject settings asOf file).result.1 = file.requirementInstances)
    {definition : RequirementDefinition} (listed : definition ∈ settings.catalogue.active) :
    AsSpecified settings asOf file definition := by
  have rows : (syncSubject settings asOf file).rowsAt definition = file.requirementInstances :=
    (syncSubject settings asOf file).rowsAt_of_still still listed
  have left := (syncSubject settings asOf file).result_of_mem definition listed
  rw [still, rows] at left
  have keepsStill : ∀ row, file.requirementInstances definition.pk = some row →
      (syncSubject settings asOf file).reconciled file.requirementInstances definition row =
        row := by
    intro row present
    rw [((syncSubject settings asOf file).turn_of_some _ definition present).1, present] at left
    exact (Option.some.inj left).symm
  have parking : (syncSubject settings asOf file).parkingReason file.requirementInstances
      definition = none ↔ definition.appliesToVolunteer (file.activeRoles settings) = true ∧
        definition.isAgeExempt file.volunteer asOf = false ∧
        unmetPrerequisite settings.catalogue file.requirementInstances definition = none :=
    (syncSubject settings asOf file).parkingReason_none_iff _ definition
  refine ⟨?_, ?_⟩
  · intro unrequired row present
    obtain ⟨inPlay, _⟩ := (SyncSubject.reconciled_eq_self_iff _ _ _ _).mp (keepsStill row present)
    by_contra outstanding
    have applies := (parking.mp (inPlay (by simpa using outstanding)).1).1
    rw [unrequired] at applies
    cases applies
  · intro required
    cases present : file.requirementInstances definition.pk with
    | none =>
        have created := (syncSubject settings asOf file).turn_of_none file.requirementInstances
          definition present
        rw [show (syncSubject settings asOf file).applies definition = true from required,
          if_pos rfl] at created
        rw [created, present] at left
        cases left
    | some row =>
        obtain ⟨inPlay, parked⟩ :=
          (SyncSubject.reconciled_eq_self_iff _ _ _ _).mp (keepsStill row present)
        refine ⟨row, rfl, ?_, ?_⟩
        · intro held
          by_contra outstanding
          obtain ⟨_, notExempt, met⟩ := parking.mp (inPlay (by simpa using outstanding)).1
          rcases held with exempt | unmet
          · rw [notExempt] at exempt
            cases exempt
          · exact unmet met
        · intro notExempt met notApplicable
          exact parked notApplicable (parking.mpr ⟨required, notExempt, met⟩)

/-- After two syncs a third changes and counts nothing, and every requirement in force is as
specified. -/
theorem sync_settles_in_two (settings : Settings) (asOf : Date) (file : VolunteerFile) :
    let settled := synced settings asOf (synced settings asOf file)
    syncVolunteerRequirements settings asOf settled = (settled, .zero) ∧
      ∀ definition ∈ settings.catalogue.active, AsSpecified settings asOf settled definition := by
  intro settled
  have still : syncVolunteerRequirements settings asOf settled = (settled, .zero) := by
    refine (sync_twice_iff settings asOf (synced settings asOf file)).mpr ?_
    intro definition listed applies notExempt _
    exact (syncSubject settings asOf file).again_settlesAtOnce listed applies notExempt
  refine ⟨still, ?_⟩
  intro definition listed
  have rows : (syncSubject settings asOf settled).result.1 = settled.requirementInstances :=
    congrArg (fun outcome => outcome.1.requirementInstances) still
  exact asSpecified_of_still rows listed

end VolunteerScreening.Requirements
