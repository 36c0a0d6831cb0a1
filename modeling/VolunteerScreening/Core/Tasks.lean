import VolunteerScreening.Library.Machine
import VolunteerScreening.Notifications.Services
import VolunteerScreening.Requirements.Nightly
import VolunteerScreening.Requirements.Settling

/-!
# The nightly sweep of a church

Row by row and in order: every volunteer's list is synced, the checks of those
who have turned 18 are switched on, every status is brought in line with the
date, and the reminders go out.  A sweep that fails has written the rows it had
come to.
-/

namespace VolunteerScreening.Core

open Calendar Machine Notifications Requirements Tenants

/-- One write of the sweep, to one volunteer's file. -/
inductive SweepStep where
  | sync
  | ageScan (definition : RequirementDefinition)
  | recompute (definition : RequirementDefinition)

/-- The sweep passes over those who no longer serve. -/
def sweepStep (settings : Settings) (asOf : Date) (file : VolunteerFile) :
    SweepStep → VolunteerFile
  | .sync => if file.volunteer.isActive then synced settings asOf file else file
  | .ageScan definition =>
      match file.requirementInstances definition.pk with
      | none => file
      | some row =>
          if file.volunteer.isActive ∧ row.status = .notApplicable ∧
              turns18 settings asOf file file.requirementInstances definition then
            file.saveInstance definition.pk
              (activate settings.catalogue file.requirementInstances file.volunteer definition row)
          else file
  | .recompute definition =>
      match file.requirementInstances definition.pk with
      | none => file
      | some row =>
          if file.volunteer.isActive then file.saveInstance definition.pk (row.recompute asOf)
          else file

/-- What the sweep does to one file: the sync, then the scan of each requirement in force, then
each instance's recompute. -/
def fileSteps (catalogue : Catalogue) : List SweepStep :=
  .sync :: (catalogue.active.map .ageScan ++ catalogue.definitions.map .recompute)

/-- The sweep's writes before the reminders: one round over the volunteers for each. -/
def sweepSteps (church : Church) : List (Nat × SweepStep) :=
  (fileSteps church.catalogue).flatMap fun step =>
    (List.range church.files.length).map fun volunteer => (volunteer, step)

def sweptUpTo (church : Church) (asOf : Date) (writes : Nat) : Church :=
  { church with
    files := run (stepAt (sweepStep church.settings asOf)) church.files
      ((sweepSteps church).take writes) }

def swept (church : Church) (asOf : Date) : Church :=
  sweptUpTo church asOf (sweepSteps church).length

def sweepTenant (tenant : Tenant) (church : Church) (pass : Pass) (outbox : Outbox) :
    Church × Outbox × Except EmailSendError ReminderSummary :=
  let church := swept church pass.asOf
  (church, processTenantReminders tenant church pass outbox)

section File

variable {settings : Settings} {asOf : Date}

@[simp]
theorem sweepStep_volunteer (file : VolunteerFile) (step : SweepStep) :
    (sweepStep settings asOf file step).volunteer = file.volunteer := by
  unfold sweepStep
  cases step with
  | sync => dsimp only; split <;> rfl
  | ageScan definition =>
      dsimp only
      split
      · rfl
      · split <;> rfl
  | recompute definition =>
      dsimp only
      split
      · rfl
      · split <;> rfl

@[simp]
theorem sweepStep_reviewItems (file : VolunteerFile) (step : SweepStep) :
    (sweepStep settings asOf file step).reviewItems = file.reviewItems := by
  unfold sweepStep
  cases step with
  | sync => dsimp only; split <;> rfl
  | ageScan definition =>
      dsimp only
      split
      · rfl
      · split <;> rfl
  | recompute definition =>
      dsimp only
      split
      · rfl
      · split <;> rfl

theorem sweepStep_completedOn (file : VolunteerFile) (step : SweepStep) (pk : Pk) :
    ((sweepStep settings asOf file step).requirementInstances pk).bind (·.completedOn) =
      (file.requirementInstances pk).bind (·.completedOn) := by
  have rewritten : ∀ {other : Pk} {before row : RequirementInstance},
      file.requirementInstances other = some before → row.completedOn = before.completedOn →
      ((file.saveInstance other row).requirementInstances pk).bind (·.completedOn) =
        (file.requirementInstances pk).bind (·.completedOn) := by
    intro other before row there same
    by_cases self : pk = other
    · rw [self, VolunteerFile.saveInstance_self, there]
      exact same
    · rw [VolunteerFile.saveInstance_other _ self]
  unfold sweepStep
  cases step with
  | sync =>
      dsimp only
      split
      · exact (syncSubject settings asOf file).result_completedOn pk
      · rfl
  | ageScan definition =>
      dsimp only
      split
      · rfl
      · next before there =>
          split
          · refine rewritten there ?_
            obtain ⟨_, _, written⟩ := activate_eq settings.catalogue file.requirementInstances
              file.volunteer definition before
            rw [written]
          · rfl
  | recompute definition =>
      dsimp only
      split
      · rfl
      · next before there =>
          split
          · exact rewritten there (before.recompute_completedOn asOf)
          · rfl

/-- Where an instance stands after one write: as it was, as a sync, a scan or a recompute of it
leaves it. -/
theorem sweepStep_row {file : VolunteerFile} {step : SweepStep} {pk : Pk}
    {row : RequirementInstance}
    (present : (sweepStep settings asOf file step).requirementInstances pk = some row) :
    file.requirementInstances pk = some row ∨
      (step = .sync ∧ file.volunteer.isActive = true ∧
        (synced settings asOf file).requirementInstances pk = some row) ∨
      (∃ definition before, definition.pk = pk ∧ file.requirementInstances pk = some before ∧
        file.volunteer.isActive = true ∧ before.status = .notApplicable ∧
        turns18 settings asOf file file.requirementInstances definition = true ∧
        step = .ageScan definition ∧
        row = activate settings.catalogue file.requirementInstances file.volunteer definition
          before) ∨
      ∃ before, file.requirementInstances pk = some before ∧ row = before.recompute asOf := by
  unfold sweepStep at present
  cases step with
  | sync =>
      dsimp only at present
      split at present
      · next serving => exact .inr (.inl ⟨rfl, serving, present⟩)
      · exact .inl present
  | ageScan definition =>
      dsimp only at present
      split at present
      · exact .inl present
      · next before there =>
          split at present
          · next scanned =>
              by_cases self : pk = definition.pk
              · subst self
                rw [VolunteerFile.saveInstance_self] at present
                exact .inr (.inr (.inl ⟨definition, before, rfl, there, scanned.1, scanned.2.1,
                  scanned.2.2, rfl, (Option.some.inj present).symm⟩))
              · rw [VolunteerFile.saveInstance_other _ self] at present
                exact .inl present
          · exact .inl present
  | recompute definition =>
      dsimp only at present
      split at present
      · exact .inl present
      · next before there =>
          split at present
          · by_cases self : pk = definition.pk
            · subst self
              rw [VolunteerFile.saveInstance_self] at present
              exact .inr (.inr (.inr ⟨before, there, (Option.some.inj present).symm⟩))
            · rw [VolunteerFile.saveInstance_other _ self] at present
              exact .inl present
          · exact .inl present

theorem run_sweepStep_volunteer (file : VolunteerFile) (steps : List SweepStep) :
    (run (sweepStep settings asOf) file steps).volunteer = file.volunteer := by
  refine run_preserves _ (fun after : VolunteerFile => after.volunteer = file.volunteer) ?_ rfl
    steps
  intro after step same
  rw [sweepStep_volunteer, same]

theorem run_sweepStep_inactive {file : VolunteerFile} (stopped : file.volunteer.isActive = false)
    (steps : List SweepStep) : run (sweepStep settings asOf) file steps = file := by
  refine run_preserves _ (fun after => after = file) ?_ rfl steps
  rintro after step rfl
  unfold sweepStep
  cases step with
  | sync => simp [stopped]
  | ageScan definition =>
      dsimp only
      split
      · rfl
      · simp [stopped]
  | recompute definition =>
      dsimp only
      split
      · rfl
      · simp [stopped]

theorem run_ageScan {file : VolunteerFile} (serving : file.volunteer.isActive = true)
    (definitions : List RequirementDefinition) (unique : (definitions.map (·.pk)).Nodup)
    {rows : Instances}
    (untouched : ∀ definition ∈ definitions,
      rows definition.pk = file.requirementInstances definition.pk) :
    run (sweepStep settings asOf) { file with requirementInstances := rows }
        (definitions.map .ageScan) =
      { file with
        requirementInstances := definitions.foldl
          (fun rows definition =>
            match file.requirementInstances definition.pk with
            | some row =>
                if row.status = .notApplicable ∧ turns18 settings asOf file rows definition then
                  Function.update rows definition.pk
                    (some (activate settings.catalogue rows file.volunteer definition row))
                else rows
            | none => rows)
          rows } := by
  induction definitions generalizing rows with
  | nil => rfl
  | cons definition rest inductionHypothesis =>
      rw [List.map_cons, List.nodup_cons] at unique
      have same := untouched definition List.mem_cons_self
      rw [List.map_cons, run_cons, List.foldl_cons]
      cases present : file.requirementInstances definition.pk with
      | none =>
          rw [present] at same
          have skipped : sweepStep settings asOf { file with requirementInstances := rows }
              (.ageScan definition) = { file with requirementInstances := rows } := by
            unfold sweepStep
            simp only [same]
          rw [skipped]
          exact inductionHypothesis unique.2 fun other listed =>
            untouched other (List.mem_cons_of_mem _ listed)
      | some row =>
          rw [present] at same
          by_cases switched :
              row.status = .notApplicable ∧ turns18 settings asOf file rows definition = true
          · have written : sweepStep settings asOf { file with requirementInstances := rows }
                (.ageScan definition) = { file with
                  requirementInstances := Function.update rows definition.pk
                    (some (activate settings.catalogue rows file.volunteer definition row)) } := by
              unfold sweepStep
              simp only [same]
              exact if_pos ⟨serving, switched⟩
            dsimp only
            rw [written, if_pos switched]
            refine inductionHypothesis unique.2 fun other listed => ?_
            have later : other.pk ≠ definition.pk := by
              intro repeated
              exact unique.1 (repeated ▸ List.mem_map_of_mem listed)
            rw [Function.update_of_ne later]
            exact untouched other (List.mem_cons_of_mem _ listed)
          · have skipped : sweepStep settings asOf { file with requirementInstances := rows }
                (.ageScan definition) = { file with requirementInstances := rows } := by
              unfold sweepStep
              simp only [same]
              exact if_neg fun both => switched both.2
            dsimp only
            rw [skipped, if_neg switched]
            exact inductionHypothesis unique.2 fun other listed =>
              untouched other (List.mem_cons_of_mem _ listed)

theorem recompute_requirementInstances {file : VolunteerFile}
    (serving : file.volunteer.isActive = true) (definition : RequirementDefinition) :
    (sweepStep settings asOf file (.recompute definition)).requirementInstances =
      Function.update file.requirementInstances definition.pk
        ((file.requirementInstances definition.pk).map (·.recompute asOf)) := by
  unfold sweepStep
  dsimp only
  split
  · next absent =>
      rw [absent, Option.map_none, ← absent, Function.update_eq_self]
  · next row present =>
      rw [present, if_pos serving]
      rfl

theorem run_recompute {file : VolunteerFile} (serving : file.volunteer.isActive = true)
    (definitions : List RequirementDefinition) :
    (run (sweepStep settings asOf) file (definitions.map .recompute)).requirementInstances =
      Sweep.sweep (·.pk) (fun rows definition => (rows definition.pk).map (·.recompute asOf))
        file.requirementInstances definitions := by
  induction definitions generalizing file with
  | nil => rfl
  | cons definition rest inductionHypothesis =>
      have still : (sweepStep settings asOf file (.recompute definition)).volunteer.isActive =
          true := by
        rw [sweepStep_volunteer]
        exact serving
      rw [List.map_cons, run_cons, inductionHypothesis still,
        recompute_requirementInstances serving]
      rfl

theorem run_recompute_row {file : VolunteerFile} (serving : file.volunteer.isActive = true)
    {definition : RequirementDefinition} (listed : definition ∈ settings.catalogue.definitions) :
    (run (sweepStep settings asOf) file
        (settings.catalogue.definitions.map .recompute)).requirementInstances definition.pk =
      (recomputeAllStatuses asOf file).requirementInstances definition.pk := by
  obtain ⟨first, rest, split⟩ := List.append_of_mem listed
  have unique := settings.catalogue.uniquePk
  rw [split, List.map_append, List.map_cons, List.nodup_append, List.nodup_cons] at unique
  obtain ⟨_, ⟨notLater, _⟩, apart⟩ := unique
  have notEarlier : definition.pk ∉ first.map (·.pk) := fun earlier =>
    apart _ earlier _ List.mem_cons_self rfl
  rw [run_recompute serving, split, Sweep.sweep_at _ _ _ notLater,
    Sweep.sweep_of_not_mem _ _ _ notEarlier]
  rfl

theorem run_fileSteps_row (file : VolunteerFile) {definition : RequirementDefinition}
    (listed : definition ∈ settings.catalogue.definitions) :
    (run (sweepStep settings asOf) file
        (fileSteps settings.catalogue)).requirementInstances definition.pk =
      (sweepVolunteer settings asOf file).requirementInstances definition.pk := by
  unfold sweepVolunteer
  cases serving : file.volunteer.isActive with
  | false =>
      rw [run_sweepStep_inactive serving]
      rfl
  | true =>
      have synced' : sweepStep settings asOf file .sync = synced settings asOf file := by
        simp [sweepStep, serving]
      have scanned := @run_ageScan settings asOf (synced settings asOf file) serving
        settings.catalogue.active settings.catalogue.active_uniquePk
        (synced settings asOf file).requirementInstances (fun _ _ => rfl)
      unfold fileSteps
      rw [run_cons, synced', run_append]
      rw [show run (sweepStep settings asOf) (synced settings asOf file)
        (settings.catalogue.active.map .ageScan) =
          activateTurning18Checks settings asOf (synced settings asOf file) from scanned]
      rw [run_recompute_row (by exact serving) listed]
      rfl

end File

/-! ## One volunteer's part of the sweep -/

section Church

variable {church : Church} {asOf : Date}

theorem own_sweepSteps {volunteer : Nat} (within : volunteer < church.files.length) :
    own volunteer (sweepSteps church) = fileSteps church.catalogue :=
  own_rounds within _

/-- What a failed sweep leaves of a file: some of its own writes, in order. -/
theorem sweptUpTo_file (writes volunteer : Nat) :
    (sweptUpTo church asOf writes).files[volunteer]? =
      church.files[volunteer]?.map fun file =>
        run (sweepStep church.settings asOf) file
          (own volunteer ((sweepSteps church).take writes)) :=
  run_stepAt_getElem? _ _ _ _

theorem swept_file (volunteer : Nat) :
    (swept church asOf).files[volunteer]? =
      church.files[volunteer]?.map fun file =>
        run (sweepStep church.settings asOf) file (fileSteps church.catalogue) := by
  unfold swept
  rw [sweptUpTo_file, List.take_length]
  cases found : church.files[volunteer]? with
  | none => rfl
  | some file => rw [own_sweepSteps (List.getElem?_eq_some_iff.mp found).1]

end Church

end VolunteerScreening.Core
