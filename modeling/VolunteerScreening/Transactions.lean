import VolunteerScreening.Core.Tasks
import VolunteerScreening.Review.Entries

/-!
# One transaction at a time

A request is a transaction and the resyncs that follow it; a nightly sweep is a
transaction for every row it writes.  Whatever a transaction does, its own saves
come first, and one sync at most is the last thing it does to the instances.
-/

namespace VolunteerScreening

open Calendar Documents Fallible Org Requirements Review

def Operation.isSweep : Operation → Bool
  | .nightlySweep _ => true
  | _ => false

/-- One committed transaction on a file: a request's own, a resync, or a write of a sweep. -/
inductive Move where
  | transact (request : Request)
  | sync (settings : Settings) (asOf : Date)
  | sweep (settings : Settings) (asOf : Date) (write : Core.SweepStep)
      (planned : write ∈ Core.fileSteps settings.catalogue)

namespace Move

def today : Move → Date
  | transact request => request.ambient.today
  | sync _ asOf => asOf
  | sweep _ asOf _ _ => asOf

def settings : Move → Settings
  | transact request => request.ambient.settings
  | sync settings _ => settings
  | sweep settings _ _ _ => settings

/-- What a transaction leaves.  A sweep is no single transaction. -/
def after (file : VolunteerFile) : Move → VolunteerFile
  | transact request =>
      if request.operation.isSweep then file
      else
        Machine.attempt
          (fun file => (perform request.ambient request.operation file).map (·.file)) file
  | sync settings asOf => synced settings asOf file
  | sweep settings asOf write _ => Core.sweepStep settings asOf file write

end Move

def Request.moves (request : Request) (file : VolunteerFile) : List Move :=
  match request.operation with
  | .nightlySweep asOf =>
      (Core.fileSteps request.ambient.settings.catalogue).attach.map fun write =>
        .sweep request.ambient.settings asOf write.1 write.2
  | _ =>
      match perform request.ambient request.operation file with
      | .ok work =>
          .transact request ::
            List.replicate work.resyncs (.sync request.ambient.settings request.ambient.today)
      | .error _ => []

theorem run_resyncs (settings : Settings) (asOf : Date) (resyncs : Nat) (file : VolunteerFile) :
    Machine.run Move.after file (List.replicate resyncs (.sync settings asOf)) =
      (synced settings asOf)^[resyncs] file := by
  induction resyncs generalizing file with
  | zero => rfl
  | succ resyncs inductionHypothesis =>
      rw [List.replicate_succ, Machine.run_cons, inductionHypothesis, Function.iterate_succ_apply]
      rfl

theorem Move.after_of_ok {request : Request} {file : VolunteerFile} {work : Work}
    (single : request.operation.isSweep = false)
    (success : perform request.ambient request.operation file = .ok work) :
    Move.after file (.transact request) = work.file := by
  simp [Move.after, single, Machine.attempt, success, Except.map]

theorem Move.transact_cases (request : Request) (file : VolunteerFile) :
    Move.after file (.transact request) = file ∨
      ∃ work, request.operation.isSweep = false ∧
        perform request.ambient request.operation file = .ok work ∧
        Move.after file (.transact request) = work.file := by
  cases single : request.operation.isSweep with
  | true => exact .inl (if_pos single)
  | false =>
      cases success : perform request.ambient request.operation file with
      | error refusal =>
          refine .inl ?_
          simp [Move.after, single, Machine.attempt, success, Except.map]
      | ok work => exact .inr ⟨work, rfl, rfl, Move.after_of_ok single success⟩

theorem run_moves {request : Request} (single : request.operation.isSweep = false)
    (file : VolunteerFile) :
    Machine.run Move.after file (request.moves file) = step file request := by
  have unswept : request.moves file =
      match perform request.ambient request.operation file with
      | .ok work =>
          .transact request ::
            List.replicate work.resyncs (.sync request.ambient.settings request.ambient.today)
      | .error _ => [] := by
    unfold Request.moves
    cases operation : request.operation with
    | nightlySweep => simp [operation, Operation.isSweep] at single
    | _ => rfl
  obtain ⟨⟨refusal, refused⟩, same⟩ | ⟨work, success, committed⟩ := step_cases file request
  · rw [unswept, refused, same]
    rfl
  · rw [unswept, success, committed, Machine.run_cons, Move.after_of_ok single success,
      run_resyncs]
    rfl

theorem run_sweeps (settings : Settings) (asOf : Date) (file : VolunteerFile)
    (steps : List { write // write ∈ Core.fileSteps settings.catalogue }) :
    Machine.run Move.after file (steps.map fun write => .sweep settings asOf write.1 write.2) =
      Machine.run (Core.sweepStep settings asOf) file (steps.map (·.1)) := by
  induction steps generalizing file with
  | nil => rfl
  | cons write rest inductionHypothesis => exact inductionHypothesis _

theorem run_moves_sweep {request : Request} {asOf : Date}
    (sweeps : request.operation = .nightlySweep asOf) (file : VolunteerFile)
    {definition : RequirementDefinition}
    (listed : definition ∈ request.ambient.settings.catalogue.definitions) :
    (Machine.run Move.after file (request.moves file)).requirementInstances definition.pk =
      (step file request).requirementInstances definition.pk := by
  have swept : request.moves file =
      (Core.fileSteps request.ambient.settings.catalogue).attach.map fun write =>
        .sweep request.ambient.settings asOf write.1 write.2 := by
    simp [Request.moves, sweeps]
  have success : perform request.ambient request.operation file =
      .ok (Work.start (sweepVolunteer request.ambient.settings asOf file)) := by
    rw [sweeps]
    rfl
  rw [swept, run_sweeps, List.attach_map_subtype_val, Core.run_fileSteps_row file listed,
    step_of_ok success]
  rfl

end VolunteerScreening
