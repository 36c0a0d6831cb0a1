import VolunteerScreening.Documents.Services
import VolunteerScreening.Library.Machine
import VolunteerScreening.Org.Requests
import VolunteerScreening.Requirements.Nightly
import VolunteerScreening.Review.Decisions

/-!
# Everything that can be done to a file

One request is one operation under its own circumstances.  A request that raises
is rolled back whole; one that succeeds commits, and the resyncs its saves
queued run after it.  A church is its files side by side.
-/

namespace VolunteerScreening

open Calendar Documents Org Requirements Review

inductive Operation where
  | markRequirementComplete (definition : Pk) (completedOn : Date) (notes : String)
  | startRequirement (definition : Pk)
  | waiveRequirement (definition : Pk) (reason waivedBy : String)
  | reverseWaiver (definition : Pk) (reason : String)
  | recordCrc (report : CheckReport)
  | recordConvictions (check : Nat) (entries : List ConvictionEntry)
  | recordDiscretionaryOverride (check : Nat) (entry : DecisionEntry)
  | resolveNotClear (check : Nat) (outcome : CRCNotClearOutcome) (notes : String)
  | storeDocument (entry : DocumentEntry)
  | affirm (user : Core.User) (item : Nat)
  | sendBack (user : Core.User) (item : Nat) (reason : String)
  | assignmentCreate (user : Core.User) (role : Pk) (startedOn : Date)
  | assignmentEnd (user : Core.User) (assignment : Nat) (endedOn : Option Date)
  | volunteerEdit (user : Core.User) (form : VolunteerForm)
  | volunteerDeactivate (user : Core.User) (stoppedServingOn : Date) (endAssignments : Bool)
  | volunteerReactivate (user : Core.User)
  | volunteerResync (user : Core.User)
  | syncVolunteerRequirements (asOf : Date)
  | nightlySweep (asOf : Date)

def Operation.isEdit : Operation → Bool
  | .volunteerEdit .. => true
  | _ => false

structure Request where
  ambient : Ambient
  operation : Operation

def perform (ambient : Ambient) (operation : Operation) (file : VolunteerFile) :
    Except Refusal Work :=
  match operation with
  | .markRequirementComplete definition completedOn notes =>
      (markRequirementComplete ambient definition completedOn notes true file).map Work.start
  | .startRequirement definition => (startRequirement ambient definition file).map Work.start
  | .waiveRequirement definition reason waivedBy =>
      (waiveRequirement ambient definition reason waivedBy file).map Work.start
  | .reverseWaiver definition reason =>
      (reverseWaiver ambient definition reason none file).map Work.start
  | .recordCrc report => recordCrc ambient report file
  | .recordConvictions check entries => recordConvictions ambient check entries file
  | .recordDiscretionaryOverride check entry =>
      recordDiscretionaryOverride ambient check entry file
  | .resolveNotClear check outcome notes => resolveNotClear ambient check outcome notes file
  | .storeDocument entry => (storeDocument ambient entry file).map Work.start
  | .affirm user item => (affirm ambient user item file).map Work.start
  | .sendBack user item reason => (sendBack ambient user item reason file).map Prod.fst
  | .assignmentCreate user role startedOn => assignmentCreate ambient user role startedOn file
  | .assignmentEnd user assignment endedOn => assignmentEnd ambient user assignment endedOn file
  | .volunteerEdit user form => volunteerEdit ambient user form file
  | .volunteerDeactivate user stoppedServingOn endAssignments =>
      volunteerDeactivate ambient user stoppedServingOn endAssignments file
  | .volunteerReactivate user => volunteerReactivate ambient user file
  | .volunteerResync user => volunteerResync ambient user file
  | .syncVolunteerRequirements asOf =>
      .ok (Work.start (synced ambient.settings asOf file))
  | .nightlySweep asOf => .ok (Work.start (sweepVolunteer ambient.settings asOf file))

/-- The file a request leaves when it succeeds. -/
def Request.outcome (request : Request) (file : VolunteerFile) : Except Refusal VolunteerFile :=
  (perform request.ambient request.operation file).map (·.commit request.ambient)

def Request.isRefused (request : Request) (file : VolunteerFile) : Bool :=
  match perform request.ambient request.operation file with
  | .ok _ => false
  | .error _ => true

theorem Request.isRefused_of_error {request : Request} {file : VolunteerFile} {refusal : Refusal}
    (failure : perform request.ambient request.operation file = .error refusal) :
    request.isRefused file = true := by
  simp [isRefused, failure]

theorem Request.isRefused_of_ok {request : Request} {file : VolunteerFile} {work : Work}
    (success : perform request.ambient request.operation file = .ok work) :
    request.isRefused file = false := by
  simp [isRefused, success]

/-- One request on one file; a request that raises changes nothing. -/
def step (file : VolunteerFile) (request : Request) : VolunteerFile :=
  Machine.attempt request.outcome file

/-- One request on one of a church's files. -/
def churchStep : List VolunteerFile → Nat × Request → List VolunteerFile := Machine.stepAt step

def newChurch (volunteers : List Volunteer) : List VolunteerFile :=
  volunteers.map fun volunteer => VolunteerFile.opened volunteer.deriveBirth

theorem step_cases (file : VolunteerFile) (request : Request) :
    (∃ refusal, perform request.ambient request.operation file = .error refusal) ∧
        step file request = file ∨
      ∃ work, perform request.ambient request.operation file = .ok work ∧
        step file request = work.commit request.ambient := by
  unfold step Machine.attempt Request.outcome
  cases perform request.ambient request.operation file with
  | error refusal => exact .inl ⟨⟨refusal, rfl⟩, rfl⟩
  | ok work => exact .inr ⟨work, rfl, rfl⟩

theorem step_of_ok {file : VolunteerFile} {request : Request} {work : Work}
    (success : perform request.ambient request.operation file = .ok work) :
    step file request = work.commit request.ambient := by
  simp [step, Machine.attempt, Request.outcome, success, Except.map]

/-- What relates a file to itself, to what each transaction writes and to what a resync leaves,
relates it to what a request leaves. -/
theorem step_induction {relation : VolunteerFile → VolunteerFile → Prop} {request : Request}
    {file : VolunteerFile} (unchanged : relation file file)
    (written : ∀ work, perform request.ambient request.operation file = .ok work →
      relation file work.file)
    (resynced : ∀ after, relation file after →
      relation file (synced request.ambient.settings request.ambient.today after)) :
    relation file (step file request) := by
  refine Machine.attempt_induction (motive := relation file) unchanged ?_
  intro after success
  unfold Request.outcome at success
  cases performed : perform request.ambient request.operation file with
  | error refusal => simp [performed, Except.map] at success
  | ok work =>
      simp only [performed, Except.map, Except.ok.injEq] at success
      have start := written work performed
      subst success
      obtain ⟨middle, resyncs⟩ := work
      clear performed written
      induction resyncs generalizing middle with
      | zero => exact start
      | succ resyncs inductionHypothesis =>
          rw [Work.commit_succ]
          exact inductionHypothesis _ (resynced _ start)

end VolunteerScreening
