import VolunteerScreening.Library.Sessions
import VolunteerScreening.Operations

/-!
# Permanence when requests interleave

Each request decides from the rows it loaded and writes its own columns later.
A disqualification is lost to a request that loaded the volunteer before it and
commits after it.
-/

namespace VolunteerScreening

open Calendar Fallible Org Requirements

/-- The requests that touch the block or the assignments. -/
inductive BlockRequest where
  | recordConvictions (check : Nat) (entries : List ConvictionEntry)
  | recordCrc (report : CheckReport)
  | resolveNotClear (check : Nat) (outcome : CRCNotClearOutcome) (notes : String)
  | volunteerEdit (user : Core.User) (form : VolunteerForm)
  | assignmentCreate (user : Core.User) (role : Pk) (startedOn : Date)

def BlockRequest.operation : BlockRequest → Operation
  | .recordConvictions check entries => .recordConvictions check entries
  | .recordCrc report => .recordCrc report
  | .resolveNotClear check outcome notes => .resolveNotClear check outcome notes
  | .volunteerEdit user form => .volunteerEdit user form
  | .assignmentCreate user role startedOn => .assignmentCreate user role startedOn

structure Screen where
  ambient : Ambient
  request : BlockRequest

/-- The volunteer's rows in the database, and whether a disqualification has been committed.  The
instances, the documents and the queue take no part in what these requests decide, and stay. -/
structure Rows where
  file : VolunteerFile
  disqualified : Bool

/-! ## What a commit writes -/

section Writes

variable (ambient : Ambient) (loaded seen current : VolunteerFile) (work : Work)

/-- `save(update_fields=[...])` of the block, with the birth columns that `save` adds when the
loaded row has a date of birth. -/
def saveBlock : VolunteerFile :=
  { current with
    volunteer := { current.volunteer with
      screeningBlock := work.file.volunteer.screeningBlock
      screeningBlockRecordedAt := work.file.volunteer.screeningBlockRecordedAt
      birthYear :=
        if loaded.volunteer.dateOfBirth.isSome then work.file.volunteer.birthYear
        else current.volunteer.birthYear
      birthMonth :=
        if loaded.volunteer.dateOfBirth.isSome then work.file.volunteer.birthMonth
        else current.volunteer.birthMonth } }

/-- `RoleAssignment.end` on every assignment that was active when the request looked. -/
def endSeen : VolunteerFile :=
  { current with
    assignments := current.assignments.mapIdx fun position assignment =>
      if (seen.assignments[position]?).any (·.isActive) then assignment.finish ambient.today
      else assignment }

def insertCheck (report : CheckReport) : VolunteerFile :=
  { current with
    crcRecords :=
      (match previousCheck seen.crcRecords with
        | some previous =>
            current.crcRecords.modify previous fun check =>
              { check with supersededBy := some current.crcRecords.length }
        | none => current.crcRecords) ++
        [report.record (crcInstanceFor ambient.settings seen)] }

def saveOutcome (check : Nat) (outcome : CRCNotClearOutcome) (notes : String) : VolunteerFile :=
  { current with
    crcRecords := current.crcRecords.modify check fun record =>
      { record with
        notClearOutcome := some outcome
        notes := ((loaded.crcRecords[check]?).map fun before =>
          (before.resolved outcome notes).notes).getD record.notes } }

end Writes

def setsBlock (result : CRCResult) (loaded : VolunteerFile) : Bool :=
  result == .notClear || loaded.volunteer.screeningBlock == .crcNotClear

/-- What a request that its loaded rows allow writes to the rows as they now are.  The unique
constraint refuses a second active assignment to one role. -/
def BlockRequest.write (request : BlockRequest) (ambient : Ambient) (loaded seen : VolunteerFile)
    (work : Work) (current : VolunteerFile) : VolunteerFile :=
  match request with
  | .recordConvictions _ entries =>
      let recorded := { current with
        convictions :=
          current.convictions ++ work.file.convictions.drop loaded.convictions.length }
      if entries.any (·.isAutomaticDisqualifier) then
        saveBlock loaded (endSeen ambient seen recorded) work
      else recorded
  | .recordCrc report =>
      let recorded := insertCheck ambient seen current report
      if setsBlock report.result loaded then saveBlock loaded recorded work else recorded
  | .resolveNotClear check outcome notes =>
      let recorded := saveOutcome loaded current check outcome notes
      if outcome = .withdrew then endSeen ambient seen (saveBlock loaded recorded work)
      else recorded
  | .volunteerEdit _ _ => { current with volunteer := work.file.volunteer }
  | .assignmentCreate _ role startedOn =>
      if current.assignments.any fun assignment =>
          assignment.isActive && assignment.role == role then current
      else { current with assignments := current.assignments ++ [⟨role, startedOn, none, true⟩] }

def BlockRequest.disqualifies : BlockRequest → Bool
  | .recordConvictions _ entries => entries.any (·.isAutomaticDisqualifier)
  | _ => false

def commitRequest (session : Session Rows Screen) (current : Rows) : Rows :=
  let ⟨ambient, request⟩ := session.request
  match perform ambient request.operation session.loaded.file with
  | .error _ => current
  | .ok work =>
      ⟨request.write ambient session.loaded.file session.seen.file work current.file,
        current.disqualified || request.disqualifies⟩

/-! ## What is kept -/

/-- Once a disqualification has been committed, the block stands and nobody serves. -/
def Rows.Barred (rows : Rows) : Prop :=
  rows.disqualified = true → rows.file.volunteer.screeningBlock = .disqualified ∧
    ∀ assignment ∈ rows.file.assignments, assignment.isActive = false

/-- Once a disqualification has been committed, no commit stores another block, and when every
request has finished no assignment is active. -/
def Permanent (shared : SharedStore Rows Screen) : Prop :=
  shared.store.disqualified = true →
    shared.store.file.volunteer.screeningBlock = .disqualified ∧
      (shared.Quiet → ∀ assignment ∈ shared.store.file.assignments, assignment.isActive = false)

/-- Whether a request writes a block of its own, or inserts an assignment. -/
def BlockRequest.overwrites (loaded : VolunteerFile) : BlockRequest → Bool
  | .recordConvictions _ _ => false
  | .recordCrc report => setsBlock report.result loaded
  | .resolveNotClear _ outcome _ => outcome == .withdrew
  | .volunteerEdit _ _ => true
  | .assignmentCreate _ _ _ => true

/-- The condition on a commit.  After a disqualification, a request that loaded another block and
goes through leaves the block and the assignments alone; and a disqualifying request had seen
every assignment that is active when it commits. -/
structure InTurn (session : Session Rows Screen) (current : Rows) : Prop where
  fresh : current.disqualified = true →
    session.loaded.file.volunteer.screeningBlock ≠ .disqualified →
    (∃ work, perform session.request.ambient session.request.request.operation
      session.loaded.file = .ok work) →
    session.request.request.overwrites session.loaded.file = false
  looked : session.request.request.disqualifies = true →
    ∀ (position : Nat) (assignment : RoleAssignment),
      current.file.assignments[position]? = some assignment → assignment.isActive = true →
      (session.seen.file.assignments[position]?).any (·.isActive) = true

section Commit

variable {ambient : Ambient} {loaded seen current : VolunteerFile} {work : Work}

theorem endSeen_inactive
    (looked : ∀ (position : Nat) (assignment : RoleAssignment),
      current.assignments[position]? = some assignment → assignment.isActive = true →
      (seen.assignments[position]?).any (·.isActive) = true) :
    ∀ assignment ∈ (endSeen ambient seen current).assignments, assignment.isActive = false := by
  intro assignment listed
  obtain ⟨position, inFile, rfl⟩ := List.mem_mapIdx.mp listed
  split
  · rfl
  · next unseen =>
      by_contra active
      exact unseen (looked position _ (List.getElem?_eq_getElem inFile) (by simpa using active))

theorem recordConvictions_bars {check : Nat} {entries : List ConvictionEntry}
    (automatic : entries.any (·.isAutomaticDisqualifier) = true)
    (success : recordConvictions ambient check entries loaded = .ok work)
    (looked : ∀ (position : Nat) (assignment : RoleAssignment),
      current.assignments[position]? = some assignment → assignment.isActive = true →
      (seen.assignments[position]?).any (·.isActive) = true) :
    let after := (BlockRequest.recordConvictions check entries).write ambient loaded seen work
      current
    after.volunteer.screeningBlock = .disqualified ∧
      ∀ assignment ∈ after.assignments, assignment.isActive = false := by
  obtain ⟨created, items, alike, _, rfl⟩ := recordConvictions_ok success
  unfold BlockRequest.write
  dsimp only
  rw [if_pos automatic]
  refine ⟨?_, ?_⟩
  · show (convictionsWritten ambient created loaded).file.volunteer.screeningBlock = .disqualified
    unfold convictionsWritten
    rw [alike, if_pos automatic]
    exact applyPermanentDisqualification_block ambient _
  · exact @endSeen_inactive ambient seen _ looked

theorem write_of_not_overwrites {request : BlockRequest}
    (spares : request.overwrites loaded = false) (mild : request.disqualifies = false) :
    (request.write ambient loaded seen work current).volunteer = current.volunteer ∧
      (request.write ambient loaded seen work current).assignments = current.assignments := by
  cases request with
  | recordConvictions check entries =>
      have discretionary : entries.any (·.isAutomaticDisqualifier) = false := mild
      unfold BlockRequest.write
      simp [discretionary]
  | recordCrc report =>
      have silent : setsBlock report.result loaded = false := spares
      unfold BlockRequest.write
      simp [silent, insertCheck]
  | resolveNotClear check outcome notes =>
      have stays : outcome ≠ .withdrew := by simpa [BlockRequest.overwrites] using spares
      unfold BlockRequest.write
      simp [stays, saveOutcome]
  | volunteerEdit user form => cases spares
  | assignmentCreate user role startedOn => cases spares

/-- A request that loaded the disqualification and goes through leaves the bar where it is. -/
theorem write_of_loaded {request : BlockRequest}
    (loadedBlock : loaded.volunteer.screeningBlock = .disqualified)
    (mild : request.disqualifies = false)
    (success : perform ambient request.operation loaded = .ok work)
    (block : current.volunteer.screeningBlock = .disqualified) :
    (request.write ambient loaded seen work current).volunteer.screeningBlock = .disqualified ∧
      (request.write ambient loaded seen work current).assignments = current.assignments := by
  have spared : request.overwrites loaded = false →
      (request.write ambient loaded seen work current).volunteer.screeningBlock =
          .disqualified ∧
        (request.write ambient loaded seen work current).assignments = current.assignments := by
    intro spares
    obtain ⟨sameVolunteer, sameAssignments⟩ :=
      @write_of_not_overwrites ambient loaded seen current work request spares mild
    exact ⟨(congrArg Volunteer.screeningBlock sameVolunteer).trans block, sameAssignments⟩
  cases request with
  | recordConvictions check entries => exact spared rfl
  | recordCrc report => exact absurd loadedBlock (recordCrc_ok success).1
  | resolveNotClear check outcome notes =>
      by_cases withdrew : outcome = .withdrew
      · subst withdrew
        obtain ⟨_, _, success⟩ := bind_eq_ok_iff.mp success
        obtain ⟨_, _, success⟩ := bind_eq_ok_iff.mp success
        obtain ⟨_, _, withdrawn⟩ := bind_eq_ok_iff.mp success
        exact absurd loadedBlock (withdraw_ok withdrawn).1
      · exact spared (by simp [BlockRequest.overwrites, withdrew])
  | volunteerEdit user form =>
      obtain ⟨_, _, _, rfl⟩ := volunteerEdit_ok success
      have written := (Work.saveVolunteer_screeningBlock (Work.start loaded)
        (form.applied loaded.volunteer)).trans loadedBlock
      exact ⟨written, rfl⟩
  | assignmentCreate user role startedOn =>
      obtain ⟨_, ⟨_, _, _, offered⟩, _⟩ := assignmentCreate_ok success
      have barred : loaded.volunteer.isPermanentlyDisqualified = true := by
        simp [Volunteer.isPermanentlyDisqualified, loadedBlock]
      simp [offersRole, barred] at offered

end Commit

theorem commitRequest_barred {session : Session Rows Screen} {current : Rows}
    (barred : current.Barred) (inTurn : InTurn session current) :
    (commitRequest session current).Barred := by
  obtain ⟨⟨ambient, request⟩, loaded, seen⟩ := session
  unfold commitRequest
  dsimp only
  cases performed : perform ambient request.operation loaded.file with
  | error refusal => exact barred
  | ok work =>
      dsimp only
      cases disqualifies : request.disqualifies with
      | true =>
          cases request with
          | recordConvictions check entries =>
              exact fun _ => recordConvictions_bars disqualifies performed
                (inTurn.looked disqualifies)
          | recordCrc | resolveNotClear | volunteerEdit | assignmentCreate => cases disqualifies
      | false =>
          intro before
          have already : current.disqualified = true := by simpa using before
          obtain ⟨block, inactive⟩ := barred already
          by_cases loadedBlock : loaded.file.volunteer.screeningBlock = .disqualified
          · obtain ⟨kept, same⟩ := @write_of_loaded ambient loaded.file seen.file current.file work
              request loadedBlock disqualifies performed block
            refine ⟨kept, ?_⟩
            dsimp only
            rw [same]
            exact inactive
          · have spares := inTurn.fresh already loadedBlock ⟨work, performed⟩
            obtain ⟨sameVolunteer, same⟩ := @write_of_not_overwrites ambient loaded.file seen.file
              current.file work request spares disqualifies
            refine ⟨(congrArg Volunteer.screeningBlock sameVolunteer).trans block, ?_⟩
            dsimp only
            rw [same]
            exact inactive

/-- A volunteer's rows before any of the requests has begun. -/
def unattended (file : VolunteerFile) : SharedStore Rows Screen := ⟨⟨file, false⟩, []⟩

/-- In every interleaving whose commits come in their turn, a disqualification is permanent. -/
theorem disqualification_kept (file : VolunteerFile) (moves : List (SessionMove Screen))
    (inTurn : Machine.Guarded (SharedStore.step commitRequest) (SharedStore.onFinish InTurn)
      (unattended file) moves) :
    Machine.Always (SharedStore.step commitRequest) Permanent (unattended file) moves := by
  have barred : Machine.Always (SharedStore.step commitRequest) (fun shared => shared.store.Barred)
      (unattended file) moves := by
    refine SharedStore.always_of_finishing commitRequest InTurn Rows.Barred ?_ ?_ inTurn
    · intro session current
      exact commitRequest_barred
    · intro committed
      cases committed
  refine barred.imp ?_
  intro shared holds committed
  obtain ⟨block, inactive⟩ := holds committed
  exact ⟨block, fun _ => inactive⟩

def screenedFile : VolunteerFile :=
  { VolunteerFile.opened Sample.adult with
    assignments := [⟨1, Sample.january 3, none, true⟩]
    crcRecords := [CheckReport.record
      ⟨.notClear, Sample.february 0, true, false, "", ""⟩ none] }

def screenCircumstances : Ambient :=
  Sample.byPrimaryAdmin Sample.recordCheckOnly (Sample.march 0)

def convicting : Screen :=
  ⟨screenCircumstances, .recordConvictions 0 [⟨"Abduction", true, "", none, ""⟩]⟩

def editing : Screen :=
  ⟨screenCircumstances, .volunteerEdit Sample.primaryAdmin ⟨"Ada", "Grey", "", none, none, false⟩⟩

theorem disqualification_kept_edited :
    Machine.Always (SharedStore.step commitRequest) Permanent (unattended screenedFile)
      [.load convicting, .finish 0, .load editing, .finish 1] := by
  refine disqualification_kept screenedFile _ ⟨?_, ?_, ?_, ?_, trivial⟩
  · intro session under finishes
    cases finishes
  · intro session under finishes begun
    cases finishes
    cases begun
    constructor
    · intro committed
      cases committed
    · intro disqualifies position assignment found active
      have loaded : screenedFile.assignments[position]? = some assignment := found
      show (screenedFile.assignments[position]?).any (·.isActive) = true
      simpa [loaded] using active
  · intro session under finishes
    cases finishes
  · intro session under finishes begun
    cases finishes
    cases begun
    constructor
    · intro committed stale
      exact absurd rfl stale
    · intro disqualifies
      cases disqualifies

/-- An edit that loaded the volunteer before the disqualification takes it away. -/
theorem disqualification_overwritten :
    ∃ shared, Machine.run (SharedStore.step commitRequest) (unattended screenedFile)
        [.load editing, .load convicting, .finish 1, .finish 0] = shared ∧
      shared.store.disqualified = true ∧
      shared.store.file.volunteer.screeningBlock = .none ∧ ¬Permanent shared := by
  refine ⟨_, rfl, rfl, rfl, ?_⟩
  intro permanent
  cases (permanent rfl).1

end VolunteerScreening
