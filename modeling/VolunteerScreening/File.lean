import VolunteerScreening.Documents.Models
import VolunteerScreening.Review.Models
import Mathlib.Logic.Function.Basic

/-!
# One volunteer's file, and the circumstances of a request

Every row the screening engine reads or writes hangs off one volunteer and is
never deleted, so a file is the volunteer's own row with its children; a child
row's key is its position.  Saving a volunteer or an assignment also queues one
resync for after the commit.
-/

namespace VolunteerScreening

open Calendar Fallible Org Requirements Review Documents

/-- What the church has configured.  The departments are listed by name. -/
structure Settings where
  catalogue : Catalogue
  roles : List Role
  departments : List Department
  documentMode : DocumentMode
  uploadLimit : UploadLimit
  isUrl : String → Bool
  administration : Core.Administration

/-- The circumstances of one request: the configuration, who acts, the local date and the
instant. -/
structure Ambient where
  settings : Settings
  actor : Core.Actor
  today : Date
  now : Nat

/-- A volunteer and every row that hangs off them.  A requirement instance goes by its
definition, of which a volunteer has at most one row. -/
structure VolunteerFile where
  volunteer : Volunteer
  assignments : List RoleAssignment
  requirementInstances : Pk → Option RequirementInstance
  crcRecords : List CRCRecord
  convictions : List DisqualifyingConviction
  overrides : List DiscretionaryOverride
  documents : List Document
  reviewItems : List ReviewItem

namespace Settings

variable (settings : Settings)

def roleNamed (pk : Pk) : String :=
  ((settings.roles.find? (·.pk == pk)).map (·.name)).getD ""

end Settings

namespace VolunteerFile

/-- A new volunteer's file: nothing recorded yet. -/
def opened (volunteer : Volunteer) : VolunteerFile :=
  ⟨volunteer, [], fun _ => none, [], [], [], [], []⟩

variable (file : VolunteerFile)

def activeRoles (settings : Settings) : List Role :=
  settings.roles.filter fun role =>
    file.assignments.any fun assignment => assignment.isActive && assignment.role == role.pk

def activeRoleNames (settings : Settings) : List String :=
  (file.assignments.filter (·.isActive)).map fun assignment => settings.roleNamed assignment.role

def hasActiveAssignment : Bool := file.assignments.any (·.isActive)

def saveInstance (definition : Pk) (row : RequirementInstance) : VolunteerFile :=
  { file with
    requirementInstances := Function.update file.requirementInstances definition (some row) }

@[simp]
theorem saveInstance_self (definition : Pk) (row : RequirementInstance) :
    (file.saveInstance definition row).requirementInstances definition = some row := by
  simp [saveInstance]

theorem saveInstance_other {definition other : Pk} (different : other ≠ definition)
    (row : RequirementInstance) :
    (file.saveInstance definition row).requirementInstances other =
      file.requirementInstances other := by
  simp [saveInstance, different]

@[simp]
theorem saveInstance_volunteer (definition : Pk) (row : RequirementInstance) :
    (file.saveInstance definition row).volunteer = file.volunteer := rfl

@[simp]
theorem saveInstance_assignments (definition : Pk) (row : RequirementInstance) :
    (file.saveInstance definition row).assignments = file.assignments := rfl

end VolunteerFile

/-- A transaction under way: the rows as written so far, and how many resyncs its saves have
queued for after the commit. -/
structure Work where
  file : VolunteerFile
  resyncs : Nat

namespace Work

def start (file : VolunteerFile) : Work := ⟨file, 0⟩

variable (work : Work)

def write (change : VolunteerFile → VolunteerFile) : Work := { work with file := change work.file }

def saveVolunteer (volunteer : Volunteer) : Work :=
  ⟨{ work.file with volunteer := volunteer.deriveBirth }, work.resyncs + 1⟩

def endAssignments (on : Date) : Work :=
  ⟨{ work.file with
      assignments := work.file.assignments.map fun assignment =>
        if assignment.isActive then assignment.finish on else assignment },
    work.resyncs + (work.file.assignments.filter (·.isActive)).length⟩

def setScreeningBlock (block : ScreeningBlock) (now : Nat) : Except Refusal Work := do
  let volunteer ← work.file.volunteer.setScreeningBlock block now
  return work.saveVolunteer volunteer

/-- Setting the block saves the volunteer, and never takes a disqualification away. -/
theorem setScreeningBlock_ok {work after : Work} {block : ScreeningBlock} {now : Nat}
    (success : work.setScreeningBlock block now = .ok after) :
    (work.file.volunteer.screeningBlock = .disqualified → block = .disqualified) ∧
      after = work.saveVolunteer { work.file.volunteer with
        screeningBlock := block
        screeningBlockRecordedAt := if block ≠ .none then some now else none } := by
  obtain ⟨volunteer, set, success⟩ := bind_eq_ok_iff.mp success
  obtain ⟨allowed, rfl⟩ := work.file.volunteer.setScreeningBlock_ok set
  exact ⟨allowed, (pure_eq_ok_iff.mp success).symm⟩

@[simp]
theorem saveVolunteer_screeningBlock (volunteer : Volunteer) :
    (work.saveVolunteer volunteer).file.volunteer.screeningBlock = volunteer.screeningBlock :=
  volunteer.deriveBirth_screeningBlock

@[simp]
theorem saveVolunteer_assignments (volunteer : Volunteer) :
    (work.saveVolunteer volunteer).file.assignments = work.file.assignments := rfl

@[simp]
theorem endAssignments_volunteer (on : Date) :
    (work.endAssignments on).file.volunteer = work.file.volunteer := rfl

theorem endAssignments_inactive (on : Date) :
    ∀ assignment ∈ (work.endAssignments on).file.assignments, assignment.isActive = false := by
  intro assignment listed
  obtain ⟨before, _, rfl⟩ := List.mem_map.mp listed
  cases active : before.isActive <;> simp [active]

@[simp]
theorem endAssignments_hasActiveAssignment (on : Date) :
    (work.endAssignments on).file.hasActiveAssignment = false := by
  simpa [VolunteerFile.hasActiveAssignment] using work.endAssignments_inactive on

end Work

/-! ## A small church, for worked examples -/

namespace Sample

def primaryAdmin : Core.User := ⟨1, "Primary Admin", true⟩

def departmentAdmin : Core.User := ⟨2, "Department Admin", true⟩

/-- One administrator sees the whole church, the other one department. -/
def administration : Core.Administration where
  users := [primaryAdmin, departmentAdmin]
  levels := fun level => ⟨level == 2, true⟩
  grants := [⟨1, 1, []⟩, ⟨2, 2, [1]⟩]

def settings (catalogue : Catalogue) : Settings where
  catalogue := catalogue
  roles := [⟨1, 1, "Nursery helper", false, true⟩]
  departments := [⟨1, "Children", true⟩]
  documentMode := .track
  uploadLimit := ⟨10485760, 10⟩
  isUrl := fun _ => true
  administration := administration

def day (month : Month) (day : Fin 28) : Date := .early 2026 month day

def january (number : Nat) : Date := day ⟨1, by decide⟩ (Fin.ofNat 28 number)

def february (number : Nat) : Date := day ⟨2, by decide⟩ (Fin.ofNat 28 number)

def march (number : Nat) : Date := day ⟨3, by decide⟩ (Fin.ofNat 28 number)

def byPrimaryAdmin (catalogue : Catalogue) (today : Date) : Ambient :=
  ⟨settings catalogue, ⟨some 1, "Primary Admin", false, false, []⟩, today, 0⟩

def byDepartmentAdmin (catalogue : Catalogue) (today : Date) : Ambient :=
  ⟨settings catalogue, ⟨some 2, "Department Admin", true, false, [1]⟩, today, 0⟩

def requirement (pk : Pk) (name : String) (sequence : Nat) : RequirementDefinition :=
  ⟨pk, name, .custom, .oneTime, none, .allRoles, [], .none, sequence, none, .warn, none, false,
    true⟩

def recordCheck : RequirementDefinition :=
  { requirement 9 "Criminal record check" 90 with
    requirementType := .criminalRecordCheck
    cadence := .every3Years
    ageRule := .adultsOnly }

def recordCheckOnly : Catalogue where
  definitions := [recordCheck]
  uniquePk := by decide
  uniqueName := by decide
  ordered := by decide

def orientation : RequirementDefinition := requirement 1 "Orientation training" 100

def orientationOnly : Catalogue where
  definitions := [orientation]
  uniquePk := by decide
  uniqueName := by decide
  ordered := by decide

def adult : Volunteer :=
  ⟨"Ada", "Stone", "", some 1990, some ⟨5, by decide⟩, none, none, false, .none, none, true, none,
    none⟩

end Sample

end VolunteerScreening
