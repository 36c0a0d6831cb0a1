import VolunteerScreening.Library.Distinct
import VolunteerScreening.Reporting.Compliance
import VolunteerScreening.Review.Views

/-!
# The dashboard, and the compliance report in full

The dashboard's columns, its tiles and its table of departments.  Each applies
the reader's access first; the department summary applies it to the departments,
and counts whoever serves in one.
-/

namespace VolunteerScreening.Reporting

open Calendar Org Requirements

abbrev Listed := VolunteerFile × Nat

/-! ## Access -/

def seesVolunteer (settings : Settings) (user : Option Core.User) (file : VolunteerFile) : Bool :=
  match user with
  | none => true
  | some user => volunteerInScope settings user file

def seesDepartment (settings : Settings) (user : Option Core.User) (department : Pk) : Bool :=
  match user with
  | none => true
  | some user => departmentInScope settings user department

def scopeVolunteers (church : Church) (user : Option Core.User) : List Listed :=
  church.files.zipIdx.filter fun listed => seesVolunteer church.settings user listed.1

def scopeDepartments (church : Church) (user : Option Core.User) : List Department :=
  church.departments.filter fun department =>
    department.isActive && seesDepartment church.settings user department.pk

def scopeRoles (church : Church) (user : Option Core.User) : List Role :=
  church.roles.filter fun role =>
    role.isActive && seesDepartment church.settings user role.department

/-! ## The columns -/

structure DashboardEntry where
  volunteerPk : Nat
  volunteer : Volunteer
  definition : RequirementDefinition
  row : RequirementInstance
  deriving DecidableEq

namespace DashboardEntry

variable (entry : DashboardEntry)

def listedBefore (first second : DashboardEntry) : Prop :=
  first.definition.sequence < second.definition.sequence ∨
    first.definition.sequence = second.definition.sequence ∧
      first.definition.name ≤ second.definition.name

instance : DecidableRel listedBefore := fun _ _ => inferInstanceAs (Decidable (_ ∨ _ ∧ _))

def dueBefore (asOf : Date) (first second : DashboardEntry) : Prop :=
  first.row.effectiveDueDate.getD asOf < second.row.effectiveDueDate.getD asOf ∨
    first.row.effectiveDueDate.getD asOf = second.row.effectiveDueDate.getD asOf ∧
      first.volunteer.sortName ≤ second.volunteer.sortName

instance (asOf : Date) : DecidableRel (dueBefore asOf) :=
  fun _ _ => inferInstanceAs (Decidable (_ ∨ _ ∧ _))

def nameBefore (first second : DashboardEntry) : Prop :=
  first.volunteer.sortName < second.volunteer.sortName ∨
    first.volunteer.sortName = second.volunteer.sortName ∧
      first.definition.sequence ≤ second.definition.sequence

instance : DecidableRel nameBefore := fun _ _ => inferInstanceAs (Decidable (_ ∨ _ ∧ _))

end DashboardEntry

structure DashboardFilters where
  department : Option Pk
  role : Option Pk
  requirementType : Option RequirementType
  deriving DecidableEq

def inForce (requirementType : Option RequirementType) (definition : RequirementDefinition) :
    Bool :=
  definition.isActive &&
    match requirementType with
    | none => true
    | some requirementType => definition.requirementType == requirementType

def instancesOf (catalogue : Catalogue) (requirementType : Option RequirementType)
    (listed : Listed) : List DashboardEntry :=
  (catalogue.definitions.filter (inForce requirementType)).filterMap fun definition =>
    (listed.1.requirementInstances definition.pk).map fun row =>
      ⟨listed.2, listed.1.volunteer, definition, row⟩

/-- Who serves there now: in the role asked for, or else in the department. -/
def DashboardFilters.selects (filters : DashboardFilters) (settings : Settings)
    (file : VolunteerFile) : Bool :=
  match filters.role, filters.department with
  | some role, _ => file.assignments.any fun assignment =>
      assignment.isActive && assignment.role == role
  | none, some department => (file.activeRoles settings).any (·.department == department)
  | none, none => true

def instanceQueryset (church : Church) (user : Option Core.User) (filters : DashboardFilters) :
    List DashboardEntry :=
  let volunteers := (scopeVolunteers church user).filter fun listed =>
    listed.1.volunteer.isActive && filters.selects church.settings listed.1
  (volunteers.flatMap (instancesOf church.catalogue filters.requirementType)).insertionSort
    DashboardEntry.listedBefore

structure Buckets where
  overdue : List DashboardEntry
  dueSoon : List DashboardEntry
  outstanding : List DashboardEntry
  satisfied : List DashboardEntry

structure BucketCounts where
  overdue : Nat
  dueSoon : Nat
  outstanding : Nat
  satisfied : Nat
  deriving DecidableEq

def Buckets.counts (buckets : Buckets) : BucketCounts :=
  ⟨buckets.overdue.length, buckets.dueSoon.length, buckets.outstanding.length,
    buckets.satisfied.length⟩

def buildBuckets (church : Church) (today : Date) (asOf : Option Date) (user : Option Core.User)
    (filters : DashboardFilters) : Buckets :=
  let asOf := asOf.getD today
  let column (bucket : RequirementInstance.Bucket) : List DashboardEntry :=
    (instanceQueryset church user filters).filter fun entry => entry.row.bucket today = bucket
  { overdue := (column .overdue).insertionSort (DashboardEntry.dueBefore asOf)
    dueSoon := (column .dueSoon).insertionSort (DashboardEntry.dueBefore asOf)
    outstanding := (column .outstanding).insertionSort DashboardEntry.nameBefore
    satisfied := column .satisfied }

/-! ## The departments -/

def bucketCounts (today : Date) (entries : List DashboardEntry) : BucketCounts :=
  let inColumn (bucket : RequirementInstance.Bucket) : Nat :=
    entries.countP fun entry => entry.row.bucket today = bucket
  ⟨inColumn .overdue, inColumn .dueSoon, inColumn .outstanding, inColumn .satisfied⟩

/-- An instance joined with a department its volunteer serves in. -/
structure ServedInstance where
  servedDepartment : Pk
  entry : DashboardEntry

def ServedInstance.key (served : ServedInstance) : Pk × Nat × Pk :=
  (served.servedDepartment, served.entry.volunteerPk, served.entry.definition.pk)

def servedInstances (church : Church) (departments : List Pk) : List ServedInstance :=
  church.files.zipIdx.flatMap fun listed =>
    if listed.1.volunteer.isActive then
      (listed.1.assignments.filter (·.isActive)).flatMap fun assignment =>
        (church.roles.filter fun role =>
            role.pk == assignment.role && departments.contains role.department).flatMap fun role =>
          (instancesOf church.catalogue none listed).map fun entry => ⟨role.department, entry⟩
    else []

def keepFirst (rows : List ServedInstance) : List ServedInstance :=
  Distinct.keepFirst ServedInstance.key rows

structure DepartmentSummary where
  department : Department
  volunteers : Nat
  requirements : Nat
  counts : BucketCounts
  needsAction : Nat
  deriving DecidableEq

def volunteerCount (church : Church) (department : Pk) : Nat :=
  church.files.zipIdx.countP fun listed =>
    listed.1.volunteer.isActive &&
      (listed.1.activeRoles church.settings).any (·.department == department)

def buildDepartmentSummary (church : Church) (today : Date) (user : Option Core.User) :
    List DepartmentSummary :=
  let departments := scopeDepartments church user
  let grouped := keepFirst (servedInstances church (departments.map (·.pk)))
  departments.map fun department =>
    let instancesHere :=
      (grouped.filter (·.servedDepartment == department.pk)).map (·.entry)
    let counts := bucketCounts today instancesHere
    { department := department
      volunteers := volunteerCount church department.pk
      requirements := instancesHere.length
      counts := counts
      needsAction := counts.overdue + counts.outstanding }

/-! ## The tiles -/

/-- Under eighteen as the tile counts it: an unknown birth date is not counted. -/
def isMinor (asOf : Date) (volunteer : Volunteer) : Bool :=
  match volunteer.birthYear with
  | none => false
  | some year => asOf.year - 18 < year ||
      (year == asOf.year - 18 &&
        match volunteer.birthMonth with
        | none => false
        | some month => asOf.month.val < month.val)

structure DashboardHeadline where
  activeVolunteers : Nat
  serving : Nat
  unassigned : Nat
  blocked : Nat
  departments : Nat
  roles : Nat
  minors : Nat
  deriving DecidableEq

/-- The counts of the summary tiles.  Those no longer in service count among the blocked. -/
def dashboardHeadline (church : Church) (today : Date) (asOf : Option Date)
    (user : Option Core.User) : DashboardHeadline :=
  let asOf := asOf.getD today
  let volunteers := (scopeVolunteers church user).filter (·.1.volunteer.isActive)
  let serving := volunteers.countP (·.1.hasActiveAssignment)
  { activeVolunteers := volunteers.length
    serving := serving
    unassigned := volunteers.length - serving
    blocked := (scopeVolunteers church user).countP (·.1.volunteer.isBlocked)
    departments := (scopeDepartments church user).length
    roles := (scopeRoles church user).length
    minors := volunteers.countP fun listed => isMinor asOf listed.1.volunteer }

/-! ## The compliance report in full -/

/-- The report with what it loads from elsewhere: the department of each role in each row, and the
age in days of the oldest entry that waits for review. -/
structure FullReport extends ComplianceReport where
  departments : List (List (Option Department))
  unverifiedOldestDays : Option Int

def unverifiedCreated (query : ReportQuery) (church : Church) (created : Review.CreationTimes) :
    List Nat :=
  (church.files.zipIdx.filter fun listed => query.shows church.settings listed.1).flatMap
    fun listed => listed.1.reviewItems.zipIdx.filterMap fun (item, position) =>
      if item.isOpen then some (created listed.2 position) else none

/-- `build_compliance_report`, with the instant at which it is run. -/
def fullComplianceReport (church : Church) (created : Review.CreationTimes) (today : Date)
    (now : Nat) (query : ReportQuery) : FullReport where
  toComplianceReport := buildComplianceReport church.settings today query church.files
  departments := (buildComplianceReport church.settings today query church.files).rows.map
    fun row => row.roles.map fun role => church.departments.find? (·.pk == role.department)
  unverifiedOldestDays := (unverifiedCreated query church created).min?.map fun oldest =>
    ((now : Int) - oldest) / Review.dayLength

end VolunteerScreening.Reporting
