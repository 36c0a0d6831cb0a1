import VolunteerScreening.Org.Requests
import Mathlib.Data.List.Sort

/-!
# The compliance report

Every volunteer the reader may see and asked for, with the requirements that
apply to them.  A row's verdict is counted from its instances; its label looks
at the screening block first.
-/

namespace VolunteerScreening.Reporting

open Calendar Org Requirements

structure VolunteerRow where
  volunteer : Volunteer
  instances : List (RequirementDefinition × RequirementInstance)
  roles : List Role

namespace VolunteerRow

variable (row : VolunteerRow) (today : Date)

def countIn (bucket : RequirementInstance.Bucket) : Nat :=
  row.instances.countP fun entry => entry.2.bucket today = bucket

def overdueCount : Nat := row.countIn today .overdue

def dueSoonCount : Nat := row.countIn today .dueSoon

def outstandingCount : Nat := row.countIn today .outstanding

/-- Nothing is owed right now. -/
def isCompliant : Bool := row.overdueCount today == 0 && row.outstandingCount today == 0

def statusLabel : String :=
  if row.volunteer.isPermanentlyDisqualified then "Disqualified"
  else if row.volunteer.isBlocked then "Blocked"
  else if row.overdueCount today ≠ 0 then "Overdue"
  else if row.outstandingCount today ≠ 0 then "In progress"
  else if row.dueSoonCount today ≠ 0 then "Coming due"
  else "Compliant"

end VolunteerRow

structure ReportQuery where
  department : Option Pk
  requirementType : Option RequirementType
  includeInactive : Bool
  asOf : Option Date
  user : Option Core.User

namespace ReportQuery

variable (query : ReportQuery)

def inScope (settings : Settings) (file : VolunteerFile) : Bool :=
  match query.user with
  | none => true
  | some user => volunteerInScope settings user file

/-- The reader's filters: in service, and serving in the department now. -/
def matchesFilter (settings : Settings) (file : VolunteerFile) : Bool :=
  (query.includeInactive || file.volunteer.isActive) &&
    match query.department with
    | none => true
    | some department => (file.activeRoles settings).any (·.department == department)

def shows (settings : Settings) (file : VolunteerFile) : Bool :=
  query.inScope settings file && query.matchesFilter settings file

def covers (definition : RequirementDefinition) : Bool :=
  definition.isActive &&
    match query.requirementType with
    | none => true
    | some requirementType => definition.requirementType == requirementType

def instances (settings : Settings) (file : VolunteerFile) :
    List (RequirementDefinition × RequirementInstance) :=
  (settings.catalogue.definitions.filter query.covers).filterMap fun definition =>
    (file.requirementInstances definition.pk).map fun row => (definition, row)

def nameBefore (first second : VolunteerFile) : Prop :=
  first.volunteer.lastName < second.volunteer.lastName ∨
    first.volunteer.lastName = second.volunteer.lastName ∧
      first.volunteer.firstName ≤ second.volunteer.firstName

instance : DecidableRel nameBefore := fun _ _ => inferInstanceAs (Decidable (_ ∨ _ ∧ _))

def entryBefore (first second : RequirementDefinition × RequirementInstance) : Prop :=
  first.1.sequence < second.1.sequence ∨
    first.1.sequence = second.1.sequence ∧ first.1.name ≤ second.1.name

instance : DecidableRel entryBefore := fun _ _ => inferInstanceAs (Decidable (_ ∨ _ ∧ _))

/-- The roles a volunteer serves in now, one for each active assignment, the latest first. -/
def servedRoles (settings : Settings) (file : VolunteerFile) : List Role :=
  ((file.assignments.filter (·.isActive)).insertionSort
    fun first second => second.startedOn ≤ first.startedOn).filterMap fun assignment =>
      settings.roles.find? (·.pk == assignment.role)

def row (settings : Settings) (file : VolunteerFile) : VolunteerRow where
  volunteer := file.volunteer
  instances := (query.instances settings file).insertionSort entryBefore
  roles := servedRoles settings file

def shown (settings : Settings) (files : List VolunteerFile) : List VolunteerFile :=
  (files.filter (query.shows settings)).insertionSort nameBefore

end ReportQuery

def roundHalfEven (numerator denominator : Nat) : Nat :=
  let quotient := numerator / denominator
  let remainder := numerator % denominator
  if 2 * remainder < denominator then quotient
  else if denominator < 2 * remainder then quotient + 1
  else quotient + quotient % 2

structure ComplianceReport where
  asOf : Date
  department : Option Pk
  requirementType : Option RequirementType
  unverifiedCount : Nat
  unverifiedVolunteers : Nat
  rows : List VolunteerRow
  compliant : List VolunteerRow
  nonCompliant : List VolunteerRow
  total : Nat
  compliantCount : Nat
  nonCompliantCount : Nat
  complianceRate : Option Nat
  dueSoonDays : Int

/-- Every volunteer × every requirement that applies to them, with a verdict for each. -/
def buildComplianceReport (settings : Settings) (today : Date) (query : ReportQuery)
    (files : List VolunteerFile) : ComplianceReport :=
  let shown := query.shown settings files
  let rows := shown.map (query.row settings)
  let compliant := rows.filter (·.isCompliant today)
  let nonCompliant := rows.filter fun row => !row.isCompliant today
  { asOf := query.asOf.getD today
    department := query.department
    requirementType := query.requirementType
    unverifiedCount := (shown.map fun file => file.reviewItems.countP (·.isOpen)).sum
    unverifiedVolunteers := shown.countP fun file => file.reviewItems.any (·.isOpen)
    rows := rows
    compliant := compliant
    nonCompliant := nonCompliant
    total := rows.length
    compliantCount := compliant.length
    nonCompliantCount := nonCompliant.length
    complianceRate :=
      if rows = [] then none else some (roundHalfEven (100 * compliant.length) rows.length)
    dueSoonDays := dueSoonDays }

/-! ## What the verdicts say -/

/-- Something is owed on an instance: it is outstanding, or complete but past one of its dates. -/
def Owes (today : Date) (row : RequirementInstance) : Prop :=
  row.status ∈ RequirementStatus.outstandingValues ∨
    row.status = .complete ∧
      (RequirementInstance.isBefore row.expiresOn today = true ∨
        RequirementInstance.isBefore row.dueOn today = true)

theorem bucket_owes_iff {today : Date} {row : RequirementInstance} :
    row.bucket today = .overdue ∨ row.bucket today = .outstanding ↔ Owes today row := by
  unfold RequirementInstance.bucket Owes RequirementInstance.isExpired
    RequirementInstance.isPastDueDate
  cases status : row.status <;>
    cases expired : RequirementInstance.isBefore row.expiresOn today <;>
    cases due : RequirementInstance.isBefore row.dueOn today <;>
    simp [RequirementStatus.outstandingValues]
  cases row.daysUntilExpiry today with
  | none => simp
  | some days => by_cases soon : days ≤ dueSoonDays <;> simp [soon]

namespace VolunteerRow

variable {row : VolunteerRow} {today : Date}

theorem countIn_eq_zero_iff {bucket : RequirementInstance.Bucket} :
    row.countIn today bucket = 0 ↔ ∀ entry ∈ row.instances, entry.2.bucket today ≠ bucket := by
  simp [countIn, List.countP_eq_zero]

theorem isCompliant_iff :
    row.isCompliant today = true ↔ ∀ entry ∈ row.instances, ¬Owes today entry.2 := by
  unfold isCompliant overdueCount outstandingCount
  rw [Bool.and_eq_true, beq_iff_eq, beq_iff_eq, countIn_eq_zero_iff, countIn_eq_zero_iff,
    ← forall₂_and]
  refine forall₂_congr fun entry _ => ?_
  rw [← bucket_owes_iff, not_or]

theorem statusLabel_iff :
    (row.statusLabel today = "Compliant" ∨ row.statusLabel today = "Coming due") ↔
      row.volunteer.screeningBlock = .none ∧ row.isCompliant today = true := by
  have blocked := row.volunteer.isBlocked_iff
  have disqualified := row.volunteer.isPermanentlyDisqualified_iff
  unfold statusLabel isCompliant
  by_cases free : row.volunteer.screeningBlock = .none
  · have notBlocked : row.volunteer.isBlocked = false := by
      rw [← Bool.not_eq_true, blocked]
      simp [free]
    have notDisqualified : row.volunteer.isPermanentlyDisqualified = false := by
      rw [← Bool.not_eq_true, disqualified]
      simp [free]
    by_cases overdue : row.overdueCount today = 0 <;>
      by_cases outstanding : row.outstandingCount today = 0 <;>
      by_cases dueSoon : row.dueSoonCount today = 0 <;>
      simp [notBlocked, notDisqualified, free, overdue, outstanding, dueSoon]
  · have isBlocked : row.volunteer.isBlocked = true := blocked.mpr free
    cases row.volunteer.isPermanentlyDisqualified <;> simp [isBlocked, free]

end VolunteerRow

theorem ReportQuery.mem_instances {query : ReportQuery} {settings : Settings}
    {file : VolunteerFile} {entry : RequirementDefinition × RequirementInstance} :
    entry ∈ (query.row settings file).instances ↔
      entry.1 ∈ settings.catalogue.definitions ∧ query.covers entry.1 = true ∧
        file.requirementInstances entry.1.pk = some entry.2 := by
  obtain ⟨definition, row⟩ := entry
  unfold ReportQuery.row ReportQuery.instances
  rw [List.mem_insertionSort, List.mem_filterMap]
  constructor
  · rintro ⟨other, listed, found⟩
    obtain ⟨saved, present, same⟩ := Option.map_eq_some_iff.mp found
    cases same
    obtain ⟨inCatalogue, covered⟩ := List.mem_filter.mp listed
    exact ⟨inCatalogue, covered, present⟩
  · rintro ⟨inCatalogue, covered, present⟩
    exact ⟨definition, List.mem_filter.mpr ⟨inCatalogue, covered⟩,
      Option.map_eq_some_iff.mpr ⟨row, present, rfl⟩⟩

theorem ReportQuery.mem_shown {query : ReportQuery} {settings : Settings}
    {files : List VolunteerFile} {file : VolunteerFile} :
    file ∈ query.shown settings files ↔ file ∈ files ∧ query.shows settings file = true := by
  unfold ReportQuery.shown
  rw [List.mem_insertionSort, List.mem_filter]

end VolunteerScreening.Reporting
