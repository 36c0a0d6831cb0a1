import VolunteerScreening.Org.Models
import Mathlib.Data.List.Nodup

/-!
# Requirement definitions and where one volunteer stands on each

What the church requires, of whom and how often; a volunteer's instance of each
requirement; and the criminal record checks with their convictions and
leadership decisions.  A catalogue of definitions carries the two uniqueness
constraints of its table.
-/

namespace VolunteerScreening.Requirements

open Calendar Org

def dueSoonDays : Int := 60

def turning18CrcDeadlineMonths : Int := 3

inductive RequirementType where
  | applicationForm
  | waitingPeriod
  | declarationOfFaith
  | liabilityRelease
  | referenceChecks
  | interview
  | policyAgreement
  | criminalRecordCheck
  | trainingOrientation
  | trainingRefresher
  | signedAgreement
  | leadershipApproval
  | custom
  deriving DecidableEq, Repr

inductive Cadence where
  | oneTime
  | annual
  | every3Years
  | customMonths
  deriving DecidableEq, Repr

inductive AppliesTo where
  | allRoles
  | specificRoles
  | leadership
  deriving DecidableEq, Repr

inductive AgeRule where
  | none
  | adultsOnly
  deriving DecidableEq, Repr

/-- What `mustFollow` does: warn, or hold the requirement until the other is complete. -/
inductive DependencyMode where
  | warn
  | gate
  deriving DecidableEq, Repr

inductive RequirementStatus where
  | notStarted
  | inProgress
  | complete
  | overdue
  | notApplicable
  | waived
  | blocked
  deriving DecidableEq, Repr

namespace RequirementStatus

/-- Statuses that count as nothing owed. -/
def satisfiedValues : List RequirementStatus := [.complete, .notApplicable, .waived]

def outstandingValues : List RequirementStatus := [.notStarted, .inProgress, .overdue, .blocked]

def isOutstanding (status : RequirementStatus) : Bool := outstandingValues.contains status

theorem isOutstanding_iff (status : RequirementStatus) :
    status.isOutstanding = true ↔ status ∉ satisfiedValues := by
  cases status <;> decide

theorem isOutstanding_of_undecided {status : RequirementStatus}
    (undecided : ¬(status = .complete ∨ status = .waived)) (unparked : status ≠ .notApplicable) :
    status.isOutstanding = true := by
  refine status.isOutstanding_iff.mpr ?_
  simp_all [satisfiedValues]

end RequirementStatus

def nonzeroMonths (months : Option Nat) : Option Nat := months.filter (0 < ·)

structure RequirementDefinition where
  pk : Pk
  name : String
  requirementType : RequirementType
  cadence : Cadence
  cadenceMonths : Option Nat
  appliesTo : AppliesTo
  roles : List Pk
  ageRule : AgeRule
  sequence : Nat
  mustFollow : Option Pk
  dependencyMode : DependencyMode
  dueMonthsAfterPrerequisite : Option Nat
  requiresDocument : Bool
  isActive : Bool
  deriving DecidableEq

namespace RequirementDefinition

variable (definition : RequirementDefinition)

def intervalMonths : Option Nat :=
  match definition.cadence with
  | .oneTime => none
  | .annual => some 12
  | .every3Years => some 36
  | .customMonths => definition.cadenceMonths

def expiryFor (completedOn : Date) : Option Date :=
  (nonzeroMonths definition.intervalMonths).map fun months => completedOn.addMonths months

def appliesToRole (role : Role) : Bool :=
  match definition.appliesTo with
  | .allRoles => true
  | .specificRoles => definition.roles.any (· == role.pk)
  | .leadership => role.isLeadership

def appliesToVolunteer (roles : List Role) : Bool := roles.any definition.appliesToRole

def isAgeExempt (volunteer : Volunteer) (onDate : Date) : Bool :=
  if definition.ageRule ≠ .adultsOnly then false else !volunteer.isAdultOn onDate

def isCrc : Bool := definition.requirementType == .criminalRecordCheck

/-- Whether this requirement waits on another before it applies at all. -/
def isGated : Bool := definition.dependencyMode == .gate && definition.mustFollow.isSome

def prerequisiteOffsetMonths : Option Nat :=
  match nonzeroMonths definition.dueMonthsAfterPrerequisite with
  | some months => some months
  | none => definition.intervalMonths

end RequirementDefinition

/-- The church's definitions in the table's own order: by sequence, and within one sequence by
name as the database collates it.  No two share a key or a name. -/
structure Catalogue where
  definitions : List RequirementDefinition
  uniquePk : (definitions.map (·.pk)).Nodup
  uniqueName : (definitions.map (·.name)).Nodup
  ordered : definitions.Pairwise (·.sequence ≤ ·.sequence)

namespace Catalogue

variable (catalogue : Catalogue)

def get (pk : Pk) : Option RequirementDefinition :=
  catalogue.definitions.find? (·.pk == pk)

def active : List RequirementDefinition := catalogue.definitions.filter (·.isActive)

theorem get_of_mem {definition : RequirementDefinition}
    (listed : definition ∈ catalogue.definitions) :
    catalogue.get definition.pk = some definition := by
  have unique := catalogue.uniquePk
  unfold get
  generalize catalogue.definitions = definitions at listed unique
  induction definitions with
  | nil => simp at listed
  | cons head rest inductionHypothesis =>
      rw [List.map_cons, List.nodup_cons] at unique
      rw [List.find?_cons]
      rcases List.mem_cons.mp listed with rfl | later
      · simp
      · have other : head.pk ≠ definition.pk := by
          intro same
          exact unique.1 (same ▸ List.mem_map_of_mem later)
        rw [beq_false_of_ne other]
        exact inductionHypothesis later unique.2

theorem get_some {pk : Pk} {definition : RequirementDefinition}
    (found : catalogue.get pk = some definition) :
    definition ∈ catalogue.definitions ∧ definition.pk = pk := by
  refine ⟨List.mem_of_find?_eq_some found, ?_⟩
  simpa using List.find?_some found

theorem eq_of_pk_eq {first second : RequirementDefinition}
    (firstListed : first ∈ catalogue.definitions) (secondListed : second ∈ catalogue.definitions)
    (same : first.pk = second.pk) : first = second := by
  have found := catalogue.get_of_mem firstListed
  rw [same, catalogue.get_of_mem secondListed] at found
  exact (Option.some.inj found).symm

theorem mem_active {definition : RequirementDefinition} :
    definition ∈ catalogue.active ↔
      definition ∈ catalogue.definitions ∧ definition.isActive = true := by
  simp [active]

theorem active_uniquePk : (catalogue.active.map (·.pk)).Nodup :=
  (List.filter_sublist.map _).nodup catalogue.uniquePk

end Catalogue

structure RequirementInstance where
  status : RequirementStatus
  startedOn : Option Date
  completedOn : Option Date
  expiresOn : Option Date
  dueOn : Option Date
  dueReason : String
  waivedReason : String
  waivedBy : String
  waivedOn : Option Date
  notApplicableReason : String
  notes : String
  deriving DecidableEq

namespace RequirementInstance

def fresh : RequirementInstance :=
  ⟨.notStarted, none, none, none, none, "", "", "", none, "", ""⟩

variable (row : RequirementInstance)

/-- Whether an optional date has passed. -/
def isBefore (date : Option Date) (today : Date) : Bool :=
  match date with
  | some date => date < today
  | none => false

@[simp]
theorem isBefore_none (today : Date) : isBefore none today = false := rfl

def isExpired (today : Date) : Bool := isBefore row.expiresOn today

def isPastDueDate (today : Date) : Bool := isBefore row.dueOn today

/-- The earlier of the renewal expiry and the one-off deadline. -/
def effectiveDueDate : Option Date :=
  match row.expiresOn, row.dueOn with
  | some expires, some due => some (min expires due)
  | some expires, none => some expires
  | none, due => due

def daysUntilExpiry (today : Date) : Option Int :=
  row.effectiveDueDate.map fun due => today.daysUntil due

inductive Bucket where
  | overdue
  | dueSoon
  | outstanding
  | satisfied
  deriving DecidableEq, Repr

def bucket (today : Date) : Bucket :=
  if row.status = .notApplicable ∨ row.status = .waived then .satisfied
  else if row.status = .blocked then .overdue
  else if row.status = .overdue ∨ row.isExpired today ∨ row.isPastDueDate today then .overdue
  else if row.status = .complete then
    match row.daysUntilExpiry today with
    | some days => if days ≤ dueSoonDays then .dueSoon else .satisfied
    | none => .satisfied
  else .outstanding

def canMarkComplete (definition : RequirementDefinition) : Bool :=
  if definition.isCrc || definition.requiresDocument then false
  else
    let excluded : List RequirementStatus := [.waived, .notApplicable, .blocked]
    !excluded.contains row.status

/-- Bring the status in line with the dates. -/
def recompute (asOf : Date) : RequirementInstance :=
  match row.status with
  | .complete =>
      let pastExpiry := isBefore row.expiresOn asOf
      let pastDeadline := isBefore row.dueOn asOf && row.completedOn.isNone
      if pastExpiry || pastDeadline then { row with status := .overdue } else row
  | .overdue =>
      let stillExpired := isBefore row.expiresOn asOf
      if row.completedOn.isSome && !stillExpired then { row with status := .complete } else row
  | .notStarted | .inProgress =>
      if isBefore row.dueOn asOf then { row with status := .overdue } else row
  | _ => row

/-- `RequirementInstance.mark_complete`: record completion, roll the renewal clock forward and
clear any one-off deadline. -/
def markComplete (definition : RequirementDefinition) (completedOn : Date) (notes : String) :
    RequirementInstance :=
  { row with
    completedOn := some completedOn
    expiresOn := definition.expiryFor completedOn
    status := .complete
    notes := if notes ≠ "" then notes else row.notes
    dueOn := none
    dueReason := "" }

/-- Where a reversed entry puts the requirement back, from what survived it. -/
def statusAfterReversal : RequirementStatus :=
  if row.completedOn.isSome then .complete
  else if row.startedOn.isSome then .inProgress
  else .notStarted

theorem recompute_eq (asOf : Date) :
    row.recompute asOf = { row with status := (row.recompute asOf).status } := by
  unfold recompute
  cases row.status <;> dsimp only <;> (try split) <;> rfl

@[simp]
theorem recompute_completedOn (asOf : Date) :
    (row.recompute asOf).completedOn = row.completedOn := by
  rw [recompute_eq]

@[simp]
theorem recompute_startedOn (asOf : Date) : (row.recompute asOf).startedOn = row.startedOn := by
  rw [recompute_eq]

@[simp]
theorem recompute_expiresOn (asOf : Date) : (row.recompute asOf).expiresOn = row.expiresOn := by
  rw [recompute_eq]

@[simp]
theorem recompute_dueOn (asOf : Date) : (row.recompute asOf).dueOn = row.dueOn := by
  rw [recompute_eq]

@[simp]
theorem recompute_dueReason (asOf : Date) : (row.recompute asOf).dueReason = row.dueReason := by
  rw [recompute_eq]

theorem recompute_recompute (asOf : Date)
    (agrees : row.status = .notStarted ∨ row.status = .inProgress → row.completedOn = none) :
    (row.recompute asOf).recompute asOf = row.recompute asOf := by
  obtain ⟨status, startedOn, completedOn, expiresOn, dueOn, _, _, _, _, _, _⟩ := row
  cases status <;> cases completedOn <;> cases expired : isBefore expiresOn asOf <;>
    cases due : isBefore dueOn asOf <;> simp_all [recompute]

theorem recompute_notApplicable_iff (asOf : Date) :
    (row.recompute asOf).status = .notApplicable ↔ row.status = .notApplicable := by
  unfold recompute
  cases status : row.status <;> dsimp only <;> (try split) <;> simp [status]

/-- Recomputing never crosses between satisfied and blocked statuses. -/
theorem recompute_status_of_not_dated (asOf : Date)
    (undated : row.status = .notApplicable ∨ row.status = .waived ∨ row.status = .blocked) :
    row.recompute asOf = row := by
  rcases undated with status | status | status <;> simp [recompute, status]

end RequirementInstance

/-! ## Criminal record checks -/

inductive CRCResult where
  | cleared
  | notClear
  deriving DecidableEq, Repr

inductive CRCNotClearOutcome where
  | pending
  | fingerprintSubmitted
  | withdrew
  deriving DecidableEq, Repr

structure CRCRecord where
  requirementInstance : Option Pk
  result : CRCResult
  reportDate : Date
  includesVulnerableSector : Bool
  isFingerprintVerified : Bool
  notClearOutcome : Option CRCNotClearOutcome
  issuingBody : String
  notes : String
  supersededBy : Option Nat
  deriving DecidableEq

namespace CRCRecord

variable (record : CRCRecord)

def clean (today : Date) : Errors :=
  let errors : Errors := []
  let errors :=
    if today < record.reportDate then errors.set "report_date" "Cannot be in the future."
    else errors
  if record.result = .cleared ∧ record.notClearOutcome.isSome then
    errors.set "not_clear_outcome" "Only applies to a 'Not Clear' result."
  else errors

def fullClean (today : Date) : Except Refusal Unit :=
  (Errors.tooLong "issuing_body" 150 record.issuingBody ++ record.clean today).raise

def isOperative : Bool := record.supersededBy.isNone

end CRCRecord

/-- A conviction recorded against a "Not Clear" check, by that check's position in the file. -/
structure DisqualifyingConviction where
  crcRecord : Nat
  category : String
  isAutomaticDisqualifier : Bool
  description : String
  convictionDate : Option Date
  recordedBy : String
  deriving DecidableEq

inductive Decision where
  | approved
  | approvedWithConditions
  | declined
  deriving DecidableEq, Repr

def Decision.display : Decision → String
  | .approved => "Approved to serve"
  | .approvedWithConditions => "Approved with conditions"
  | .declined => "Declined"

structure DiscretionaryOverride where
  crcRecord : Nat
  conviction : Option Nat
  decision : Decision
  decidedOn : Date
  decidedBy : String
  reasoning : String
  mitigationSteps : String
  deriving DecidableEq

namespace DiscretionaryOverride

variable (override : DiscretionaryOverride)

/-- What `DiscretionaryOverride.clean` finds wrong; whether the conviction is automatic comes
from its row. -/
def clean (convictionIsAutomatic : Bool) : Errors :=
  let errors : Errors := []
  let errors :=
    if Text.isBlank override.reasoning then
      errors.set "reasoning" "Recording the reasoning is mandatory for an override."
    else errors
  let errors :=
    if Text.isBlank override.mitigationSteps then
      errors.set "mitigation_steps" "Recording the mitigation steps is mandatory."
    else errors
  let errors :=
    if Text.isBlank override.decidedBy then
      errors.set "decided_by" "Record who made this decision."
    else errors
  if convictionIsAutomatic then
    errors.set "conviction"
      "Automatic disqualifiers under the Plan to Protect policy cannot be overridden."
  else errors

def fullClean (convictionIsAutomatic : Bool) : Except Refusal Unit :=
  (Errors.blank "decided_by" override.decidedBy ++ Errors.blank "reasoning" override.reasoning ++
    Errors.blank "mitigation_steps" override.mitigationSteps ++
    override.clean convictionIsAutomatic).raise

end DiscretionaryOverride

end VolunteerScreening.Requirements
