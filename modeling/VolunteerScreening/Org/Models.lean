import VolunteerScreening.Core.Access
import VolunteerScreening.Library.Calendar
import VolunteerScreening.Library.Text

/-!
# The church's organisation and the volunteer file

Departments, roles, the volunteer's own row with its screening block and its
split date of birth, and role assignments.  An ended assignment keeps its row.
-/

namespace VolunteerScreening.Org

open Calendar

structure Department where
  pk : Pk
  name : String
  isActive : Bool
  deriving DecidableEq

structure Role where
  pk : Pk
  department : Pk
  name : String
  isLeadership : Bool
  isActive : Bool
  deriving DecidableEq

/-- Why a volunteer is barred from serving, if they are. -/
inductive ScreeningBlock where
  | none
  | crcNotClear
  | disqualified
  | withdrawn
  deriving DecidableEq, Repr

def ScreeningBlock.blockingValues : List ScreeningBlock := [.crcNotClear, .disqualified, .withdrawn]

structure Volunteer where
  firstName : String
  lastName : String
  preferredName : String
  birthYear : Option Int
  birthMonth : Option Month
  dateOfBirth : Option Date
  attendanceSince : Option Date
  isTransfer : Bool
  screeningBlock : ScreeningBlock
  screeningBlockRecordedAt : Option Nat
  isActive : Bool
  stoppedServingOn : Option Date
  userId : Option Pk
  deriving DecidableEq

/-- Model validation collects its messages in a dictionary keyed by field. -/
abbrev Errors := List (String × String)

namespace Errors

def set (errors : Errors) (field message : String) : Errors :=
  errors.filter (·.1 != field) ++ [(field, message)]

def setDefault (errors : Errors) (field message : String) : Errors :=
  if errors.any (·.1 == field) then errors else errors ++ [(field, message)]

def tooLong (field : String) (limit : Nat) (text : String) : Errors :=
  if text.length ≤ limit then []
  else
    [(field, s!"Ensure this value has at most {limit} characters (it has {text.length}).")]

def blank (field text : String) : Errors :=
  if text = "" then [(field, "This field cannot be blank.")] else []

def uniqueName (label : String) (taken : List String) (name : String) : Errors :=
  if name = "" then [("name", "This field is required.")]
  else if 150 < name.length then tooLong "name" 150 name
  else if taken.contains name then [("name", s!"{label} with this Name already exists.")]
  else []

def raise (errors : Errors) : Except Refusal Unit :=
  if errors.isEmpty then .ok () else .error (.validation errors)

@[simp]
theorem raise_eq_ok_iff {errors : Errors} {done : Unit} :
    errors.raise = .ok done ↔ errors = [] := by
  cases errors <;> simp [raise]

@[simp]
theorem tooLong_eq_nil_iff {field text : String} {limit : Nat} :
    tooLong field limit text = [] ↔ text.length ≤ limit := by
  unfold tooLong
  split <;> simp_all

end Errors

namespace Volunteer

variable (volunteer : Volunteer)

def displayName : String :=
  let first := if volunteer.preferredName ≠ "" then volunteer.preferredName else volunteer.firstName
  Text.strip (first ++ " " ++ volunteer.lastName)

def sortName : String :=
  Text.stripOf [',', ' '] (volunteer.lastName ++ ", " ++ volunteer.firstName)

/-- `Volunteer.clean`: the birth year and month agree with the full date, both or neither is
set, and an inactive volunteer has a last day. -/
def clean (today : Date) : Except Refusal Unit :=
  let errors : Errors := []
  let errors :=
    match volunteer.dateOfBirth with
    | none => errors
    | some born =>
        let errors :=
          match volunteer.birthYear with
          | some year =>
              if year ≠ 0 ∧ year ≠ born.year then
                errors.set "birth_year" "Does not match the full date of birth."
              else errors
          | none => errors
        match volunteer.birthMonth with
        | some month =>
            if month ≠ born.month then
              errors.set "birth_month" "Does not match the full date of birth."
            else errors
        | none => errors
  let errors :=
    if volunteer.birthMonth.isSome ≠ volunteer.birthYear.isSome then
      errors.setDefault
        (if volunteer.birthYear.getD 0 ≠ 0 then "birth_month" else "birth_year")
        "Enter both a birth year and a birth month, or neither."
    else errors
  let errors :=
    if volunteer.birthYear.getD 0 ≠ 0 ∧ today.year < volunteer.birthYear.getD 0 then
      errors.set "birth_year" "Cannot be in the future."
    else errors
  let errors :=
    if !volunteer.isActive && volunteer.stoppedServingOn.isNone then
      errors.set "stopped_serving_on" "Record the date this volunteer stopped serving."
    else errors
  errors.raise

/-- What `Volunteer.save` does first: the queryable birth year and month follow the full date
whenever it is known. -/
def deriveBirth : Volunteer :=
  match volunteer.dateOfBirth with
  | some born => { volunteer with birthYear := some born.year, birthMonth := some born.month }
  | none => volunteer

def ageOn (onDate : Date) : Option Int :=
  match volunteer.birthYear, volunteer.birthMonth with
  | some year, some month =>
      let years := onDate.year - year
      some (max (if onDate.month.val < month.val then years - 1 else years) 0)
  | _, _ => none

/-- An unknown date of birth reads as not adult. -/
def isAdultOn (onDate : Date) : Bool :=
  match volunteer.ageOn onDate with
  | some age => 18 ≤ age
  | none => false

def hasBirthDate : Bool := volunteer.birthYear.isSome && volunteer.birthMonth.isSome

theorem hasBirthDate_of_isAdultOn {onDate : Date} (adult : volunteer.isAdultOn onDate = true) :
    volunteer.hasBirthDate = true := by
  unfold isAdultOn ageOn at adult
  cases year : volunteer.birthYear <;> cases month : volunteer.birthMonth <;>
    simp_all [hasBirthDate]

/-- The 1st of the birth month of the eighteenth year. -/
def eighteenthBirthdayTriggerDate : Option Date :=
  match volunteer.birthYear, volunteer.birthMonth with
  | some year, some month => some (Date.firstOf (year + 18) month)
  | _, _ => none

def isBlocked : Bool := ScreeningBlock.blockingValues.contains volunteer.screeningBlock

def isPermanentlyDisqualified : Bool := volunteer.screeningBlock == .disqualified

/-- Set or clear the screening block; refuses to move off a disqualification. -/
def setScreeningBlock (block : ScreeningBlock) (now : Nat) : Except Refusal Volunteer :=
  if volunteer.screeningBlock = .disqualified ∧ block ≠ .disqualified then
    .error (.invalid ("An automatic disqualification under the Plan to Protect policy is " ++
      "permanent and cannot be lifted."))
  else
    .ok { volunteer with
      screeningBlock := block
      screeningBlockRecordedAt := if block ≠ .none then some now else none }

theorem isBlocked_iff :
    volunteer.isBlocked = true ↔ volunteer.screeningBlock ≠ .none := by
  cases block : volunteer.screeningBlock <;> simp [isBlocked, ScreeningBlock.blockingValues, block]

@[simp]
theorem isPermanentlyDisqualified_iff :
    volunteer.isPermanentlyDisqualified = true ↔ volunteer.screeningBlock = .disqualified := by
  simp [isPermanentlyDisqualified]

@[simp]
theorem deriveBirth_screeningBlock :
    volunteer.deriveBirth.screeningBlock = volunteer.screeningBlock := by
  unfold deriveBirth
  split <;> rfl

@[simp]
theorem deriveBirth_userId : volunteer.deriveBirth.userId = volunteer.userId := by
  unfold deriveBirth
  split <;> rfl

@[simp]
theorem deriveBirth_deriveBirth : volunteer.deriveBirth.deriveBirth = volunteer.deriveBirth := by
  unfold deriveBirth
  cases born : volunteer.dateOfBirth <;> simp [born]

theorem deriveBirth_of_block (block : ScreeningBlock) (recordedAt : Option Nat) :
    ({ volunteer with
        screeningBlock := block
        screeningBlockRecordedAt := recordedAt }).deriveBirth =
      { volunteer.deriveBirth with
        screeningBlock := block
        screeningBlockRecordedAt := recordedAt } := by
  unfold deriveBirth
  cases born : volunteer.dateOfBirth <;> simp [born]

theorem setScreeningBlock_ok {block : ScreeningBlock} {now : Nat} {after : Volunteer}
    (set : volunteer.setScreeningBlock block now = .ok after) :
    (volunteer.screeningBlock = .disqualified → block = .disqualified) ∧
      after = { volunteer with
        screeningBlock := block
        screeningBlockRecordedAt := if block ≠ .none then some now else none } := by
  unfold setScreeningBlock at set
  split at set
  · cases set
  · next allowed =>
      refine ⟨?_, (Except.ok.inj set).symm⟩
      intro disqualified
      by_contra other
      exact allowed ⟨disqualified, other⟩

theorem setScreeningBlock_of_ne {block : ScreeningBlock} {now : Nat}
    (free : volunteer.screeningBlock ≠ .disqualified) :
    volunteer.setScreeningBlock block now = .ok { volunteer with
      screeningBlock := block
      screeningBlockRecordedAt := if block ≠ .none then some now else none } := by
  simp [setScreeningBlock, free]

end Volunteer

structure RoleAssignment where
  role : Pk
  startedOn : Date
  endedOn : Option Date
  isActive : Bool
  deriving DecidableEq

namespace RoleAssignment

variable (assignment : RoleAssignment)

/-- `RoleAssignment.clean`, run by the form's `full_clean`. -/
def clean (volunteer : Volunteer) : Except Refusal Unit :=
  let errors : Errors := []
  let errors :=
    match assignment.endedOn with
    | some ended =>
        if ended < assignment.startedOn then
          errors.set "ended_on" "Cannot be before the start date."
        else errors
    | none => errors
  let errors :=
    if !assignment.isActive && assignment.endedOn.isNone then
      errors.set "ended_on" "Record when this assignment ended."
    else errors
  let errors :=
    if assignment.isActive && volunteer.isPermanentlyDisqualified then
      errors.set "role" ("This volunteer is permanently disqualified under the Plan to Protect " ++
        "policy and cannot be assigned to any role.")
    else errors
  errors.raise

/-- End the assignment, keeping its row. -/
def finish (on : Date) : RoleAssignment :=
  { assignment with isActive := false, endedOn := some on }

@[simp]
theorem finish_isActive (on : Date) : (assignment.finish on).isActive = false := rfl

theorem clean_refuses_disqualified {volunteer : Volunteer} (active : assignment.isActive = true)
    (disqualified : volunteer.screeningBlock = .disqualified) :
    assignment.clean volunteer ≠ .ok () := by
  have barred : volunteer.isPermanentlyDisqualified = true := by simp [disqualified]
  simp [clean, active, barred, Errors.raise, Errors.set]

end RoleAssignment

end VolunteerScreening.Org
