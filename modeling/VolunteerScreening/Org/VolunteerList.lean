import VolunteerScreening.Reporting.Dashboard

/-!
# The volunteer list

What the list shows a visitor: those they may see, narrowed by a name, by where
somebody serves now, and by a status.  A query that does not read narrows
nothing.
-/

namespace VolunteerScreening.Org

open Calendar Reporting Requirements

namespace Volunteer

variable (volunteer : Volunteer)

def exactAge (today : Date) : Option Int :=
  volunteer.dateOfBirth.map fun born =>
    today.year - born.year -
      if today.month.val < born.month.val ∨ today.month = born.month ∧ today.day < born.day then 1
      else 0

def isListedMinor (today : Date) : Bool :=
  volunteer.birthYear.any (today.year - 18 < ·) ||
    (volunteer.birthYear == some (today.year - 18) &&
      volunteer.birthMonth.any (today.month.val < ·.val))

end Volunteer

inductive ListStatus where
  | serving
  | all
  | inactive
  | unassigned
  | blocked
  | minors
  deriving DecidableEq, Repr

/-- The list's filters as they arrive; a status outside the choices reads as `none`. -/
structure VolunteerFilterForm where
  q : String
  department : Option Pk
  role : Option Pk
  status : Option ListStatus

def VolunteerFilterForm.isValid (form : VolunteerFilterForm) (church : Church)
    (user : Option Core.User) : Bool :=
  form.department.all (fun department =>
      (scopeDepartments church user).any (·.pk == department)) &&
    form.role.all (fun role => (scopeRoles church user).any (·.pk == role)) &&
    form.status.isSome

def ListStatus.keeps (status : ListStatus) (today : Date) (file : VolunteerFile) : Bool :=
  match status with
  | .all => true
  | .inactive => !file.volunteer.isActive
  | .unassigned => file.volunteer.isActive && !file.hasActiveAssignment
  | .blocked => file.volunteer.isBlocked
  | .minors => file.volunteer.isActive && file.volunteer.isListedMinor today
  | .serving => file.volunteer.isActive && file.hasActiveAssignment

def VolunteerFilterForm.selects (form : VolunteerFilterForm) (icontains : String → String → Bool)
    (settings : Settings) (file : VolunteerFile) : Bool :=
  let term := Text.strip form.q
  (term == "" || icontains file.volunteer.firstName term ||
      icontains file.volunteer.lastName term) &&
    DashboardFilters.selects ⟨form.department, form.role, none⟩ settings file

def listedBefore (first second : Listed) : Prop :=
  first.1.volunteer.lastName < second.1.volunteer.lastName ∨
    first.1.volunteer.lastName = second.1.volunteer.lastName ∧
      (first.1.volunteer.firstName < second.1.volunteer.firstName ∨
        first.1.volunteer.firstName = second.1.volunteer.firstName ∧ first.2 ≤ second.2)

instance : DecidableRel listedBefore :=
  fun _ _ => inferInstanceAs (Decidable (_ ∨ _ ∧ (_ ∨ _ ∧ _)))

/-- The volunteers a query lists for a visitor, over all pages; without a query nothing is
filtered. -/
def volunteerList (church : Church) (user : Option Core.User) (icontains : String → String → Bool)
    (today : Date) (query : Option VolunteerFilterForm) : List Listed :=
  let volunteers := scopeVolunteers church user
  let volunteers :=
    match query with
    | none => volunteers
    | some form =>
        if form.isValid church user then
          volunteers.filter fun listed =>
            form.selects icontains church.settings listed.1 &&
              (form.status.getD .serving).keeps today listed.1
        else volunteers
  volunteers.insertionSort listedBefore

end VolunteerScreening.Org
