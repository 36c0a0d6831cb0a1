import VolunteerScreening.Accounts.Views

/-!
# The organisation's views

Departments, roles, and the volunteers who serve in them.  Each view looks its
record up among those the visitor administers.  Departments and roles are never
deleted; a role that changes has its holders' requirements recalculated.
-/

namespace VolunteerScreening.Org

open Accounts Calendar Fallible Requirements

def freshPk (taken : List Pk) : Pk := taken.foldl max 0 + 1

/-! ## Departments -/

structure DepartmentForm where
  name : String
  isActive : Bool

def DepartmentForm.errors (form : DepartmentForm) (others : List Department) : Errors :=
  Errors.uniqueName "Department" (others.map (·.name)) (Text.strip form.name)

def byName (departments : List Department) : List Department :=
  departments.mergeSort fun first second => first.name ≤ second.name

def fetchDepartment (church : Church) (acting : Directory.Administrator) (department : Pk) :
    Except Refusal Department :=
  match church.departments.find? fun row => row.pk == department && acting.administers row.pk with
  | some row => .ok row
  | none => .error .notFound

def departmentCreate (church : Church) (visit : Visit) (form : DepartmentForm) :
    Except Refusal Church := do
  let _ ← church.requires visit .manageOrg
  (form.errors church.departments).raise
  let department : Department :=
    ⟨freshPk (church.departments.map (·.pk)), Text.strip form.name, form.isActive⟩
  return { church with departments := byName (department :: church.departments) }

def departmentEdit (church : Church) (visit : Visit) (department : Pk) (form : DepartmentForm) :
    Except Refusal Church := do
  let acting ← church.requires visit .manageOrg
  let _ ← fetchDepartment church acting department
  (form.errors (church.departments.filter (·.pk != department))).raise
  return { church with
    departments := byName (church.departments.map fun row =>
      if row.pk = department then
        { row with name := Text.strip form.name, isActive := form.isActive }
      else row) }

/-! ## Roles -/

structure RoleForm where
  department : Option Pk
  name : String
  isLeadership : Bool
  isActive : Bool

/-- Whether the role form offers a department: one the visitor administers, and live unless the
role is in it already. -/
def offersDepartment (church : Church) (acting : Directory.Administrator) (current : Option Pk)
    (department : Pk) : Bool :=
  acting.administers department && church.departments.any fun row =>
    row.pk == department && (row.isActive || current == some row.pk)

def RoleForm.errors (form : RoleForm) (church : Church) (acting : Directory.Administrator)
    (current : Option Pk) (others : List Role) : Errors :=
  let name := Text.strip form.name
  let nameErrors : Errors :=
    if name = "" then [("name", "This field is required.")] else Errors.tooLong "name" 150 name
  match form.department with
  | none => ("department", "This field is required.") :: nameErrors
  | some department =>
      if !offersDepartment church acting current department then
        ("department", "Select a valid choice. That choice is not one of the available choices.") ::
          nameErrors
      else if nameErrors ≠ [] then nameErrors
      else if others.any fun row => row.department == department && row.name == name then
        [("__all__", "Role with this Department and Name already exists.")]
      else []

def RoleForm.applied (form : RoleForm) (row : Role) : Role :=
  { row with
    department := form.department.getD row.department
    name := Text.strip form.name
    isLeadership := form.isLeadership
    isActive := form.isActive }

def fetchRole (church : Church) (acting : Directory.Administrator) (role : Pk) :
    Except Refusal Role :=
  match church.roles.find? (·.pk == role) with
  | some row => if acting.administers row.department then .ok row else .error .notFound
  | none => .error .notFound

def roleCreate (church : Church) (visit : Visit) (form : RoleForm) : Except Refusal Church := do
  let acting ← church.requires visit .manageOrg
  (form.errors church acting none church.roles).raise
  let role := form.applied ⟨freshPk (church.roles.map (·.pk)), 0, "", false, true⟩
  return { church with roles := church.roles ++ [role] }

def holdsRole (role : Pk) (file : VolunteerFile) : Bool :=
  file.volunteer.isActive &&
    file.assignments.any fun assignment => assignment.isActive && assignment.role == role

def resyncRoleHolders (church : Church) (today : Date) (role : Pk) : Church :=
  { church with
    files := church.files.map fun file =>
      if holdsRole role file then synced church.settings today file else file }

def roleEdit (church : Church) (visit : Visit) (role : Pk) (form : RoleForm) :
    Except Refusal Church := do
  let acting ← church.requires visit .manageOrg
  let current ← fetchRole church acting role
  (form.errors church acting (some current.department)
    (church.roles.filter (·.pk != role))).raise
  let saved := { church with
    roles := church.roles.map fun row => if row.pk = role then form.applied row else row }
  return resyncRoleHolders saved visit.today role

/-! ## Adding a volunteer -/

def VolunteerForm.cleaned (form : VolunteerForm) : VolunteerForm :=
  { form with
    firstName := Text.strip form.firstName
    lastName := Text.strip form.lastName
    preferredName := Text.strip form.preferredName }

def Volunteer.blank : Volunteer :=
  ⟨"", "", "", none, none, none, none, false, .none, none, true, none, none⟩

def offersStartingRole (church : Church) (acting : Directory.Administrator) (role : Pk) : Bool :=
  church.roles.any fun row =>
    row.pk == role && row.isActive && acting.administers row.department &&
      church.departments.any fun department =>
        department.pk == row.department && department.isActive

def startingRoleErrors (church : Church) (acting : Directory.Administrator) (role : Option Pk) :
    Errors :=
  match role with
  | none => [("starting_role", "This field is required.")]
  | some role =>
      if offersStartingRole church acting role then []
      else
        [("starting_role",
          "Select a valid choice. That choice is not one of the available choices.")]

/-- Add a volunteer, and put them in a ministry role in the same step. -/
def volunteerCreate (church : Church) (visit : Visit) (form : VolunteerForm)
    (startingRole : Option Pk) : Except Refusal Church := do
  let acting ← church.requires visit .editVolunteers
  let ambient := church.ambient visit acting
  (form.cleaned.errors visit.today ++ startingRoleErrors church acting startingRole).raise
  let volunteer := form.cleaned.applied Volunteer.blank
  volunteer.clean visit.today
  let assignment : RoleAssignment := ⟨startingRole.getD 0, visit.today, none, true⟩
  assignment.clean volunteer.deriveBirth
  let file := { VolunteerFile.opened volunteer.deriveBirth with assignments := [assignment] }
  let work : Work := ⟨synced church.settings visit.today file, 1⟩
  return { church with files := church.files ++ [work.commit ambient] }

/-! ## One volunteer's record -/

inductive VolunteerRequest where
  | volunteerEdit (form : VolunteerForm)
  | volunteerDeactivate (stoppedServingOn : Date) (endAssignments : Bool)
  | volunteerReactivate
  | volunteerResync
  | assignmentCreate (role : Pk) (startedOn : Date)
  | assignmentEnd (assignment : Nat) (endedOn : Option Date)

namespace VolunteerRequest

def capability : VolunteerRequest → Capability
  | .volunteerEdit _ | .volunteerDeactivate .. | .volunteerReactivate | .volunteerResync =>
      .editVolunteers
  | .assignmentCreate .. | .assignmentEnd .. => .manageAssignments

def view : VolunteerRequest → FileView
  | .volunteerEdit form => fun ambient acting file =>
      Org.volunteerEdit ambient acting.account form.cleaned file
  | .volunteerDeactivate stoppedServingOn endAssignments => fun ambient acting file =>
      Org.volunteerDeactivate ambient acting.account stoppedServingOn endAssignments file
  | .volunteerReactivate => fun ambient acting file =>
      Org.volunteerReactivate ambient acting.account file
  | .volunteerResync => fun ambient acting file =>
      Org.volunteerResync ambient acting.account file
  | .assignmentCreate role startedOn => fun ambient acting file =>
      Org.assignmentCreate ambient acting.account role startedOn file
  | .assignmentEnd assignment endedOn => fun ambient acting file =>
      Org.assignmentEnd ambient acting.account assignment endedOn file

end VolunteerRequest

/-! ## The organisation's requests -/

inductive OrgRequest where
  | departmentCreate (form : DepartmentForm)
  | departmentEdit (department : Pk) (form : DepartmentForm)
  | roleCreate (form : RoleForm)
  | roleEdit (role : Pk) (form : RoleForm)
  | volunteerCreate (form : VolunteerForm) (startingRole : Option Pk)
  | volunteerFile (volunteer : Nat) (request : VolunteerRequest)

def OrgRequest.answer (church : Church) (visit : Visit) : OrgRequest → Except Refusal Church
  | .departmentCreate form => Org.departmentCreate church visit form
  | .departmentEdit department form => Org.departmentEdit church visit department form
  | .roleCreate form => Org.roleCreate church visit form
  | .roleEdit role form => Org.roleEdit church visit role form
  | .volunteerCreate form startingRole => Org.volunteerCreate church visit form startingRole
  | .volunteerFile volunteer request =>
      church.onFile visit request.capability volunteer request.view

end VolunteerScreening.Org
