import VolunteerScreening.Requirements.Progress

/-!
# Requests on the volunteer and their roles

Editing, deactivating and reactivating a volunteer, and starting or ending an
assignment.  Each looks the record up in the user's scope, and nobody touches
their own file while somebody else could.
-/

namespace VolunteerScreening.Org

open Calendar Fallible Requirements

/-- Why this user may not write to this file, if they may not. -/
def mayRecordAgainst (administration : Core.Administration) (user : Core.User)
    (linked : Option Pk) : Option String :=
  if linked = some user.pk then
    Core.selfRefusal administration (!administration.isUnscoped user) user.pk
  else none

def requireOwnRecordNotTouched (ambient : Ambient) (user : Core.User) (file : VolunteerFile) :
    Except Refusal Unit :=
  match mayRecordAgainst ambient.settings.administration user file.volunteer.userId with
  | some why => .error (.permissionDenied why)
  | none => .ok ()

def departmentInScope (settings : Settings) (user : Core.User) (department : Pk) : Bool :=
  match settings.administration.scopeDepartmentIds (some user) with
  | none => true
  | some departments => departments.contains department

/-- The volunteers a user may see: those who have ever held a role in their departments. -/
def volunteerInScope (settings : Settings) (user : Core.User) (file : VolunteerFile) : Bool :=
  (settings.administration.scopeDepartmentIds (some user)).isNone ||
    file.assignments.any fun assignment => settings.roles.any fun role =>
      role.pk == assignment.role && departmentInScope settings user role.department

/-- The lookup of a view that is about to change a volunteer. -/
def writableVolunteer (ambient : Ambient) (user : Core.User) (file : VolunteerFile) :
    Except Refusal Unit := do
  refuseIf (volunteerInScope ambient.settings user file = false) Refusal.notFound
  requireOwnRecordNotTouched ambient user file

theorem writableVolunteer_eq_ok_iff {ambient : Ambient} {user : Core.User} {file : VolunteerFile}
    {done : Unit} :
    writableVolunteer ambient user file = .ok done ↔
      volunteerInScope ambient.settings user file = true ∧
        mayRecordAgainst ambient.settings.administration user file.volunteer.userId = none := by
  unfold writableVolunteer requireOwnRecordNotTouched
  rw [bind_eq_ok_iff]
  cases mayRecordAgainst ambient.settings.administration user file.volunteer.userId <;> simp

theorem mayRecordAgainst_own {administration : Core.Administration} {user : Core.User}
    {linked : Option Pk} (own : linked = some user.pk)
    (barred : administration.isUnscoped user = false ∨
      administration.anotherUnscopedAdminExists user.pk = true) :
    mayRecordAgainst administration user linked ≠ none := by
  unfold mayRecordAgainst Core.selfRefusal
  rw [if_pos own]
  rcases barred with narrow | another
  · simp [narrow]
  · cases administration.isUnscoped user <;> simp [another]

structure VolunteerForm where
  firstName : String
  lastName : String
  preferredName : String
  dateOfBirth : Option Date
  attendanceSince : Option Date
  isTransfer : Bool

namespace VolunteerForm

variable (form : VolunteerForm)

def errors (today : Date) : Errors :=
  let required (field text : String) : Errors :=
    if text = "" then [(field, "This field is required.")] else Errors.tooLong field 100 text
  let birth : Errors :=
    match form.dateOfBirth with
    | none => []
    | some born =>
        if today < born then [("date_of_birth", "Cannot be in the future.")]
        else if born.year < 1900 then [("date_of_birth", "Please check the year.")]
        else []
  required "first_name" form.firstName ++ required "last_name" form.lastName ++
    Errors.tooLong "preferred_name" 100 form.preferredName ++ birth

def applied (volunteer : Volunteer) : Volunteer :=
  { volunteer with
    firstName := form.firstName
    lastName := form.lastName
    preferredName := form.preferredName
    dateOfBirth := form.dateOfBirth
    attendanceSince := form.attendanceSince
    isTransfer := form.isTransfer }

end VolunteerForm

def volunteerEdit (ambient : Ambient) (user : Core.User) (form : VolunteerForm)
    (file : VolunteerFile) : Except Refusal Work := do
  writableVolunteer ambient user file
  (form.errors ambient.today).raise
  let edited := form.applied file.volunteer
  edited.clean ambient.today
  return (Work.start file).saveVolunteer edited

theorem volunteerEdit_ok {ambient : Ambient} {user : Core.User} {form : VolunteerForm}
    {file : VolunteerFile} {work : Work}
    (success : volunteerEdit ambient user form file = .ok work) :
    writableVolunteer ambient user file = .ok () ∧ form.errors ambient.today = [] ∧
      (form.applied file.volunteer).clean ambient.today = .ok () ∧
      work = (Work.start file).saveVolunteer (form.applied file.volunteer) := by
  obtain ⟨_, writable, success⟩ := bind_eq_ok_iff.mp success
  obtain ⟨_, accepted, success⟩ := bind_eq_ok_iff.mp success
  obtain ⟨_, valid, success⟩ := bind_eq_ok_iff.mp success
  exact ⟨writable, Errors.raise_eq_ok_iff.mp accepted, valid, (pure_eq_ok_iff.mp success).symm⟩

/-- Take a volunteer out of service.  Never a deletion. -/
def volunteerDeactivate (ambient : Ambient) (user : Core.User) (stoppedServingOn : Date)
    (endAssignments : Bool) (file : VolunteerFile) : Except Refusal Work := do
  writableVolunteer ambient user file
  refuseIf (file.volunteer.isActive = false)
    (Refusal.invalid s!"{file.volunteer.displayName} is already marked as not serving.")
  refuseIf (ambient.today < stoppedServingOn)
    (Refusal.field "stopped_serving_on" "Cannot be in the future.")
  let work := (Work.start file).saveVolunteer { file.volunteer with
    isActive := false
    stoppedServingOn := some stoppedServingOn }
  return if endAssignments then work.endAssignments stoppedServingOn else work

theorem volunteerDeactivate_ok {ambient : Ambient} {user : Core.User} {stoppedServingOn : Date}
    {endAssignments : Bool} {file : VolunteerFile} {work : Work}
    (success : volunteerDeactivate ambient user stoppedServingOn endAssignments file =
      .ok work) :
    writableVolunteer ambient user file = .ok () ∧ file.volunteer.isActive = true ∧
      stoppedServingOn ≤ ambient.today ∧
      ∃ saved, saved = (Work.start file).saveVolunteer { file.volunteer with
          isActive := false
          stoppedServingOn := some stoppedServingOn } ∧
        work = if endAssignments then saved.endAssignments stoppedServingOn else saved := by
  obtain ⟨_, writable, success⟩ := bind_eq_ok_iff.mp success
  obtain ⟨_, serving, success⟩ := bind_eq_ok_iff.mp success
  obtain ⟨_, notFuture, success⟩ := bind_eq_ok_iff.mp success
  exact ⟨writable, by simpa using serving, not_lt.mp (refuseIf_eq_ok_iff.mp notFuture), _, rfl,
    (pure_eq_ok_iff.mp success).symm⟩

def volunteerReactivate (ambient : Ambient) (user : Core.User) (file : VolunteerFile) :
    Except Refusal Work := do
  writableVolunteer ambient user file
  refuseIf file.volunteer.isPermanentlyDisqualified
    (Refusal.invalid ("This volunteer is permanently disqualified from positions of trust under " ++
      "the Plan to Protect policy and cannot be reactivated into one."))
  return (Work.start file).saveVolunteer { file.volunteer with
    isActive := true
    stoppedServingOn := none }

theorem volunteerReactivate_ok {ambient : Ambient} {user : Core.User} {file : VolunteerFile}
    {work : Work} (success : volunteerReactivate ambient user file = .ok work) :
    writableVolunteer ambient user file = .ok () ∧
      file.volunteer.isPermanentlyDisqualified = false ∧
      work = (Work.start file).saveVolunteer { file.volunteer with
        isActive := true
        stoppedServingOn := none } := by
  obtain ⟨_, writable, success⟩ := bind_eq_ok_iff.mp success
  obtain ⟨_, eligible, success⟩ := bind_eq_ok_iff.mp success
  exact ⟨writable, eq_false_of_ne_true (refuseIf_eq_ok_iff.mp eligible),
    (pure_eq_ok_iff.mp success).symm⟩

def offersRole (settings : Settings) (user : Core.User) (file : VolunteerFile) (role : Role) :
    Bool :=
  role.isActive && (settings.departments.any fun department =>
      department.pk == role.department && department.isActive) &&
    departmentInScope settings user role.department &&
    !file.assignments.any (fun assignment => assignment.isActive && assignment.role == role.pk) &&
    !file.volunteer.isPermanentlyDisqualified

/-- Place a volunteer in a role.  The resync runs on the save, and once more for the count. -/
def assignmentCreate (ambient : Ambient) (user : Core.User) (rolePk : Pk) (startedOn : Date)
    (file : VolunteerFile) : Except Refusal Work := do
  writableVolunteer ambient user file
  refuseIf (¬ambient.settings.roles.any fun role =>
      role.pk == rolePk && offersRole ambient.settings user file role)
    (Refusal.field "role"
      "Select a valid choice. That choice is not one of the available choices.")
  let assignment : RoleAssignment := ⟨rolePk, startedOn, none, true⟩
  assignment.clean file.volunteer
  return ⟨synced ambient.settings ambient.today
    { file with assignments := file.assignments ++ [assignment] }, 1⟩

theorem assignmentCreate_ok {ambient : Ambient} {user : Core.User} {rolePk : Pk}
    {startedOn : Date} {file : VolunteerFile} {work : Work}
    (success : assignmentCreate ambient user rolePk startedOn file = .ok work) :
    writableVolunteer ambient user file = .ok () ∧
      (∃ role ∈ ambient.settings.roles,
        role.pk = rolePk ∧ offersRole ambient.settings user file role = true) ∧
      (⟨rolePk, startedOn, none, true⟩ : RoleAssignment).clean file.volunteer = .ok () ∧
      work = ⟨synced ambient.settings ambient.today
        { file with assignments := file.assignments ++ [⟨rolePk, startedOn, none, true⟩] }, 1⟩ := by
  obtain ⟨_, writable, success⟩ := bind_eq_ok_iff.mp success
  obtain ⟨_, offered, success⟩ := bind_eq_ok_iff.mp success
  obtain ⟨_, valid, success⟩ := bind_eq_ok_iff.mp success
  exact ⟨writable, by simpa using offered, valid, (pure_eq_ok_iff.mp success).symm⟩

/-- Someone whose last active assignment has ended is marked as no longer serving. -/
def deactivateIfUnassigned (endedOn : Date) (work : Work) : Work :=
  if !work.file.hasActiveAssignment && work.file.volunteer.isActive then
    work.saveVolunteer { work.file.volunteer with
      isActive := false
      stoppedServingOn := some endedOn }
  else work

def fetchAssignment (ambient : Ambient) (user : Core.User) (position : Nat)
    (file : VolunteerFile) : Except Refusal RoleAssignment :=
  match file.assignments[position]? with
  | none => .error .notFound
  | some assignment =>
      if assignment.isActive && ambient.settings.roles.any fun role =>
          role.pk == assignment.role && departmentInScope ambient.settings user role.department then
        .ok assignment
      else .error .notFound

theorem fetchAssignment_eq_ok_iff {ambient : Ambient} {user : Core.User} {position : Nat}
    {file : VolunteerFile} {assignment : RoleAssignment} :
    fetchAssignment ambient user position file = .ok assignment ↔
      file.assignments[position]? = some assignment ∧ assignment.isActive = true ∧
        (ambient.settings.roles.any fun role => role.pk == assignment.role &&
          departmentInScope ambient.settings user role.department) = true := by
  unfold fetchAssignment
  rw [← Bool.and_eq_true]
  split
  · next missing => simp [missing]
  · next other placed =>
      rw [placed, Option.some.injEq]
      split
      · next held =>
          constructor
          · intro same
            obtain rfl := Except.ok.inj same
            exact ⟨rfl, held⟩
          · rintro ⟨rfl, _⟩
            rfl
      · next outside =>
          constructor
          · intro refused
            cases refused
          · rintro ⟨rfl, held⟩
            exact absurd held outside

def assignmentEnd (ambient : Ambient) (user : Core.User) (position : Nat)
    (endedOn : Option Date) (file : VolunteerFile) : Except Refusal Work := do
  let assignment ← fetchAssignment ambient user position file
  requireOwnRecordNotTouched ambient user file
  let endedOn := endedOn.getD ambient.today
  let work : Work :=
    ⟨{ file with assignments := file.assignments.set position (assignment.finish endedOn) }, 1⟩
  let work := deactivateIfUnassigned endedOn work
  return work.write (synced ambient.settings ambient.today)

theorem assignmentEnd_ok {ambient : Ambient} {user : Core.User} {position : Nat}
    {endedOn : Option Date} {file : VolunteerFile} {work : Work}
    (success : assignmentEnd ambient user position endedOn file = .ok work) :
    ∃ assignment, fetchAssignment ambient user position file = .ok assignment ∧
      requireOwnRecordNotTouched ambient user file = .ok () ∧
      work = (deactivateIfUnassigned (endedOn.getD ambient.today)
        ⟨{ file with
            assignments := file.assignments.set position
              (assignment.finish (endedOn.getD ambient.today)) }, 1⟩).write
          (synced ambient.settings ambient.today) := by
  obtain ⟨assignment, fetched, success⟩ := bind_eq_ok_iff.mp success
  obtain ⟨_, allowed, success⟩ := bind_eq_ok_iff.mp success
  exact ⟨assignment, fetched, allowed, (pure_eq_ok_iff.mp success).symm⟩

def volunteerResync (ambient : Ambient) (user : Core.User) (file : VolunteerFile) :
    Except Refusal Work := do
  writableVolunteer ambient user file
  return (Work.start file).write (synced ambient.settings ambient.today)

theorem volunteerResync_ok {ambient : Ambient} {user : Core.User} {file : VolunteerFile}
    {work : Work} (success : volunteerResync ambient user file = .ok work) :
    writableVolunteer ambient user file = .ok () ∧
      work = (Work.start file).write (synced ambient.settings ambient.today) := by
  obtain ⟨_, writable, success⟩ := bind_eq_ok_iff.mp success
  exact ⟨writable, (pure_eq_ok_iff.mp success).symm⟩

end VolunteerScreening.Org
