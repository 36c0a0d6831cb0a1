import VolunteerScreening.Accounts.Forms
import VolunteerScreening.Library.Machine

/-!
# Managing the church's administrators

Inviting an administrator, changing their access, deactivating them, editing
access levels, and the link between an account and its own volunteer file.  All
of it asks for one capability.
-/

namespace VolunteerScreening.Accounts

open Calendar Fallible Org Requirements

/-! ## Guards -/

namespace Directory

variable (directory : Directory)

def anyOther (kind : AccessLevel → Bool) (excluded : List Pk) : Bool :=
  (List.range directory.users.length).any fun pk =>
    !excluded.contains pk && (directory.administrator pk).any fun acting => kind acting.level

theorem anyOther_iff {kind : AccessLevel → Bool} {excluded : List Pk} :
    directory.anyOther kind excluded = true ↔ ∃ pk, pk ∉ excluded ∧ directory.Holds kind pk := by
  unfold anyOther
  simp only [List.any_eq_true, List.mem_range, Bool.and_eq_true, Bool.not_eq_true',
    Option.any_eq_true]
  constructor
  · rintro ⟨pk, _, outside, acting, signedIn, suits⟩
    exact ⟨pk, by simpa using outside, acting, signedIn, suits⟩
  · rintro ⟨pk, outside, acting, signedIn, suits⟩
    obtain ⟨_, found, _⟩ := administrator_eq_some_iff.mp signedIn
    exact ⟨pk, (List.getElem?_eq_some_iff.mp found).1, by simpa using outside, acting, signedIn,
      suits⟩

/-- Why a change of one account's level would leave nobody who can manage access. -/
def wouldStrandTheChurch (subject : Pk) (user : User) (newLevel : AccessLevel) : Option String :=
  if !newLevel.isScoped && newLevel.can .manageUsers then none
  else if directory.anyOther AccessLevel.managesAccess [subject] then none
  else
    some (s!"{user.fullName} is the only administrator who can manage access for " ++
      "the whole church. Give somebody else that access first, or this church would " ++
      "have no way to change it back.")

end Directory

/-- A stand-in level that grants nothing over access. -/
def noAccessLevel : AccessLevel := ⟨⟨true, true⟩, "(deactivated)", false, (· == .viewVolunteers)⟩

def backlog (church : Church) (pk : Pk) : List Review.ReviewItem :=
  (church.files.flatMap (·.reviewItems)).filter fun item =>
    item.isOpen && item.recordedByUserId == some pk

/-- Why a deactivation would hand the actor the right to affirm their own work. -/
def ownReviewBacklogUnlockedByRemoving (church : Church) (acting : Directory.Administrator)
    (subject : Pk) (user : User) : Option String :=
  if acting.pk = subject ∨ acting.level.isScoped then none
  else if church.directory.anyOther AccessLevel.seesWholeChurch [acting.pk, subject] then none
  else
    let pending := (backlog church acting.pk).length
    if pending = 0 then none
    else
      let one := pending = 1
      some (s!"You have {pending} " ++ (if one then "entry" else "entries") ++
        s!" awaiting review, and {user.fullName} is the only other administrator who can affirm " ++
        (if one then "it" else "them") ++ ". Ask them to clear the queue first, then deactivate " ++
        "the account.")

/-- Why an account cannot be deactivated: one refusal for each way of painting the church into a
corner. -/
def deactivationRefused (church : Church) (acting : Directory.Administrator) (subject : Pk)
    (user : User) : Option String :=
  if (church.directory.users.filter (·.isActive)).length ≤ 1 then
    some ("This is the last active administrator. Add another before deactivating " ++
      "this one, or the church would lose access entirely.")
  else
    (church.directory.wouldStrandTheChurch subject user noAccessLevel).or
      (ownReviewBacklogUnlockedByRemoving church acting subject user)

/-! ## Accounts -/

def fetchUser (church : Church) (subject : Pk) : Except Refusal User :=
  match church.directory.users[subject]? with
  | some user => .ok user
  | none => .error .notFound

def refuseFor (why : Option String) : Except Refusal Unit :=
  match why with
  | some message => .error (.invalid message)
  | none => .ok ()

theorem fetchUser_eq_ok_iff {church : Church} {subject : Pk} {user : User} :
    fetchUser church subject = .ok user ↔ church.directory.users[subject]? = some user := by
  unfold fetchUser
  cases church.directory.users[subject]? <;> simp

theorem refuseFor_eq_ok_iff {why : Option String} {done : Unit} :
    refuseFor why = .ok done ↔ why = none := by
  cases why <;> simp [refuseFor]

def adminAccess (church : Church) (visit : Visit) (subject : Pk) (form : AccessGrantForm) :
    Except Refusal Church := do
  let acting ← church.requires visit .manageUsers
  let user ← fetchUser church subject
  (form.errors church acting).raise
  match church.directory.levels[form.accessLevel]? with
  | none => .error .notFound
  | some level => do
      refuseFor (church.directory.wouldStrandTheChurch subject user level)
      let directory ← applyGrant acting subject form.accessLevel (form.chosen church acting)
        church.directory
      return { church with directory := directory }

/-- A change of access that goes through puts the subject on a level in force that the granter's
covers, in departments the granter administers. -/
theorem adminAccess_ok {church after : Church} {visit : Visit} {subject : Pk}
    {form : AccessGrantForm} (success : adminAccess church visit subject form = .ok after) :
    ∃ acting user level listed, church.requires visit .manageUsers = .ok acting ∧
      church.directory.users[subject]? = some user ∧
      church.directory.levels[form.accessLevel]? = some level ∧ level.isActive = true ∧
      church.directory.wouldStrandTheChurch subject user level = none ∧
      acting.level.covers level = true ∧
      (∀ department ∈ form.chosen church acting, acting.administers department.pk = true) ∧
      after = { church with
        directory := church.directory.setGrant subject
          ⟨form.accessLevel,
            if level.isScoped then (form.chosen church acting).map (·.pk) else []⟩ listed } := by
  obtain ⟨acting, allowed, success⟩ := bind_eq_ok_iff.mp success
  obtain ⟨user, found, success⟩ := bind_eq_ok_iff.mp success
  obtain ⟨_, accepted, success⟩ := bind_eq_ok_iff.mp success
  have offered := form.offersLevel_of_errors_eq_nil church acting
    (Errors.raise_eq_ok_iff.mp accepted)
  split at success
  · cases success
  · next level onTable =>
      obtain ⟨_, unstranded, success⟩ := bind_eq_ok_iff.mp success
      obtain ⟨directory, applied, success⟩ := bind_eq_ok_iff.mp success
      obtain ⟨level', listed, onTable', covered, inside, rfl⟩ := applyGrant_ok applied
      obtain rfl := Option.some.inj (onTable.symm.trans onTable')
      simp only [AccessGrantForm.offersLevel, onTable, Bool.and_eq_true] at offered
      exact ⟨acting, user, level, listed, allowed, fetchUser_eq_ok_iff.mp found, onTable, offered.1,
        refuseFor_eq_ok_iff.mp unstranded, covered, inside, (pure_eq_ok_iff.mp success).symm⟩

def adminToggleActive (church : Church) (visit : Visit) (subject : Pk) :
    Except Refusal Church := do
  let acting ← church.requires visit .manageUsers
  let user ← fetchUser church subject
  refuseIf (subject = acting.pk) (Refusal.invalid "You cannot deactivate your own account.")
  refuseFor (if user.isActive then deactivationRefused church acting subject user else none)
  return { church with directory := church.directory.setActive subject (!user.isActive) }

theorem adminToggleActive_ok {church after : Church} {visit : Visit} {subject : Pk}
    (success : adminToggleActive church visit subject = .ok after) :
    ∃ acting user, church.requires visit .manageUsers = .ok acting ∧
      church.directory.users[subject]? = some user ∧ subject ≠ acting.pk ∧
      (user.isActive = true → deactivationRefused church acting subject user = none) ∧
      after = { church with directory := church.directory.setActive subject (!user.isActive) } := by
  obtain ⟨acting, allowed, success⟩ := bind_eq_ok_iff.mp success
  obtain ⟨user, found, success⟩ := bind_eq_ok_iff.mp success
  obtain ⟨_, another, success⟩ := bind_eq_ok_iff.mp success
  obtain ⟨_, unrefused, success⟩ := bind_eq_ok_iff.mp success
  refine ⟨acting, user, allowed, fetchUser_eq_ok_iff.mp found, refuseIf_eq_ok_iff.mp another, ?_,
    (pure_eq_ok_iff.mp success).symm⟩
  intro active
  simpa [active] using refuseFor_eq_ok_iff.mp unrefused

theorem deactivationRefused_eq_none {church : Church} {acting : Directory.Administrator}
    {subject : Pk} {user : User}
    (unrefused : deactivationRefused church acting subject user = none) :
    church.directory.wouldStrandTheChurch subject user noAccessLevel = none ∧
      ownReviewBacklogUnlockedByRemoving church acting subject user = none := by
  unfold deactivationRefused at unrefused
  split at unrefused
  · cases unrefused
  · exact Option.or_eq_none_iff.mp unrefused

/-! ## Access levels -/

def accessLevelCreate (church : Church) (visit : Visit) (form : AccessLevelForm) :
    Except Refusal Church := do
  let acting ← church.requires visit .manageUsers
  (form.errors acting.level form.created (church.directory.levels.map (·.name))).raise
  return { church with directory := church.directory.addLevel form.created }

theorem accessLevelCreate_ok {church after : Church} {visit : Visit} {form : AccessLevelForm}
    (success : accessLevelCreate church visit form = .ok after) :
    after = { church with directory := church.directory.addLevel form.created } := by
  obtain ⟨_, _, success⟩ := bind_eq_ok_iff.mp success
  obtain ⟨_, _, success⟩ := bind_eq_ok_iff.mp success
  exact (pure_eq_ok_iff.mp success).symm

/-- Edit an access level, for everybody who holds it. -/
def accessLevelEdit (church : Church) (visit : Visit) (target : Pk) (form : AccessLevelForm) :
    Except Refusal Church := do
  let acting ← church.requires visit .manageUsers
  match church.directory.levels[target]? with
  | none => .error .notFound
  | some level => do
      let taken := (church.directory.levels.eraseIdx target).map (·.name)
      (form.errors acting.level (form.applied level) taken).raise
      return { church with directory := church.directory.setLevel target (form.applied level) }

theorem accessLevelEdit_eq_ok_iff {church after : Church} {visit : Visit} {target : Pk}
    {form : AccessLevelForm} :
    accessLevelEdit church visit target form = .ok after ↔
      ∃ acting level, church.requires visit .manageUsers = .ok acting ∧
        church.directory.levels[target]? = some level ∧
        form.errors acting.level (form.applied level)
          ((church.directory.levels.eraseIdx target).map (·.name)) = [] ∧
        after = { church with
          directory := church.directory.setLevel target (form.applied level) } := by
  unfold accessLevelEdit
  rw [bind_eq_ok_iff]
  constructor
  · rintro ⟨acting, allowed, success⟩
    split at success
    · cases success
    · next level onTable =>
        obtain ⟨_, accepted, success⟩ := bind_eq_ok_iff.mp success
        exact ⟨acting, level, allowed, onTable, Errors.raise_eq_ok_iff.mp accepted,
          (pure_eq_ok_iff.mp success).symm⟩
  · rintro ⟨acting, level, allowed, onTable, accepted, rfl⟩
    refine ⟨acting, allowed, ?_⟩
    simp only [onTable]
    exact bind_eq_ok_iff.mpr ⟨(), Errors.raise_eq_ok_iff.mpr accepted, rfl⟩

/-! ## The link to a volunteer file -/

/-- Whether some file is linked to an account already.  The column is unique. -/
def isLinked (church : Church) (subject : Pk) : Bool :=
  church.files.any (·.volunteer.userId == some subject)

def refuseSecondLink (church : Church) (subject : Pk) : Except Refusal Unit :=
  refuseIf (isLinked church subject)
    (Refusal.invalid "duplicate key value violates unique constraint")

/-- A file once it is linked to an account, and the resync its save queued has run. -/
def linked (ambient : Ambient) (subject : Pk) (file : VolunteerFile) : VolunteerFile :=
  ((Work.start file).saveVolunteer { file.volunteer with userId := some subject }).commit ambient

def linkFile (church : Church) (ambient : Ambient) (subject : Pk) (volunteer : Nat)
    (file : VolunteerFile) : Except Refusal Church := do
  refuseSecondLink church subject
  return { church with files := church.files.set volunteer (linked ambient subject file) }

/-- The file an account is given when it has none: no role, nothing known. -/
def newVolunteer (firstName lastName : String) (subject : Pk) : Volunteer :=
  ⟨firstName, lastName, "", none, none, none, none, false, .none, none, true, none, some subject⟩

def createFile (church : Church) (firstName lastName : String) (subject : Pk) :
    Except Refusal Church := do
  refuseSecondLink church subject
  return { church with
    files := church.files ++ [VolunteerFile.opened (newVolunteer firstName lastName subject)] }

theorem linkFile_eq_ok_iff {church after : Church} {ambient : Ambient} {subject : Pk}
    {volunteer : Nat} {file : VolunteerFile} :
    linkFile church ambient subject volunteer file = .ok after ↔
      isLinked church subject = false ∧
        after = { church with
          files := church.files.set volunteer (linked ambient subject file) } := by
  unfold linkFile refuseSecondLink
  rw [bind_eq_ok_iff]
  constructor
  · rintro ⟨_, free, success⟩
    exact ⟨by simpa using refuseIf_eq_ok_iff.mp free, (pure_eq_ok_iff.mp success).symm⟩
  · rintro ⟨free, rfl⟩
    exact ⟨(), refuseIf_eq_ok_iff.mpr (by simp [free]), rfl⟩

theorem createFile_eq_ok_iff {church after : Church} {firstName lastName : String}
    {subject : Pk} :
    createFile church firstName lastName subject = .ok after ↔
      isLinked church subject = false ∧
        after = { church with
          files := church.files ++
            [VolunteerFile.opened (newVolunteer firstName lastName subject)] } := by
  unfold createFile refuseSecondLink
  rw [bind_eq_ok_iff]
  constructor
  · rintro ⟨_, free, success⟩
    exact ⟨by simpa using refuseIf_eq_ok_iff.mp free, (pure_eq_ok_iff.mp success).symm⟩
  · rintro ⟨free, rfl⟩
    exact ⟨(), refuseIf_eq_ok_iff.mpr (by simp [free]), rfl⟩

def fetchUnlinked (church : Church) (volunteer : Nat) : Except Refusal VolunteerFile :=
  match church.files[volunteer]? with
  | none => .error .notFound
  | some file => if file.volunteer.userId = none then .ok file else .error .notFound

theorem fetchUnlinked_eq_ok_iff {church : Church} {volunteer : Nat} {file : VolunteerFile} :
    fetchUnlinked church volunteer = .ok file ↔
      church.files[volunteer]? = some file ∧ file.volunteer.userId = none := by
  unfold fetchUnlinked
  constructor
  · intro success
    split at success
    · cases success
    · next found =>
        split at success
        · next unlinked =>
            cases success
            exact ⟨found, unlinked⟩
        · cases success
  · rintro ⟨found, unlinked⟩
    simp [found, unlinked]

def adminLinkVolunteer (church : Church) (visit : Visit) (subject : Pk) (volunteer : Nat) :
    Except Refusal Church := do
  let acting ← church.requires visit .manageUsers
  let _ ← fetchUser church subject
  let file ← fetchUnlinked church volunteer
  refuseIf (subject = acting.pk ∧
      church.directory.administration.anotherUnscopedAdminExists acting.pk)
    (Refusal.invalid ("You cannot choose your own screening file. Ask another administrator " ++
      "with access to the whole church to link it for you."))
  linkFile church (church.ambient visit acting) subject volunteer file

theorem adminLinkVolunteer_eq_ok_iff {church after : Church} {visit : Visit} {subject : Pk}
    {volunteer : Nat} :
    adminLinkVolunteer church visit subject volunteer = .ok after ↔
      ∃ acting user file, church.requires visit .manageUsers = .ok acting ∧
        church.directory.users[subject]? = some user ∧
        church.files[volunteer]? = some file ∧ file.volunteer.userId = none ∧
        ¬(subject = acting.pk ∧
          church.directory.administration.anotherUnscopedAdminExists acting.pk = true) ∧
        isLinked church subject = false ∧
        after = { church with
          files := church.files.set volunteer
            (linked (church.ambient visit acting) subject file) } := by
  unfold adminLinkVolunteer
  simp only [bind_eq_ok_iff, fetchUser_eq_ok_iff, fetchUnlinked_eq_ok_iff, refuseIf_eq_ok_iff,
    linkFile_eq_ok_iff]
  constructor
  · rintro ⟨acting, allowed, user, found, file, ⟨placed, unlinked⟩, _, another, free, written⟩
    exact ⟨acting, user, file, allowed, found, placed, unlinked, another, free, written⟩
  · rintro ⟨acting, user, file, allowed, found, placed, unlinked, another, free, written⟩
    exact ⟨acting, allowed, user, found, file, ⟨placed, unlinked⟩, (), another, free, written⟩

def adminCreateVolunteer (church : Church) (visit : Visit) (subject : Pk) :
    Except Refusal Church := do
  let _ ← church.requires visit .manageUsers
  let user ← fetchUser church subject
  refuseIf (isLinked church subject)
    (Refusal.invalid s!"{user.fullName} already has a volunteer record.")
  createFile church user.firstName user.lastName subject

theorem adminCreateVolunteer_eq_ok_iff {church after : Church} {visit : Visit} {subject : Pk} :
    adminCreateVolunteer church visit subject = .ok after ↔
      ∃ acting user, church.requires visit .manageUsers = .ok acting ∧
        church.directory.users[subject]? = some user ∧ isLinked church subject = false ∧
        after = { church with
          files := church.files ++
            [VolunteerFile.opened (newVolunteer user.firstName user.lastName subject)] } := by
  unfold adminCreateVolunteer
  simp only [bind_eq_ok_iff, fetchUser_eq_ok_iff, refuseIf_eq_ok_iff, createFile_eq_ok_iff]
  constructor
  · rintro ⟨acting, allowed, user, found, _, _, free, written⟩
    exact ⟨acting, user, allowed, found, free, written⟩
  · rintro ⟨acting, user, allowed, found, free, written⟩
    exact ⟨acting, allowed, user, found, (), by simp [free], free, written⟩

/-- The volunteer an invitation is for: unlinked, in scope, and not barred from every position of
trust. -/
def volunteerFromRequest (church : Church) (ambient : Ambient) (acting : Directory.Administrator)
    (volunteer : Option Nat) : Except Refusal (Option (Nat × VolunteerFile)) :=
  match volunteer with
  | none => .ok none
  | some position =>
      match church.files[position]? with
      | none => .error .notFound
      | some file => do
          refuseIf (volunteerInScope ambient.settings acting.account file = false) Refusal.notFound
          refuseIf (file.volunteer.userId ≠ none) Refusal.notFound
          refuseIf file.volunteer.isPermanentlyDisqualified
            (Refusal.permissionDenied ("This person is permanently disqualified under the Plan " ++
              "to Protect policy and cannot be made a screening administrator."))
          return some (position, file)

theorem volunteerFromRequest_some {church : Church} {ambient : Ambient}
    {acting : Directory.Administrator} {volunteer : Option Nat} {position : Nat}
    {file : VolunteerFile}
    (success : volunteerFromRequest church ambient acting volunteer = .ok (some (position, file))) :
    church.files[position]? = some file ∧ file.volunteer.userId = none ∧
      volunteerInScope ambient.settings acting.account file = true ∧
      file.volunteer.isPermanentlyDisqualified = false := by
  unfold volunteerFromRequest at success
  split at success
  · cases success
  · split at success
    · cases success
    · next found =>
        obtain ⟨_, inScope, success⟩ := bind_eq_ok_iff.mp success
        obtain ⟨_, unlinked, success⟩ := bind_eq_ok_iff.mp success
        obtain ⟨_, eligible, success⟩ := bind_eq_ok_iff.mp success
        cases success
        exact ⟨found, by simpa using refuseIf_eq_ok_iff.mp unlinked,
          by simpa using refuseIf_eq_ok_iff.mp inScope,
          Bool.eq_false_iff.mpr (refuseIf_eq_ok_iff.mp eligible)⟩

/-- Whether a file might already be this person: the names, without regard to case. -/
def possiblyMatches (platform : Platform) (firstName lastName : String) (file : VolunteerFile) :
    Bool :=
  platform.iexact file.volunteer.firstName (Text.strip firstName) &&
    platform.iexact file.volunteer.lastName (Text.strip lastName)

/-- Give a new administrator a volunteer file, unless one already exists under that name. -/
def fileForNewAdmin (church : Church) (ambient : Ambient) (firstName lastName : String)
    (subject : Pk) (existing : Option (Nat × VolunteerFile)) : Except Refusal Church :=
  match existing with
  | some (position, file) => linkFile church ambient subject position file
  | none =>
      if church.files.any (possiblyMatches church.platform firstName lastName) then .ok church
      else createFile church firstName lastName subject

def normaliseEmail (email : String) : String := (Text.strip email).map Char.toLower

def emailErrors (platform : Platform) (others : List User) (clash email : String) : Errors :=
  if Text.strip email = "" then [("email", "This field is required.")]
  else if !platform.isEmail (Text.strip email) then [("email", "Enter a valid email address.")]
  else if others.any fun user =>
      platform.emailIndex user.email == platform.emailIndex (normaliseEmail email) then
    [("email", clash)]
  else []

structure AdminInviteForm where
  firstName : String
  lastName : String
  email : String
  access : AccessGrantForm

def AdminInviteForm.errors (form : AdminInviteForm) (church : Church) : Errors :=
  let required (field text : String) : Errors :=
    if Text.strip text = "" then [(field, "This field is required.")]
    else Errors.tooLong field 100 (Text.strip text)
  required "first_name" form.firstName ++ required "last_name" form.lastName ++
    emailErrors church.platform church.directory.users
      "An administrator with that address already exists." form.email

/-- Add another administrator to this church, with a grant and a volunteer file. -/
def adminInvite (church : Church) (visit : Visit) (form : AdminInviteForm)
    (volunteer : Option Nat) : Except Refusal Church := do
  let acting ← church.requires visit .manageUsers
  let ambient := church.ambient visit acting
  let existing ← volunteerFromRequest church ambient acting volunteer
  (form.errors church ++ form.access.errors church acting).raise
  let firstName := Text.strip form.firstName
  let lastName := Text.strip form.lastName
  let subject := church.directory.users.length
  let directory ← applyGrant acting subject form.access.accessLevel
    (form.access.chosen church acting)
    (church.directory.addUser firstName lastName (normaliseEmail form.email))
  fileForNewAdmin { church with directory := directory } ambient firstName lastName subject existing

/-- An invitation that goes through adds one account, on a level the inviter's covers, and then
links a file that was in order, creates one, or leaves the files alone. -/
theorem adminInvite_ok {church after : Church} {visit : Visit} {form : AdminInviteForm}
    {volunteer : Option Nat} (success : adminInvite church visit form volunteer = .ok after) :
    ∃ acting existing directory, church.requires visit .manageUsers = .ok acting ∧
      volunteerFromRequest church (church.ambient visit acting) acting volunteer = .ok existing ∧
      form.access.offersLevel church acting = true ∧
      applyGrant acting church.directory.users.length form.access.accessLevel
          (form.access.chosen church acting)
          (church.directory.addUser (Text.strip form.firstName) (Text.strip form.lastName)
            (normaliseEmail form.email)) = .ok directory ∧
      fileForNewAdmin { church with directory := directory } (church.ambient visit acting)
        (Text.strip form.firstName) (Text.strip form.lastName) church.directory.users.length
        existing = .ok after := by
  obtain ⟨acting, allowed, success⟩ := bind_eq_ok_iff.mp success
  obtain ⟨existing, sought, success⟩ := bind_eq_ok_iff.mp success
  obtain ⟨_, accepted, success⟩ := bind_eq_ok_iff.mp success
  obtain ⟨directory, granted, success⟩ := bind_eq_ok_iff.mp success
  have accepted := (List.append_eq_nil_iff.mp (Errors.raise_eq_ok_iff.mp accepted)).2
  exact ⟨acting, existing, directory, allowed, sought,
    form.access.offersLevel_of_errors_eq_nil church acting accepted, granted, success⟩

theorem fileForNewAdmin_ok {church after : Church} {ambient : Ambient}
    {firstName lastName : String} {subject : Pk} {existing : Option (Nat × VolunteerFile)}
    (success : fileForNewAdmin church ambient firstName lastName subject existing = .ok after) :
    after = church ∨
      isLinked church subject = false ∧
        ((∃ position file, existing = some (position, file) ∧
            after = { church with
              files := church.files.set position (linked ambient subject file) }) ∨
          after = { church with
            files := church.files ++
              [VolunteerFile.opened (newVolunteer firstName lastName subject)] }) := by
  unfold fileForNewAdmin at success
  split at success
  · next position file =>
      obtain ⟨free, written⟩ := linkFile_eq_ok_iff.mp success
      exact .inr ⟨free, .inl ⟨position, file, rfl, written⟩⟩
  · split at success
    · exact .inl (Except.ok.inj success).symm
    · obtain ⟨free, written⟩ := createFile_eq_ok_iff.mp success
      exact .inr ⟨free, .inr written⟩

theorem adminInvite_directory {church after : Church} {visit : Visit} {form : AdminInviteForm}
    {volunteer : Option Nat} (success : adminInvite church visit form volunteer = .ok after) :
    ∃ acting level listed, church.requires visit .manageUsers = .ok acting ∧
      church.directory.levels[form.access.accessLevel]? = some level ∧
      acting.level.covers level = true ∧
      (∀ department ∈ form.access.chosen church acting,
        acting.administers department.pk = true) ∧
      after.directory =
        (church.directory.addUser (Text.strip form.firstName) (Text.strip form.lastName)
          (normaliseEmail form.email)).setGrant church.directory.users.length
            ⟨form.access.accessLevel,
              if level.isScoped then (form.access.chosen church acting).map (·.pk) else []⟩
            listed := by
  obtain ⟨acting, existing, directory, allowed, _, _, granted, filed⟩ := adminInvite_ok success
  obtain ⟨level, listed, onTable, covered, inside, rfl⟩ := applyGrant_ok granted
  refine ⟨acting, level, listed, allowed, onTable, covered, inside, ?_⟩
  rcases fileForNewAdmin_ok filed with rfl | ⟨_, ⟨_, _, _, rfl⟩ | rfl⟩ <;> rfl

theorem adminInvite_administrator {church after : Church} {visit : Visit} {form : AdminInviteForm}
    {volunteer : Option Nat} (success : adminInvite church visit form volunteer = .ok after)
    {pk : Pk} (earlier : pk < church.directory.users.length) :
    after.directory.administrator pk = church.directory.administrator pk := by
  obtain ⟨_, _, listed, _, _, _, _, written⟩ := adminInvite_directory success
  rw [written, Directory.administrator_setGrant_other (Nat.ne_of_lt earlier),
    Directory.administrator_addUser]

theorem linked_eq (ambient : Ambient) (subject : Pk) (file : VolunteerFile) :
    linked ambient subject file =
      { file with
        volunteer := { file.volunteer with userId := some subject }.deriveBirth
        requirementInstances := (linked ambient subject file).requirementInstances } := by
  unfold linked
  rw [Work.commit_eq]
  rfl

@[simp]
theorem linked_userId (ambient : Ambient) (subject : Pk) (file : VolunteerFile) :
    (linked ambient subject file).volunteer.userId = some subject := by
  rw [linked_eq]
  exact Volunteer.deriveBirth_userId _

@[simp]
theorem linked_screeningBlock (ambient : Ambient) (subject : Pk) (file : VolunteerFile) :
    (linked ambient subject file).volunteer.screeningBlock = file.volunteer.screeningBlock := by
  rw [linked_eq]
  exact Volunteer.deriveBirth_screeningBlock _

/-! ## One's own account -/

structure AdminProfileForm where
  firstName : String
  lastName : String
  email : String

def AdminProfileForm.errors (form : AdminProfileForm) (church : Church) (user : Pk) : Errors :=
  Errors.tooLong "first_name" 100 (Text.strip form.firstName) ++
    Errors.tooLong "last_name" 100 (Text.strip form.lastName) ++
    emailErrors church.platform (church.directory.users.eraseIdx user)
      "Another administrator already uses that address." form.email

/-- Change one's own name and address.  Any active account may, whatever it is granted. -/
def profile (church : Church) (visit : Visit) (form : AdminProfileForm) :
    Except Refusal Church := do
  let user ← fetchUser church visit.user
  refuseIf (user.isActive = false) Refusal.notFound
  (form.errors church visit.user).raise
  return { church with
    directory := church.directory.setProfile visit.user (Text.strip form.firstName)
      (Text.strip form.lastName) (normaliseEmail form.email) }

theorem profile_files {church after : Church} {visit : Visit} {form : AdminProfileForm}
    (success : profile church visit form = .ok after) : after.files = church.files := by
  obtain ⟨_, _, success⟩ := bind_eq_ok_iff.mp success
  obtain ⟨_, _, success⟩ := bind_eq_ok_iff.mp success
  obtain ⟨_, _, success⟩ := bind_eq_ok_iff.mp success
  obtain rfl := pure_eq_ok_iff.mp success
  rfl

/-! ## The account requests -/

inductive AccountRequest where
  | adminAccess (subject : Pk) (form : AccessGrantForm)
  | adminToggleActive (subject : Pk)
  | adminInvite (form : AdminInviteForm) (volunteer : Option Nat)
  | accessLevelCreate (form : AccessLevelForm)
  | accessLevelEdit (target : Pk) (form : AccessLevelForm)
  | adminLinkVolunteer (subject : Pk) (volunteer : Nat)
  | adminCreateVolunteer (subject : Pk)

def answer (church : Church) (visit : Visit) : AccountRequest → Except Refusal Church
  | .adminAccess subject form => adminAccess church visit subject form
  | .adminToggleActive subject => adminToggleActive church visit subject
  | .adminInvite form volunteer => adminInvite church visit form volunteer
  | .accessLevelCreate form => accessLevelCreate church visit form
  | .accessLevelEdit target form => accessLevelEdit church visit target form
  | .adminLinkVolunteer subject volunteer => adminLinkVolunteer church visit subject volunteer
  | .adminCreateVolunteer subject => adminCreateVolunteer church visit subject

/-- One request by one visitor; a request that is refused changes nothing. -/
def accountStep (church : Church) (call : Visit × AccountRequest) : Church :=
  Machine.attempt (fun church => answer church call.1 call.2) church

def AccountRequest.writesFiles : AccountRequest → Bool
  | .adminInvite .. | .adminLinkVolunteer .. | .adminCreateVolunteer _ => true
  | _ => false

theorem answer_files {church after : Church} {visit : Visit} {request : AccountRequest}
    (success : answer church visit request = .ok after) (aside : request.writesFiles = false) :
    after.files = church.files := by
  cases request with
  | adminAccess subject form =>
      obtain ⟨_, _, _, _, _, _, _, _, _, _, _, rfl⟩ := adminAccess_ok success
      rfl
  | adminToggleActive subject =>
      obtain ⟨_, _, _, _, _, _, rfl⟩ := adminToggleActive_ok success
      rfl
  | accessLevelCreate form =>
      obtain rfl := accessLevelCreate_ok success
      rfl
  | accessLevelEdit target form =>
      obtain ⟨_, _, _, _, _, rfl⟩ := accessLevelEdit_eq_ok_iff.mp success
      rfl
  | _ => cases aside

theorem accessLevelEdit_not_refused {church : Church} {visit : Visit} {request : AccountRequest}
    {target : Pk} {form : AccessLevelForm} {acting : Directory.Administrator}
    {level : AccessLevel} {refusal : Refusal} (asked : request = .accessLevelEdit target form)
    (allowed : church.requires visit .manageUsers = .ok acting)
    (onTable : church.directory.levels[target]? = some level)
    (accepted : form.errors acting.level (form.applied level)
      ((church.directory.levels.eraseIdx target).map (·.name)) = []) :
    answer church visit request ≠ .error refusal := by
  intro failure
  subst asked
  have success := accessLevelEdit_eq_ok_iff.mpr ⟨acting, level, allowed, onTable, accepted, rfl⟩
  cases success.symm.trans failure

end VolunteerScreening.Accounts
