import VolunteerScreening.Core.Access
import VolunteerScreening.Library.Text
import Mathlib.Data.List.Basic

/-!
# Accounts, access levels and grants

What an access level can grant, the accounts with the one grant each may hold,
and the directory of both.  The screening side sees a directory as its
`Core.Administration`.  Accounts and levels are never deleted, so a row's key is
its position.
-/

namespace VolunteerScreening.Accounts

inductive Capability where
  | viewVolunteers
  | editVolunteers
  | manageAssignments
  | recordScreening
  | recordCrc
  | manageOrg
  | manageRequirements
  | viewAudit
  | manageUsers
  deriving DecidableEq, Repr

namespace Capability

def label : Capability → String
  | .viewVolunteers => "See volunteer records"
  | .editVolunteers => "Add and edit volunteers"
  | .manageAssignments => "Assign volunteers to ministry roles"
  | .recordScreening => "Record screening progress"
  | .recordCrc => "Record criminal record check results"
  | .manageOrg => "Create departments and ministry roles"
  | .manageRequirements => "Define requirements"
  | .viewAudit => "Read the audit trail"
  | .manageUsers => "Manage administrators and access levels"

def sorted : List Capability :=
  [.editVolunteers, .manageAssignments, .manageOrg, .manageRequirements, .manageUsers, .viewAudit,
    .recordCrc, .recordScreening, .viewVolunteers]

theorem mem_sorted (capability : Capability) : capability ∈ sorted := by
  cases capability <;> decide

end Capability

structure AccessLevel extends Core.AccessLevel where
  name : String
  isBuiltin : Bool
  can : Capability → Bool

namespace AccessLevel

variable (level other : AccessLevel)

def overReach : List Capability :=
  Capability.sorted.filter fun capability => other.can capability && !level.can capability

def covers : Bool := (level.overReach other).isEmpty && !(level.isScoped && !other.isScoped)

def seesWholeChurch : Bool := !level.isScoped && level.isActive

def managesAccess : Bool := !level.isScoped && level.can .manageUsers && level.isActive

theorem overReach_eq_nil_iff :
    level.overReach other = [] ↔
      ∀ capability, other.can capability = true → level.can capability = true := by
  constructor
  · intro none capability granted
    by_contra lacking
    have listed : capability ∈ level.overReach other := by
      apply List.mem_filter.mpr
      exact ⟨capability.mem_sorted, by simp [granted, lacking]⟩
    rw [none] at listed
    cases listed
  · intro within
    apply List.filter_eq_nil_iff.mpr
    intro capability _ reached
    simp only [Bool.and_eq_true, Bool.not_eq_true'] at reached
    rw [within capability reached.1] at reached
    cases reached.2

theorem covers_iff :
    level.covers other = true ↔
      (∀ capability, other.can capability = true → level.can capability = true) ∧
        (level.isScoped = true → other.isScoped = true) := by
  rw [← overReach_eq_nil_iff]
  unfold covers
  cases level.isScoped <;> cases other.isScoped <;> simp

end AccessLevel

structure UserAccessGrant where
  accessLevel : Pk
  departments : List Pk
  deriving DecidableEq

structure User where
  firstName : String
  lastName : String
  email : String
  isActive : Bool
  grant : Option UserAccessGrant
  deriving DecidableEq

namespace User

variable (user : User)

def fullName : String := Text.strip (user.firstName ++ " " ++ user.lastName)

/-- The name for audit labels and bylines: never blank. -/
def displayName : String := if user.fullName = "" then "administrator" else user.fullName

def str (pk : Pk) : String :=
  if user.fullName ≠ "" then user.fullName
  else if user.email ≠ "" then user.email
  else s!"user #{pk}"

def account (pk : Pk) : Core.User := ⟨pk, user.displayName, user.isActive⟩

end User

/-- The accounts and the access levels.  A grant's level is one of the table. -/
structure Directory where
  users : List User
  levels : List AccessLevel
  resolved : ∀ (pk : Nat) (user : User) (grant : UserAccessGrant), users[pk]? = some user →
    user.grant = some grant → grant.accessLevel < levels.length

namespace Directory

variable (directory : Directory)

def grants : List Core.UserAccessGrant :=
  directory.users.zipIdx.filterMap fun entry =>
    entry.1.grant.map fun grant => ⟨entry.2, grant.accessLevel, grant.departments⟩

def administration : Core.Administration where
  users := directory.users.zipIdx.map fun entry => entry.1.account entry.2
  levels := fun pk => ((directory.levels[pk]?).map (·.toAccessLevel)).getD ⟨true, false⟩
  grants := directory.grants

/-! ## Writing a row -/

def addUser (firstName lastName email : String) : Directory where
  users := directory.users ++ [⟨firstName, lastName, email, true, none⟩]
  levels := directory.levels
  resolved := by
    intro pk user grant found granted
    rw [List.getElem?_append] at found
    split at found
    · exact directory.resolved pk user grant found granted
    · rw [List.getElem?_singleton] at found
      split at found
      · cases found
        cases granted
      · cases found

def setActive (subject : Pk) (isActive : Bool) : Directory where
  users := directory.users.modify subject fun user => { user with isActive := isActive }
  levels := directory.levels
  resolved := by
    intro pk user grant found granted
    rw [List.getElem?_modify] at found
    obtain ⟨before, foundBefore, rfl⟩ := Option.map_eq_some_iff.mp found
    apply directory.resolved pk before grant foundBefore
    split at granted <;> exact granted

def setProfile (subject : Pk) (firstName lastName email : String) : Directory where
  users := directory.users.modify subject fun user =>
    { user with firstName := firstName, lastName := lastName, email := email }
  levels := directory.levels
  resolved := by
    intro pk user grant found granted
    rw [List.getElem?_modify] at found
    obtain ⟨before, foundBefore, rfl⟩ := Option.map_eq_some_iff.mp found
    apply directory.resolved pk before grant foundBefore
    split at granted <;> exact granted

def setGrant (subject : Pk) (grant : UserAccessGrant)
    (listed : grant.accessLevel < directory.levels.length) : Directory where
  users := directory.users.modify subject fun user => { user with grant := some grant }
  levels := directory.levels
  resolved := by
    intro pk user held found granted
    rw [List.getElem?_modify] at found
    obtain ⟨before, foundBefore, rfl⟩ := Option.map_eq_some_iff.mp found
    split at granted
    · cases granted
      exact listed
    · exact directory.resolved pk before held foundBefore granted

def addLevel (level : AccessLevel) : Directory where
  users := directory.users
  levels := directory.levels ++ [level]
  resolved := by
    intro pk user grant found granted
    have listed := directory.resolved pk user grant found granted
    rw [List.length_append]
    exact Nat.lt_add_right _ listed

def setLevel (pk : Pk) (level : AccessLevel) : Directory where
  users := directory.users
  levels := directory.levels.set pk level
  resolved := by
    intro holder user grant found granted
    rw [List.length_set]
    exact directory.resolved holder user grant found granted

/-! ## Resolving what a user holds -/

/-- Somebody who is signed in: the account, its grant and the level it is on, as they were when
the request began. -/
structure Administrator where
  pk : Pk
  user : User
  grant : UserAccessGrant
  level : AccessLevel

def administrator (pk : Pk) : Option Administrator :=
  (directory.users[pk]?).bind fun user =>
    if user.isActive then
      user.grant.bind fun grant =>
        (directory.levels[grant.accessLevel]?).map fun level => ⟨pk, user, grant, level⟩
    else none

namespace Administrator

variable (acting : Administrator)

def account : Core.User := acting.user.account acting.pk

@[simp]
theorem account_pk : acting.account.pk = acting.pk := rfl

@[simp]
theorem account_displayName : acting.account.displayName = acting.user.displayName := by
  simp only [account, User.account]

def actor : Core.Actor where
  userId := some acting.pk
  display := if acting.user.fullName ≠ "" then acting.user.fullName else acting.user.email
  accessLevelIsScoped := acting.level.isScoped
  accessLevelUnknown := false
  departmentIds := if acting.level.isScoped then acting.grant.departments else []

/-- The departments an administrator is limited to, or `none` meaning unscoped. -/
def scope : Option (List Pk) :=
  if acting.level.isScoped then some acting.grant.departments else none

def hasCapability (capability : Capability) : Bool :=
  acting.level.isActive && acting.level.can capability

def administers (department : Pk) : Bool :=
  !acting.level.isScoped || acting.grant.departments.contains department

end Administrator

variable {directory}

theorem administrator_eq_some_iff {pk : Pk} {acting : Administrator} :
    directory.administrator pk = some acting ↔
      acting.pk = pk ∧ directory.users[pk]? = some acting.user ∧ acting.user.isActive = true ∧
        acting.user.grant = some acting.grant ∧
        directory.levels[acting.grant.accessLevel]? = some acting.level := by
  obtain ⟨position, user, grant, level⟩ := acting
  unfold administrator
  constructor
  · intro found
    obtain ⟨user', present, found⟩ := Option.bind_eq_some_iff.mp found
    split at found
    · next active =>
        obtain ⟨grant', granted, found⟩ := Option.bind_eq_some_iff.mp found
        obtain ⟨level', listed, same⟩ := Option.map_eq_some_iff.mp found
        cases same
        exact ⟨rfl, present, active, granted, listed⟩
    · cases found
  · rintro ⟨rfl, present, active, granted, listed⟩
    dsimp only at present active granted listed
    simp [present, active, granted, listed]

theorem administrator_of_grant {pk : Pk} {user : User} {grant : UserAccessGrant}
    (found : directory.users[pk]? = some user) (active : user.isActive = true)
    (granted : user.grant = some grant) :
    ∃ level, directory.levels[grant.accessLevel]? = some level ∧
      directory.administrator pk = some ⟨pk, user, grant, level⟩ := by
  have listed := directory.resolved pk user grant found granted
  refine ⟨_, List.getElem?_eq_getElem listed, ?_⟩
  apply administrator_eq_some_iff.mpr
  exact ⟨rfl, found, active, granted, List.getElem?_eq_getElem listed⟩

end Directory

end VolunteerScreening.Accounts
