import VolunteerScreening.Library.Fallible

/-!
# Who may do this, and to whose file

Access levels, the grants administrators hold, the ambient audit actor, and the
rule that nobody screens themselves.  A refusal is the exception a service
raises; the transaction around it is then rolled back whole.
-/

namespace VolunteerScreening

abbrev Pk := Nat

/-- What a service raises.  A validation error lists fields and messages; an error that
belongs to no field is listed under `__all__`. -/
inductive Refusal where
  | validation (errors : List (String × String))
  | permissionDenied (message : String)
  | notFound
  deriving DecidableEq, Repr

namespace Refusal

/-- A validation error on the row as a whole. -/
def invalid (message : String) : Refusal := .validation [("__all__", message)]

def field (name message : String) : Refusal := .validation [(name, message)]

end Refusal

namespace Core

structure AccessLevel where
  isScoped : Bool
  isActive : Bool
  deriving DecidableEq, Repr

structure UserAccessGrant where
  userId : Pk
  accessLevel : Pk
  departments : List Pk
  deriving DecidableEq, Repr

structure User where
  pk : Pk
  displayName : String
  isActive : Bool
  deriving DecidableEq, Repr

structure Administration where
  users : List User
  levels : Pk → AccessLevel
  grants : List UserAccessGrant

namespace Administration

variable (administration : Administration)

def levelFor (grant : UserAccessGrant) : AccessLevel := administration.levels grant.accessLevel

/-- The user's grant, or none: an inactive account holds nothing. -/
def grantFor (user : User) : Option UserAccessGrant :=
  if user.isActive then administration.grants.find? (·.userId == user.pk) else none

/-- The department ids a user is limited to, or `none` meaning unscoped.  An absent user is
unscoped; an account with no grant has the empty scope. -/
def scopeDepartmentIds : Option User → Option (List Pk)
  | none => none
  | some user =>
      match administration.grantFor user with
      | none => some []
      | some grant =>
          if (administration.levelFor grant).isScoped then some grant.departments else none

def isUnscoped (user : User) : Bool := (administration.scopeDepartmentIds (some user)).isNone

def anotherUnscopedAdminExists (excludeUserId : Pk) : Bool :=
  let candidates := (administration.grants.filter fun grant =>
    !(administration.levelFor grant).isScoped && (administration.levelFor grant).isActive &&
      grant.userId != excludeUserId).map (·.userId)
  administration.users.any fun user => user.isActive && candidates.contains user.pk

end Administration

/-- Who caused a change, as the audit thread-local carries it. -/
structure Actor where
  userId : Option Pk
  display : String
  accessLevelIsScoped : Bool
  accessLevelUnknown : Bool
  departmentIds : List Pk
  deriving DecidableEq, Repr

namespace Actor

/-- A scheduled job or management command, with no person behind it. -/
def system (label : String) : Actor := ⟨none, label, false, false, []⟩

def needsReview (actor : Actor) : Bool :=
  if actor.accessLevelUnknown then actor.userId.isSome else actor.accessLevelIsScoped

end Actor

/-- The self-screening decision shared by both enforcement layers. -/
def selfRefusal (administration : Administration) (isLimited : Bool) (userId : Pk) :
    Option String :=
  if isLimited then
    some ("This is your own screening file. Someone with access to the whole church " ++
      "has to record it.")
  else if administration.anotherUnscopedAdminExists userId then
    some ("This is your own screening file. Ask another administrator with access to " ++
      "the whole church to record it.")
  else none

/-- Raise when the actor is the person the file is about and may not record against it. -/
def refuseSelfRecording (administration : Administration) (actor : Actor)
    (linked : Option Pk) : Except Refusal Unit :=
  match actor.userId, linked with
  | some userId, some linkedId =>
      if userId ≠ linkedId then .ok ()
      else
        match selfRefusal administration (actor.accessLevelIsScoped || actor.accessLevelUnknown)
            userId with
        | some why => .error (.permissionDenied why)
        | none => .ok ()
  | _, _ => .ok ()

end Core

end VolunteerScreening
