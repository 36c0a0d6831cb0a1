import VolunteerScreening.Church

/-!
# The actor behind a request, and the two guards

The services read who is acting from the audit actor, the screens from the
account itself.  Both guards are meant to be one rule.  For an account that
holds a grant they are; an account that holds none is limited to no department
on the screens, and not limited at all in the services.
-/

namespace VolunteerScreening.Accounts

open VolunteerScreening.Core Org

structure AccessContext where
  accessLevelIsScoped : Bool
  departmentIds : List Pk

namespace Directory

variable (directory : Directory)

def accessContext (user : Core.User) : AccessContext :=
  match directory.administration.grantFor user with
  -- a known state rather than a failure: the level does not count as unknown
  | none => ⟨false, []⟩
  | some grant =>
      ⟨(directory.administration.levelFor grant).isScoped,
        ((directory.administration.scopeDepartmentIds (some user)).getD []).mergeSort⟩

def actorFromRequest : Option (Pk × User) → Actor
  | none => ⟨none, "anonymous", false, false, []⟩
  | some (pk, user) =>
      let context := directory.accessContext (user.account pk)
      { userId := some pk
        display := if user.fullName ≠ "" then user.fullName else user.email
        accessLevelIsScoped := context.accessLevelIsScoped
        accessLevelUnknown := false
        departmentIds := context.departmentIds }

variable {directory}

theorem actorFromRequest_administrator {pk : Pk} {acting : Administrator}
    (signedIn : directory.administrator pk = some acting) :
    directory.actorFromRequest (some (acting.pk, acting.user)) =
      { acting.actor with departmentIds := acting.actor.departmentIds.mergeSort } := by
  have scope := scopeDepartmentIds_account signedIn
  obtain ⟨rfl, found, active, granted, listed⟩ := administrator_eq_some_iff.mp signedIn
  have held := grantFor_account found
  rw [if_pos active, granted, Option.map_some] at held
  have limited : (directory.administration.levelFor
      ⟨acting.pk, acting.grant.accessLevel, acting.grant.departments⟩).isScoped =
        acting.level.isScoped := by
    simp [Core.Administration.levelFor, administration, listed]
  unfold Administrator.account at scope
  simp only [actorFromRequest, accessContext, held, limited, scope]
  unfold Administrator.scope Administrator.actor
  cases acting.level.isScoped <;> simp

theorem actorFromRequest_isScoped {pk : Pk} {user : User} {grant : Core.UserAccessGrant}
    (held : directory.administration.grantFor (user.account pk) = some grant) :
    (directory.actorFromRequest (some (pk, user))).accessLevelIsScoped =
      !directory.administration.isUnscoped (user.account pk) := by
  simp only [actorFromRequest, accessContext, held, Core.Administration.isUnscoped,
    Core.Administration.scopeDepartmentIds]
  cases (directory.administration.levelFor grant).isScoped <;> rfl

theorem isUnscoped_of_no_grant {user : Core.User}
    (none : directory.administration.grantFor user = none) :
    directory.administration.isUnscoped user = false := by
  simp [Core.Administration.isUnscoped, Core.Administration.scopeDepartmentIds, none]

def ServiceRefuses (directory : Directory) (pk : Pk) (user : User) (linked : Option Pk) : Prop :=
  refuseSelfRecording directory.administration (directory.actorFromRequest (some (pk, user)))
    linked ≠ .ok ()

def ScreenRefuses (directory : Directory) (pk : Pk) (user : User) (linked : Option Pk) : Prop :=
  mayRecordAgainst directory.administration (user.account pk) linked ≠ none

theorem serviceRefuses_iff {pk : Pk} {user : User} {linked : Option Pk} :
    directory.ServiceRefuses pk user linked ↔
      linked = some pk ∧
        selfRefusal directory.administration
          (directory.actorFromRequest (some (pk, user))).accessLevelIsScoped pk ≠ none := by
  unfold ServiceRefuses refuseSelfRecording
  cases linked with
  | none => simp [actorFromRequest]
  | some linkedId =>
      simp only [actorFromRequest, Bool.or_false, Option.some.injEq]
      by_cases own : pk = linkedId
      · subst own
        rw [if_neg (not_not_intro rfl)]
        split
        · next why refused => simp [refused]
        · next allowed => simp [allowed]
      · rw [if_pos own]
        simp [Ne.symm own]

theorem screenRefuses_iff {pk : Pk} {user : User} {linked : Option Pk} :
    directory.ScreenRefuses pk user linked ↔
      linked = some pk ∧
        selfRefusal directory.administration
          (!directory.administration.isUnscoped (user.account pk)) pk ≠ none := by
  unfold ScreenRefuses mayRecordAgainst
  by_cases own : linked = some pk
  · rw [if_pos (show linked = some (user.account pk).pk from own)]
    simp [own, User.account]
  · rw [if_neg (show ¬linked = some (user.account pk).pk from own)]
    simp [own]

/-- The two guards agree on a file, and the actor's work needs review exactly when the account does
not see the whole church. -/
def GuardsAgree (directory : Directory) (pk : Pk) (user : User) (linked : Option Pk) : Prop :=
  (directory.ServiceRefuses pk user linked ↔ directory.ScreenRefuses pk user linked) ∧
    ((directory.actorFromRequest (some (pk, user))).needsReview = true ↔
      directory.administration.isUnscoped (user.account pk) = false)

/-- The guards agree exactly for the accounts that are active and hold a grant. -/
theorem guards_agree_iff (directory : Directory) (pk : Pk) (user : User)
    (found : directory.users[pk]? = some user) (linked : Option Pk) :
    directory.GuardsAgree pk user linked ↔ user.isActive = true ∧ user.grant.isSome = true := by
  have held := grantFor_account found
  constructor
  · rintro ⟨_, reviewed⟩
    by_contra nothing
    have none : directory.administration.grantFor (user.account pk) = none := by
      rw [held]
      cases active : user.isActive <;> cases granted : user.grant <;> simp_all
    have needed := reviewed.mpr (isUnscoped_of_no_grant none)
    simp [Actor.needsReview, actorFromRequest, accessContext, none] at needed
  · rintro ⟨active, granted⟩
    obtain ⟨grant, granted⟩ := Option.isSome_iff_exists.mp granted
    rw [if_pos active, granted, Option.map_some] at held
    have same := actorFromRequest_isScoped held
    refine ⟨?_, ?_⟩
    · rw [serviceRefuses_iff, screenRefuses_iff, same]
    · have known : (directory.actorFromRequest (some (pk, user))).accessLevelUnknown = false := rfl
      rw [Actor.needsReview, known, same]
      simp

/-- An account without a grant: its work needs nobody's review though it sees no department, and
where nobody else sees the whole church the services let it write to its own file. -/
theorem grantless_account_passes_service_guard :
    let eve : User := ⟨"Eve", "Marsh", "eve@example.org", true, none⟩
    let staffed := Sample.directory.addUser eve.firstName eve.lastName eve.email
    let unstaffed := (staffed.setActive 0 false).setActive 1 false
    (staffed.users[4]? = some eve ∧
      (staffed.actorFromRequest (some (4, eve))).needsReview = false ∧
      staffed.administration.scopeDepartmentIds (some (eve.account 4)) = some []) ∧
    unstaffed.users[4]? = some eve ∧
      refuseSelfRecording unstaffed.administration (unstaffed.actorFromRequest (some (4, eve)))
        (some 4) = .ok () ∧
      mayRecordAgainst unstaffed.administration (eve.account 4) (some 4) =
        some ("This is your own screening file. Someone with access to the whole church " ++
          "has to record it.") := by
  decide +kernel

theorem guards_agree_ada :
    Sample.directory.users[0]? = some Sample.ada.user ∧
      Sample.directory.GuardsAgree 0 Sample.ada.user (some 0) :=
  ⟨rfl, (guards_agree_iff Sample.directory 0 Sample.ada.user rfl (some 0)).mpr ⟨rfl, rfl⟩⟩

end Directory

end VolunteerScreening.Accounts
