import VolunteerScreening.Accounts.Views

/-!
# Somebody can always manage access

Inviting, changing one account's access, deactivating and reactivating, and
creating a level keep an active manager of the whole church.  Editing a level
changes everybody who holds it at once, and nothing asks who is left.
-/

namespace VolunteerScreening

open Accounts Fallible

/-- Somebody active can manage access for the whole church. -/
def Managed (church : Church) : Prop :=
  ∃ pk, church.directory.Holds AccessLevel.managesAccess pk

theorem managed_iff_anyOther (church : Church) :
    Managed church ↔ church.directory.anyOther AccessLevel.managesAccess [] = true := by
  rw [Directory.anyOther_iff]
  simp [Managed]

instance (church : Church) : Decidable (Managed church) :=
  decidable_of_iff _ (managed_iff_anyOther church).symm

/-- An edit of a level that goes through leaves it one to manage access with, or somebody active
manages access on another level. -/
def LeavesAManager (church : Church) (call : Visit × AccountRequest) : Prop :=
  ∀ target form acting level, call.2 = .accessLevelEdit target form →
    church.requires call.1 .manageUsers = .ok acting →
    church.directory.levels[target]? = some level →
    form.errors acting.level (form.applied level)
      ((church.directory.levels.eraseIdx target).map (·.name)) = [] →
    (form.applied level).managesAccess = true ∨
      ∃ pk manager, church.directory.administrator pk = some manager ∧
        manager.grant.accessLevel ≠ target ∧ manager.level.managesAccess = true

theorem wouldStrandTheChurch_eq_none {directory : Directory} {subject : Pk} {user : User}
    {newLevel : AccessLevel}
    (unstranded : directory.wouldStrandTheChurch subject user newLevel = none) :
    newLevel.isScoped = false ∧ newLevel.can .manageUsers = true ∨
      ∃ pk, pk ≠ subject ∧ directory.Holds AccessLevel.managesAccess pk := by
  unfold Directory.wouldStrandTheChurch at unstranded
  split at unstranded
  · next qualifies => exact .inl (by simpa using qualifies)
  · split at unstranded
    · next others =>
        obtain ⟨pk, outside, holds⟩ := directory.anyOther_iff.mp others
        exact .inr ⟨pk, by simpa using outside, holds⟩
    · cases unstranded

/-! ## One step for each kind of request -/

theorem adminAccess_managed {church after : Church} {visit : Visit} {subject : Pk}
    {form : AccessGrantForm} (managed : Managed church)
    (success : adminAccess church visit subject form = .ok after) : Managed after := by
  obtain ⟨_, user, level, listed, _, found, onTable, inForce, unstranded, _, _, rfl⟩ :=
    adminAccess_ok success
  have granted := Directory.holds_setGrant_iff AccessLevel.managesAccess (fun _ => True) listed
    found onTable
  simp only [true_and] at granted
  apply granted.mpr
  obtain ⟨pk, holds⟩ := managed
  by_cases same : pk = subject
  · subst same
    obtain ⟨manager, signedIn, _⟩ := holds
    obtain ⟨rfl, present, active, _⟩ := Directory.administrator_eq_some_iff.mp signedIn
    obtain rfl := Option.some.inj (found.symm.trans present)
    apply (wouldStrandTheChurch_eq_none unstranded).imp_left
    rintro ⟨unscoped, manages⟩
    exact ⟨active, by simp [AccessLevel.managesAccess, unscoped, manages, inForce]⟩
  · exact .inr ⟨pk, same, holds⟩

theorem adminToggleActive_managed {church after : Church} {visit : Visit} {subject : Pk}
    (managed : Managed church)
    (success : adminToggleActive church visit subject = .ok after) : Managed after := by
  obtain ⟨acting, user, _, found, _, unrefused, rfl⟩ := adminToggleActive_ok success
  cases active : user.isActive with
  | false =>
      obtain ⟨pk, manager, signedIn, manages⟩ := managed
      exact ⟨pk, manager, Directory.administrator_reactivate signedIn, manages⟩
  | true =>
      have unstranded := (deactivationRefused_eq_none (unrefused active)).1
      rcases wouldStrandTheChurch_eq_none unstranded with ⟨unscoped, _⟩ | ⟨other, different, holds⟩
      · cases unscoped
      · exact ⟨other, holds.congr (Directory.administrator_setActive_other different false)⟩

theorem adminInvite_managed {church after : Church} {visit : Visit} {form : AdminInviteForm}
    {volunteer : Option Nat} (managed : Managed church)
    (success : adminInvite church visit form volunteer = .ok after) : Managed after := by
  obtain ⟨pk, manager, signedIn, manages⟩ := managed
  refine ⟨pk, manager, ?_, manages⟩
  exact (adminInvite_administrator success (Directory.administrator_lt signedIn)).trans signedIn

theorem accessLevelCreate_managed {church after : Church} {visit : Visit} {form : AccessLevelForm}
    (managed : Managed church) (success : accessLevelCreate church visit form = .ok after) :
    Managed after := by
  obtain rfl := accessLevelCreate_ok success
  obtain ⟨pk, manager, signedIn, manages⟩ := managed
  exact ⟨pk, manager, (Directory.administrator_addLevel _ pk).trans signedIn, manages⟩

theorem setLevel_managed_iff {church : Church} (managed : Managed church) (target : Pk)
    (level : AccessLevel) :
    Managed { church with directory := church.directory.setLevel target level } ↔
      level.managesAccess = true ∨
        ∃ pk manager, church.directory.administrator pk = some manager ∧
          manager.grant.accessLevel ≠ target ∧ manager.level.managesAccess = true := by
  have rewritten := @Directory.holds_setLevel_iff church.directory AccessLevel.managesAccess
    (fun _ => True) target level
  simp only [true_and] at rewritten
  exact rewritten managed

/-! ## Every run -/

theorem accessLevelEdit_managed_iff {church after : Church} {visit : Visit} {target : Pk}
    {form : AccessLevelForm} (managed : Managed church)
    (success : accessLevelEdit church visit target form = .ok after) :
    Managed after ↔ LeavesAManager church (visit, .accessLevelEdit target form) := by
  obtain ⟨acting, level, allowed, onTable, accepted, rfl⟩ := accessLevelEdit_eq_ok_iff.mp success
  rw [setLevel_managed_iff managed]
  constructor
  · intro left target' form' acting' level' asked _ onTable' _
    cases asked
    obtain rfl := Option.some.inj (onTable.symm.trans onTable')
    exact left
  · intro leaves
    exact leaves target form acting level rfl allowed onTable accepted

theorem managed_step_iff (church : Church) (call : Visit × AccountRequest)
    (managed : Managed church) :
    Managed (accountStep church call) ↔ LeavesAManager church call := by
  obtain ⟨visit, request⟩ := call
  unfold accountStep
  cases result : answer church visit request with
  | error refusal =>
      rw [Machine.attempt_error result]
      refine iff_of_true managed ?_
      intro target form acting level asked allowed onTable accepted
      exact absurd result (accessLevelEdit_not_refused asked allowed onTable accepted)
  | ok after =>
      rw [Machine.attempt_ok result]
      have unguarded : (∀ target form, request ≠ .accessLevelEdit target form) →
          LeavesAManager church (visit, request) := by
        intro other target form _ _ asked
        exact absurd asked (other target form)
      cases request with
      | adminAccess subject form =>
          exact ⟨fun _ => unguarded (by simp), fun _ => adminAccess_managed managed result⟩
      | adminToggleActive subject =>
          exact ⟨fun _ => unguarded (by simp), fun _ => adminToggleActive_managed managed result⟩
      | adminInvite form volunteer =>
          exact ⟨fun _ => unguarded (by simp), fun _ => adminInvite_managed managed result⟩
      | accessLevelCreate form =>
          exact ⟨fun _ => unguarded (by simp), fun _ => accessLevelCreate_managed managed result⟩
      | accessLevelEdit target form => exact accessLevelEdit_managed_iff managed result
      | adminLinkVolunteer subject volunteer =>
          obtain ⟨_, _, _, _, _, _, _, _, _, rfl⟩ := adminLinkVolunteer_eq_ok_iff.mp result
          exact ⟨fun _ => unguarded (by simp), fun _ => managed⟩
      | adminCreateVolunteer subject =>
          obtain ⟨_, _, _, _, _, rfl⟩ := adminCreateVolunteer_eq_ok_iff.mp result
          exact ⟨fun _ => unguarded (by simp), fun _ => managed⟩

/-- Access stays managed through a run exactly when every edit of a level in it leaves somebody to
manage it. -/
theorem lockout_iff (church : Church) (managed : Managed church)
    (calls : List (Visit × AccountRequest)) :
    Machine.Always accountStep Managed church calls ↔
      Machine.Guarded accountStep LeavesAManager church calls :=
  Machine.always_iff_guarded accountStep LeavesAManager (fun _ => True) Managed
    (fun _ _ _ _ _ => trivial)
    (fun church call _ managed => managed_step_iff church call managed) trivial managed calls

theorem lockout_iff_demoted :
    Machine.Always accountStep Managed (Sample.church Sample.orientationOnly [])
      [(Sample.visit 0, .adminAccess 1 ⟨1, [1]⟩)] := by
  refine (lockout_iff _ (by decide) _).mpr ⟨?_, trivial⟩
  intro target form acting level asked
  cases asked

/-- A primary administrator unticks one capability of the level both of them are on. -/
def Sample.withoutManageUsers : AccessLevelForm :=
  ⟨"Primary Admin", false, true, (· != .manageUsers)⟩

theorem lockout_by_edit :
    let church := Sample.church Sample.orientationOnly []
    Managed church ∧
      ¬Managed (accountStep church
        (Sample.visit 0, .accessLevelEdit 0 Sample.withoutManageUsers)) := by
  decide

end VolunteerScreening
