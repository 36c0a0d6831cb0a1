import VolunteerScreening.Accounts.Views

/-!
# No escalation of privilege

What somebody may do is a set of pairs of a capability and a department.  A
grant hands out only pairs its granter holds.  An edit of a level is compared
with the editor's own level, which says nothing of the departments in which
others hold it.
-/

namespace VolunteerScreening

open Accounts Fallible

def Rights (directory : Directory) (pk : Pk) (capability : Capability) (department : Pk) : Prop :=
  ∃ acting, directory.administrator pk = some acting ∧
    acting.hasCapability capability = true ∧ acting.administers department = true

def AccountRequest.handsOutAccess : AccountRequest → Bool
  | .adminToggleActive _ => false
  | _ => true

/-- Whatever anybody gains by the request, the visitor held. -/
def NoEscalation (church : Church) (call : Visit × AccountRequest) : Prop :=
  AccountRequest.handsOutAccess call.2 = true → ∀ pk capability department,
    Rights (accountStep church call).directory pk capability department →
      ¬Rights church.directory pk capability department →
        Rights church.directory call.1.user capability department

/-- An edit that goes through is by somebody church-wide, or whatever it brings newly into force it
brings to holders in departments of the editor's only. -/
def WithinScope (church : Church) (call : Visit × AccountRequest) : Prop :=
  ∀ target form acting level, call.2 = .accessLevelEdit target form →
    church.requires call.1 .manageUsers = .ok acting →
    church.directory.levels[target]? = some level →
    form.errors acting.level (form.applied level)
      ((church.directory.levels.eraseIdx target).map (·.name)) = [] →
    acting.level.isScoped = true →
    ∀ pk held capability, church.directory.administrator pk = some held →
      held.grant.accessLevel = target →
      (form.applied level).isActive = true → form.can capability = true →
      ¬(level.isActive = true ∧ level.can capability = true) →
      ∀ department ∈ held.grant.departments, department ∈ acting.grant.departments

theorem hasCapability_iff {acting : Directory.Administrator} {capability : Capability} :
    acting.hasCapability capability = true ↔
      acting.level.isActive = true ∧ acting.level.can capability = true := by
  simp [Directory.Administrator.hasCapability]

theorem administers_iff {acting : Directory.Administrator} {department : Pk} :
    acting.administers department = true ↔
      acting.level.isScoped = false ∨ department ∈ acting.grant.departments := by
  simp [Directory.Administrator.administers]

/-- What a granter hands out on a level theirs covers, in departments they administer, they hold
themselves. -/
theorem rights_of_covers {church : Church} {visit : Visit} {acting : Directory.Administrator}
    {level : AccessLevel} {departments : List Pk} {capability : Capability} {department : Pk}
    (allowed : church.requires visit .manageUsers = .ok acting)
    (covered : acting.level.covers level = true) (grants : level.can capability = true)
    (inside : ∀ pk ∈ departments, acting.administers pk = true)
    (reach : level.isScoped = false ∨ department ∈ departments) :
    Rights church.directory visit.user capability department := by
  obtain ⟨signedIn, holds⟩ := church.requires_eq_ok_iff.mp allowed
  obtain ⟨wider, limited⟩ := (AccessLevel.covers_iff _ _).mp covered
  refine ⟨acting, signedIn, ?_, ?_⟩
  · exact hasCapability_iff.mpr ⟨(hasCapability_iff.mp holds).1, wider capability grants⟩
  · rcases reach with unscoped | listed
    · apply administers_iff.mpr
      left
      by_contra scopedGranter
      rw [limited (Bool.not_eq_false _ ▸ scopedGranter)] at unscoped
      cases unscoped
    · exact inside department listed

theorem Rights.congr {before after : Directory} {pk : Pk} {capability : Capability}
    {department : Pk} (same : after.administrator pk = before.administrator pk)
    (rights : Rights before pk capability department) : Rights after pk capability department := by
  obtain ⟨acting, signedIn, holds⟩ := rights
  exact ⟨acting, same.trans signedIn, holds⟩

theorem gained_by_setGrant {directory : Directory} {subject : Pk} {grant : UserAccessGrant}
    (listed : grant.accessLevel < directory.levels.length) {level : AccessLevel} {pk : Pk}
    {capability : Capability} {department : Pk}
    (onTable : directory.levels[grant.accessLevel]? = some level)
    (gained : Rights (directory.setGrant subject grant listed) pk capability department)
    (lacked : ¬Rights directory pk capability department) :
    level.can capability = true ∧ (level.isScoped = false ∨ department ∈ grant.departments) := by
  by_cases same : pk = subject
  · subst same
    obtain ⟨acting, signedIn, holds, reach⟩ := gained
    have placed := Directory.administrator_lt signedIn
    simp only [Directory.setGrant, List.length_modify] at placed
    rw [Directory.administrator_setGrant_self listed (List.getElem?_eq_getElem placed) onTable]
      at signedIn
    split at signedIn
    · cases signedIn
      exact ⟨(hasCapability_iff.mp holds).2, administers_iff.mp reach⟩
    · cases signedIn
  · have kept := Directory.administrator_setGrant_other same grant listed
    exact absurd (gained.congr kept.symm) lacked

/-! ## One lemma for each kind of request -/

theorem adminAccess_noEscalation {church after : Church} {visit : Visit} {subject : Pk}
    {form : AccessGrantForm} (success : adminAccess church visit subject form = .ok after)
    {pk : Pk} {capability : Capability} {department : Pk}
    (gained : Rights after.directory pk capability department)
    (lacked : ¬Rights church.directory pk capability department) :
    Rights church.directory visit.user capability department := by
  obtain ⟨acting, user, level, listed, allowed, _, onTable, _, _, covered, inside, rfl⟩ :=
    adminAccess_ok success
  obtain ⟨grants, reach⟩ := gained_by_setGrant listed onTable gained lacked
  apply rights_of_covers allowed covered grants _ reach
  intro granted listed
  split at listed
  · obtain ⟨chosen, offered, rfl⟩ := List.mem_map.mp listed
    exact inside chosen offered
  · cases listed

theorem adminInvite_noEscalation {church after : Church} {visit : Visit} {form : AdminInviteForm}
    {volunteer : Option Nat} (success : adminInvite church visit form volunteer = .ok after)
    {pk : Pk} {capability : Capability} {department : Pk}
    (gained : Rights after.directory pk capability department)
    (lacked : ¬Rights church.directory pk capability department) :
    Rights church.directory visit.user capability department := by
  obtain ⟨acting, level, listed, allowed, onTable, covered, inside, written⟩ :=
    adminInvite_directory success
  rw [written] at gained
  have lackedThere : ¬Rights (church.directory.addUser (Text.strip form.firstName)
      (Text.strip form.lastName) (normaliseEmail form.email)) pk capability department := by
    intro earlier
    exact lacked (earlier.congr (Directory.administrator_addUser _ _ _ pk).symm)
  obtain ⟨grants, reach⟩ := gained_by_setGrant listed onTable gained lackedThere
  apply rights_of_covers allowed covered grants _ reach
  intro granted listed
  split at listed
  · obtain ⟨chosen, offered, rfl⟩ := List.mem_map.mp listed
    exact inside chosen offered
  · cases listed

/-- An edit gains the holders of the level what it brings newly into force, where they hold it. -/
theorem gained_by_setLevel_iff {directory : Directory} {target : Pk} {before level : AccessLevel}
    (onTable : directory.levels[target]? = some before) (limited : level.isScoped = true)
    {pk : Pk} {capability : Capability} {department : Pk} :
    (Rights (directory.setLevel target level) pk capability department ∧
        ¬Rights directory pk capability department) ↔
      ∃ held, directory.administrator pk = some held ∧ held.grant.accessLevel = target ∧
        level.isActive = true ∧ level.can capability = true ∧
        department ∈ held.grant.departments ∧
        ¬(before.isActive = true ∧ before.can capability = true) := by
  have onLevel : ∀ held, directory.administrator pk = some held →
      held.grant.accessLevel = target → held.level = before := by
    intro held signedIn onTarget
    obtain ⟨_, _, _, _, heldTable⟩ := Directory.administrator_eq_some_iff.mp signedIn
    rw [onTarget, onTable] at heldTable
    exact (Option.some.inj heldTable).symm
  constructor
  · rintro ⟨⟨acting, signedIn, holds, reach⟩, lacked⟩
    rw [Directory.administrator_setLevel, Option.map_eq_some_iff] at signedIn
    obtain ⟨held, signedIn, rfl⟩ := signedIn
    by_cases onTarget : held.grant.accessLevel = target
    · rw [if_pos onTarget] at holds reach
      obtain ⟨inForce, grants⟩ := hasCapability_iff.mp holds
      have listed : department ∈ held.grant.departments := by
        apply (administers_iff.mp reach).resolve_left
        simp [limited]
      refine ⟨held, signedIn, onTarget, inForce, grants, listed, ?_⟩
      intro already
      rw [← onLevel held signedIn onTarget] at already
      exact lacked
        ⟨held, signedIn, hasCapability_iff.mpr already, administers_iff.mpr (.inr listed)⟩
    · rw [if_neg onTarget] at holds reach
      exact absurd ⟨held, signedIn, holds, reach⟩ lacked
  · rintro ⟨held, signedIn, onTarget, inForce, grants, listed, fresh⟩
    constructor
    · refine ⟨{ held with level := level }, ?_, ?_, ?_⟩
      · rw [Directory.administrator_setLevel, signedIn, Option.map_some, if_pos onTarget]
      · exact hasCapability_iff.mpr ⟨inForce, grants⟩
      · exact administers_iff.mpr (.inr listed)
    · rintro ⟨acting, found, holds, _⟩
      obtain rfl := Option.some.inj (signedIn.symm.trans found)
      rw [hasCapability_iff, onLevel held signedIn onTarget] at holds
      exact fresh holds

theorem accessLevelEdit_noEscalation_iff {church after : Church} {visit : Visit} {target : Pk}
    {form : AccessLevelForm} (success : accessLevelEdit church visit target form = .ok after) :
    (∀ pk capability department, Rights after.directory pk capability department →
        ¬Rights church.directory pk capability department →
        Rights church.directory visit.user capability department) ↔
      WithinScope church (visit, .accessLevelEdit target form) := by
  obtain ⟨acting, level, allowed, onTable, accepted, rfl⟩ := accessLevelEdit_eq_ok_iff.mp success
  have covered := form.covers_of_errors_eq_nil accepted
  obtain ⟨signedIn, holds⟩ := church.requires_eq_ok_iff.mp allowed
  obtain ⟨wider, narrower⟩ := (AccessLevel.covers_iff _ _).mp covered
  constructor
  · intro law target' form' acting' level' asked allowed' onTable' _ limited pk held capability
      heldSignedIn onTarget inForce grants fresh department listed
    cases asked
    obtain rfl := Except.ok.inj (allowed.symm.trans allowed')
    obtain rfl := Option.some.inj (onTable.symm.trans onTable')
    obtain ⟨gained, lacked⟩ := (gained_by_setLevel_iff onTable (narrower limited)).mpr
      ⟨held, heldSignedIn, onTarget, inForce, grants, listed, fresh⟩
    obtain ⟨editor, editorSignedIn, _, reach⟩ := law pk capability department gained lacked
    obtain rfl := Option.some.inj (signedIn.symm.trans editorSignedIn)
    apply (administers_iff.mp reach).resolve_left
    simp [limited]
  · intro within pk capability department gained lacked
    cases limited : acting.level.isScoped with
    | true =>
        obtain ⟨held, heldSignedIn, onTarget, inForce, grants, listed, fresh⟩ :=
          (gained_by_setLevel_iff onTable (narrower limited)).mp ⟨gained, lacked⟩
        have inside := within target form acting level rfl allowed onTable accepted limited pk held
          capability heldSignedIn onTarget inForce grants fresh department listed
        refine ⟨acting, signedIn, ?_, administers_iff.mpr (.inr inside)⟩
        exact hasCapability_iff.mpr ⟨(hasCapability_iff.mp holds).1, wider capability grants⟩
    | false =>
        obtain ⟨_, found, grants, reach⟩ := gained
        rw [Directory.administrator_setLevel, Option.map_eq_some_iff] at found
        obtain ⟨held, heldSignedIn, rfl⟩ := found
        by_cases onTarget : held.grant.accessLevel = target
        · rw [if_pos onTarget] at grants
          refine ⟨acting, signedIn, ?_, administers_iff.mpr (.inl limited)⟩
          apply hasCapability_iff.mpr
          exact ⟨(hasCapability_iff.mp holds).1, wider capability (hasCapability_iff.mp grants).2⟩
        · rw [if_neg onTarget] at grants reach
          exact absurd ⟨held, heldSignedIn, grants, reach⟩ lacked

/-! ## Every run -/

theorem noEscalation_iff (church : Church) (call : Visit × AccountRequest) :
    NoEscalation church call ↔ WithinScope church call := by
  obtain ⟨visit, request⟩ := call
  unfold NoEscalation accountStep
  cases result : answer church visit request with
  | error refusal =>
      rw [Machine.attempt_error result]
      constructor
      · intro _ target form acting level asked allowed onTable accepted
        exact absurd result (accessLevelEdit_not_refused asked allowed onTable accepted)
      · intro _ _ pk capability department gained lacked
        exact absurd gained lacked
  | ok after =>
      rw [Machine.attempt_ok result]
      have unguarded : (∀ target form, request ≠ .accessLevelEdit target form) →
          WithinScope church (visit, request) := by
        intro other target form _ _ asked
        exact absurd asked (other target form)
      cases request with
      | adminAccess subject form =>
          refine iff_of_true ?_ (unguarded (by simp))
          intro _ pk capability department gained lacked
          exact adminAccess_noEscalation result gained lacked
      | adminToggleActive subject =>
          refine iff_of_true ?_ (unguarded (by simp))
          intro handsOut
          cases handsOut
      | adminInvite form volunteer =>
          refine iff_of_true ?_ (unguarded (by simp))
          intro _ pk capability department gained lacked
          exact adminInvite_noEscalation result gained lacked
      | accessLevelCreate form =>
          obtain rfl := accessLevelCreate_ok result
          refine iff_of_true ?_ (unguarded (by simp))
          intro _ pk capability department gained lacked
          exact absurd (gained.congr (Directory.administrator_addLevel _ pk).symm) lacked
      | accessLevelEdit target form =>
          rw [← accessLevelEdit_noEscalation_iff result]
          constructor
          · intro law
            exact law rfl
          · intro law _
            exact law
      | adminLinkVolunteer subject volunteer =>
          obtain ⟨_, _, _, _, _, _, _, _, _, rfl⟩ := adminLinkVolunteer_eq_ok_iff.mp result
          refine iff_of_true ?_ (unguarded (by simp))
          intro _ pk capability department gained lacked
          exact absurd gained lacked
      | adminCreateVolunteer subject =>
          obtain ⟨_, _, _, _, _, rfl⟩ := adminCreateVolunteer_eq_ok_iff.mp result
          refine iff_of_true ?_ (unguarded (by simp))
          intro _ pk capability department gained lacked
          exact absurd gained lacked

/-- No request of a run that hands out access escalates anything exactly when every edit of a level
in it stays within its editor's scope. -/
theorem no_escalation_iff (church : Church) (calls : List (Visit × AccountRequest)) :
    Machine.Guarded accountStep NoEscalation church calls ↔
      Machine.Guarded accountStep WithinScope church calls :=
  Machine.guarded_congr accountStep (fun _ => True) (fun _ _ _ => trivial)
    (fun church call _ => noEscalation_iff church call) trivial calls

/-- A coordinator of one department ticks one of their own capabilities on the helpers' level. -/
def Sample.recordingHelper : AccessLevelForm :=
  ⟨"Helper", true, true, fun capability =>
    capability == .viewVolunteers || capability == .recordScreening⟩

/-- The helper of the other department may now record screening there; the coordinator may not. -/
theorem escalation_by_edit :
    let church := Sample.church Sample.orientationOnly []
    let after := accountStep church (Sample.visit 2, .accessLevelEdit 2 Sample.recordingHelper)
    Rights after.directory 3 .recordScreening 2 ∧ ¬Rights church.directory 3 .recordScreening 2 ∧
      ¬Rights church.directory 2 .recordScreening 2 := by
  refine ⟨⟨_, rfl, by decide, by decide⟩, ?_, ?_⟩
  · rintro ⟨acting, signedIn, holds, _⟩
    cases signedIn
    cases holds
  · rintro ⟨acting, signedIn, _, reach⟩
    cases signedIn
    cases reach

end VolunteerScreening
