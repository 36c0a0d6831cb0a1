import VolunteerScreening.Assignments
import VolunteerScreening.Effects

/-!
# Scope only ever grows

A department administrator sees everybody who has ever held a role in their
departments.  No request takes a role off the list of those a volunteer has
held; editing a role can take the role out of the departments.
-/

namespace VolunteerScreening

open Accounts Calendar Documents Fallible Org Requirements Review

/-! ## The roles a volunteer has held -/

namespace VolunteerFile

def rolesHeld (file : VolunteerFile) : List Pk := file.assignments.map (·.role)

def KeepsRoles (before after : VolunteerFile) : Prop := before.rolesHeld ⊆ after.rolesHeld

namespace KeepsRoles

variable {before after : VolunteerFile}

theorem refl (file : VolunteerFile) : KeepsRoles file file := List.Subset.refl _

theorem of_assignments (same : after.assignments = before.assignments) :
    KeepsRoles before after := by
  unfold KeepsRoles rolesHeld
  rw [same]
  exact List.Subset.refl _

end KeepsRoles

end VolunteerFile

open VolunteerFile

section Transactions

variable {ambient : Ambient} {file : VolunteerFile} {work : Work}

theorem perform_keepsRoles {operation : Operation}
    (success : perform ambient operation file = .ok work) : KeepsRoles file work.file := by
  unfold KeepsRoles rolesHeld
  rw [perform_assignments success, List.map_append, ended_roles]
  exact List.subset_append_left _ _

theorem commit_keepsRoles (kept : KeepsRoles file work.file) :
    KeepsRoles file (work.commit ambient) := by
  unfold KeepsRoles rolesHeld
  rw [commit_assignments]
  exact kept

end Transactions

/-! ## Whom a scope shows -/

def everIn (roles : List Role) (departments : List Pk) (file : VolunteerFile) : Bool :=
  file.assignments.any fun assignment => roles.any fun role =>
    role.pk == assignment.role && departments.contains role.department

theorem everIn_iff {roles : List Role} {departments : List Pk} {file : VolunteerFile} :
    everIn roles departments file = true ↔
      ∃ role ∈ roles, role.pk ∈ file.rolesHeld ∧ role.department ∈ departments := by
  unfold everIn rolesHeld
  simp only [List.any_eq_true, Bool.and_eq_true, beq_iff_eq, List.contains_iff_mem, List.mem_map]
  constructor
  · rintro ⟨assignment, held, role, listed, same, inside⟩
    exact ⟨role, listed, ⟨assignment, held, same.symm⟩, inside⟩
  · rintro ⟨role, listed, ⟨assignment, held, same⟩, inside⟩
    exact ⟨assignment, held, role, listed, same.symm, inside⟩

theorem everIn_mono {before after : List Role} {departments : List Pk}
    {file file' : VolunteerFile} (roles : before ⊆ after) (kept : KeepsRoles file file')
    (seen : everIn before departments file = true) :
    everIn after departments file' = true := by
  obtain ⟨role, listed, held, inside⟩ := everIn_iff.mp seen
  exact everIn_iff.mpr ⟨role, roles listed, kept held, inside⟩

/-- An administrator whose grant is limited to these departments. -/
def ScopedTo (viewer : Core.User) (departments : List Pk) (church : Church) : Prop :=
  church.settings.administration.scopeDepartmentIds (some viewer) = some departments

theorem volunteerInScope_of_scopedTo {viewer : Core.User} {departments : List Pk}
    {church : Church} (limited : ScopedTo viewer departments church) (file : VolunteerFile) :
    volunteerInScope church.settings viewer file = everIn church.roles departments file := by
  unfold volunteerInScope departmentInScope everIn
  rw [show church.settings.administration.scopeDepartmentIds (some viewer) = some departments
    from limited]
  rfl

def KeepsSight (viewer : Core.User) (before after : Church) : Prop :=
  ∀ (volunteer : Nat) (file : VolunteerFile), before.files[volunteer]? = some file →
    volunteerInScope before.settings viewer file = true →
      ∃ file', after.files[volunteer]? = some file' ∧
        volunteerInScope after.settings viewer file' = true

/-- Whoever has ever served in the departments counts as having served in them. -/
def KeepsServed (departments : List Pk) (before after : Church) : Prop :=
  ∀ (volunteer : Nat) (file : VolunteerFile), before.files[volunteer]? = some file →
    everIn before.roles departments file = true →
      ∃ file', after.files[volunteer]? = some file' ∧
        everIn after.roles departments file' = true

theorem keepsSight_iff {viewer : Core.User} {departments : List Pk} {before after : Church}
    (limited : ScopedTo viewer departments before) (limited' : ScopedTo viewer departments after) :
    KeepsSight viewer before after ↔ KeepsServed departments before after := by
  unfold KeepsSight KeepsServed
  simp only [volunteerInScope_of_scopedTo limited, volunteerInScope_of_scopedTo limited']

/-! ## What a request keeps -/

/-- The roles stay in the table as they are, and every file keeps its place and the roles held. -/
structure KeepsRecords (before after : Church) : Prop where
  roles : before.roles ⊆ after.roles
  files : ∀ (volunteer : Nat) (file : VolunteerFile), before.files[volunteer]? = some file →
    ∃ file', after.files[volunteer]? = some file' ∧ KeepsRoles file file'

namespace KeepsRecords

variable {before after : Church}

theorem keepsServed (kept : KeepsRecords before after) (departments : List Pk) :
    KeepsServed departments before after := by
  intro volunteer file found seen
  obtain ⟨file', found', roles⟩ := kept.files volunteer file found
  exact ⟨file', found', everIn_mono kept.roles roles seen⟩

end KeepsRecords

theorem linked_keepsRoles (ambient : Ambient) (subject : Pk) (file : VolunteerFile) :
    KeepsRoles file (linked ambient subject file) := by
  unfold linked
  exact commit_keepsRoles (.of_assignments rfl)

theorem Effect.keepsRoles {request : ChurchRequest} {before after : VolunteerFile}
    (effect : Effect request before after) : KeepsRoles before after := by
  cases effect with
  | kept => exact .refl before
  | performed ambient operation work edits success =>
      exact commit_keepsRoles (perform_keepsRoles success)
  | linked ambient subject => exact linked_keepsRoles ambient subject before
  | resynced settings today => exact .of_assignments rfl

theorem answer_keepsRecords {church after : Church} {visit : Visit} {request : ChurchRequest}
    (success : church.answer visit request = .ok after)
    (notEdit : ∀ role form, request ≠ .organisation (.roleEdit role form)) :
    KeepsRecords church after := by
  have effects := answer_effects success
  refine ⟨effects.roles notEdit, ?_⟩
  intro volunteer file found
  obtain ⟨file', found', effect⟩ := effects.files volunteer file found
  exact ⟨file', found', effect.keepsRoles⟩

/-! ## An edit of a role -/

/-- When a request spares the holders of a role: an edit of it that goes through leaves it in the
departments, or everybody seen through it is seen through another role too. -/
def SparesHolders (departments : List Pk) (church : Church) (call : Visit × ChurchRequest) : Prop :=
  match call.2 with
  | .organisation (.roleEdit role form) =>
      ∀ acting current, church.requires call.1 .manageOrg = .ok acting →
        fetchRole church acting role = .ok current →
        form.errors church acting (some current.department)
          (church.roles.filter (·.pk != role)) = [] →
        (∃ department, form.department = some department ∧ department ∈ departments) ∨
          ∀ file ∈ church.files, everIn church.roles departments file = true →
            everIn (church.roles.filter (·.pk != role)) departments file = true
  | _ => True

theorem RoleForm.department_of_errors {form : RoleForm} {church : Church}
    {acting : Directory.Administrator} {current : Option Pk} {others : List Role}
    (accepted : form.errors church acting current others = []) :
    ∃ department, form.department = some department := by
  unfold Org.RoleForm.errors at accepted
  cases chosen : form.department with
  | none => simp [chosen] at accepted
  | some department => exact ⟨department, rfl⟩

theorem roleEdit_ok {church after : Church} {visit : Visit} {role : Pk} {form : RoleForm}
    (success : Org.roleEdit church visit role form = .ok after) :
    ∃ acting current, church.requires visit .manageOrg = .ok acting ∧
      fetchRole church acting role = .ok current ∧
      form.errors church acting (some current.department)
        (church.roles.filter (·.pk != role)) = [] ∧
      after.roles = church.roles.map (fun row => if row.pk = role then form.applied row else row) ∧
      ∀ volunteer : Nat, ∃ resync : VolunteerFile → VolunteerFile,
        (∀ file, (resync file).assignments = file.assignments) ∧
          after.files[volunteer]? = (church.files[volunteer]?).map resync := by
  obtain ⟨acting, allowed, success⟩ := bind_eq_ok_iff.mp success
  obtain ⟨current, fetched, success⟩ := bind_eq_ok_iff.mp success
  obtain ⟨_, accepted, success⟩ := bind_eq_ok_iff.mp success
  obtain rfl := pure_eq_ok_iff.mp success
  refine ⟨acting, current, allowed, fetched, Errors.raise_eq_ok_iff.mp accepted, rfl, ?_⟩
  intro volunteer
  refine ⟨_, ?_, List.getElem?_map⟩
  intro file
  split <;> rfl

theorem everIn_edited_iff {roles : List Role} {role : Pk} {form : RoleForm} {department : Pk}
    (chosen : form.department = some department) (departments : List Pk)
    (file : VolunteerFile) :
    everIn (roles.map fun row => if row.pk = role then form.applied row else row) departments
        file = true ↔
      (department ∈ departments ∧ role ∈ file.rolesHeld ∧ ∃ row ∈ roles, row.pk = role) ∨
        everIn (roles.filter (·.pk != role)) departments file = true := by
  simp only [everIn_iff, List.mem_map, List.mem_filter, bne_iff_ne]
  constructor
  · rintro ⟨_, ⟨row, listed, rfl⟩, held, inside⟩
    split at held
    · next same =>
        rw [if_pos same] at inside
        have moved : (form.applied row).department = department := by
          simp [RoleForm.applied, chosen]
        exact .inl ⟨moved ▸ inside, same ▸ held, row, listed, same⟩
    · next other =>
        rw [if_neg other] at inside
        exact .inr ⟨row, ⟨listed, other⟩, held, inside⟩
  · rintro (⟨inside, held, row, listed, same⟩ | ⟨row, ⟨listed, other⟩, held, inside⟩)
    · refine ⟨form.applied row, ⟨row, listed, if_pos same⟩, ?_, ?_⟩
      · exact same ▸ held
      · simpa [RoleForm.applied, chosen] using inside
    · exact ⟨row, ⟨row, listed, if_neg other⟩, held, inside⟩

theorem keepsServed_iff (departments : List Pk) (church : Church) (call : Visit × ChurchRequest) :
    KeepsServed departments church (requestStep church call) ↔
      SparesHolders departments church call := by
  obtain ⟨visit, request⟩ := call
  by_cases edit : ∃ role form, request = .organisation (.roleEdit role form)
  · obtain ⟨role, form, rfl⟩ := edit
    cases result : Org.roleEdit church visit role form with
    | error refusal =>
        have unchanged : requestStep church (visit, .organisation (.roleEdit role form)) = church :=
          Machine.attempt_error result
        rw [unchanged]
        refine iff_of_true ?_ ?_
        · intro volunteer file found seen
          exact ⟨file, found, seen⟩
        · intro acting current allowed fetched accepted
          have success : Org.roleEdit church visit role form = .ok _ :=
            bind_eq_ok_iff.mpr ⟨acting, allowed, bind_eq_ok_iff.mpr ⟨current, fetched,
              bind_eq_ok_iff.mpr ⟨(), Errors.raise_eq_ok_iff.mpr accepted, rfl⟩⟩⟩
          cases result.symm.trans success
    | ok after =>
        have stepped : requestStep church (visit, .organisation (.roleEdit role form)) = after :=
          Machine.attempt_ok result
        obtain ⟨acting, current, allowed, fetched, accepted, roles, files⟩ := roleEdit_ok result
        obtain ⟨department, chosen⟩ := RoleForm.department_of_errors accepted
        have seenAfter : ∀ (volunteer : Nat) (file : VolunteerFile),
            church.files[volunteer]? = some file →
              ((∃ file', after.files[volunteer]? = some file' ∧
                everIn after.roles departments file' = true) ↔
              (department ∈ departments ∧ role ∈ file.rolesHeld ∧ ∃ row ∈ church.roles,
                row.pk = role) ∨
                everIn (church.roles.filter (·.pk != role)) departments file = true) := by
          intro volunteer file found
          obtain ⟨resync, same, rewritten⟩ := files volunteer
          rw [← everIn_edited_iff chosen, ← roles, rewritten, found]
          simp only [Option.map_some, Option.some.injEq, exists_eq_left', everIn, same]
        rw [stepped]
        constructor
        · intro keeps acting' current' allowed' fetched' accepted'
          by_cases inside : department ∈ departments
          · exact .inl ⟨department, chosen, inside⟩
          · refine .inr fun file listed seen => ?_
            obtain ⟨volunteer, found⟩ := List.mem_iff_getElem?.mp listed
            rcases (seenAfter volunteer file found).mp (keeps volunteer file found seen) with
              moved | elsewhere
            · exact absurd moved.1 inside
            · exact elsewhere
        · intro spares volunteer file found seen
          rw [seenAfter volunteer file found]
          rcases spares acting current allowed fetched accepted with
            ⟨department', chosen', inside⟩ | elsewhere
          · obtain rfl := Option.some.inj (chosen.symm.trans chosen')
            obtain ⟨row, listed, held, administered⟩ := everIn_iff.mp seen
            by_cases same : row.pk = role
            · exact .inl ⟨inside, same ▸ held, row, listed, same⟩
            · refine .inr (everIn_iff.mpr ⟨row, ?_, held, administered⟩)
              exact List.mem_filter.mpr ⟨listed, bne_iff_ne.mpr same⟩
          · exact .inr (elsewhere file (List.mem_of_getElem? found) seen)
  · have kept : KeepsRecords church (requestStep church (visit, request)) := by
      refine Machine.attempt_induction (motive := KeepsRecords church) ?_ ?_
      · exact ⟨List.Subset.refl _, fun _ file found => ⟨file, found, .refl file⟩⟩
      · intro after success
        exact answer_keepsRecords success fun role form same => edit ⟨role, form, same⟩
    refine iff_of_true (kept.keepsServed departments) ?_
    unfold SparesHolders
    split
    · next role form same => exact absurd ⟨role, form, same⟩ edit
    · trivial

/-! ## Every run -/

theorem KeepsServed.trans {departments : List Pk} {first second third : Church}
    (early : KeepsServed departments first second)
    (late : KeepsServed departments second third) : KeepsServed departments first third := by
  intro volunteer file found seen
  obtain ⟨file', found', seen'⟩ := early volunteer file found seen
  exact late volunteer file' found' seen'

/-- While an administrator's grant stays as it is, they keep seeing everybody they ever saw, through
a whole run, exactly when every edit of a role in the run spares its holders. -/
theorem scope_grows_iff (church : Church) (viewer : Core.User) (departments : List Pk)
    (calls : List (Visit × ChurchRequest))
    (held : Machine.Always requestStep (ScopedTo viewer departments) church calls) :
    Machine.Throughout requestStep (KeepsSight viewer) church calls ↔
      Machine.Guarded requestStep (SparesHolders departments) church calls := by
  have served : Machine.Throughout requestStep (KeepsServed departments) church calls ↔
      Machine.Guarded requestStep (SparesHolders departments) church calls := by
    rw [Machine.throughout_iff_guarded requestStep (KeepsServed departments)
      (fun _ _ file found seen => ⟨file, found, seen⟩) KeepsServed.trans]
    exact Machine.guarded_congr requestStep (fun _ => True) (fun _ _ _ => trivial)
      (fun church call _ => keepsServed_iff departments church call) trivial calls
  rw [← served]
  unfold Machine.Throughout
  refine forall_congr' fun earlier => forall_congr' fun later => forall_congr' fun rest =>
    forall_congr' fun split => ?_
  subst split
  have before := held.run_prefix
  rw [← List.append_assoc] at held
  have after := held.run_prefix
  rw [Machine.run_append] at after
  exact keepsSight_iff before after

namespace Sample

def coordinator : Core.User := ⟨2, "Cora Lane", true⟩

def nurseryChurch : Church :=
  church orientationOnly
    [{ VolunteerFile.opened adult with assignments := [⟨1, january 3, none, true⟩] }]

end Sample

/-- A primary administrator moves the nursery's role to another department: the coordinator of the
nursery's department no longer sees who serves there. -/
theorem moved_role_hides_volunteer :
    let form : RoleForm := ⟨some 2, "Nursery helper", false, true⟩
    let after := requestStep Sample.nurseryChurch
      (Sample.visit 0, .organisation (.roleEdit 1 form))
    after.settings.administration.scopeDepartmentIds (some Sample.coordinator) = some [1] ∧
      (Sample.nurseryChurch.files[0]?).map
          (volunteerInScope Sample.nurseryChurch.settings Sample.coordinator) = some true ∧
      (after.files[0]?).map (volunteerInScope after.settings Sample.coordinator) =
        some false := by
  decide +kernel

/-- A run that ends the volunteer's only assignment, and keeps them in sight. -/
theorem scope_grows_past_service :
    let calls : List (Visit × ChurchRequest) :=
      [(Sample.visit 0, .organisation (.volunteerFile 0 (.assignmentEnd 0 none)))]
    (Machine.run requestStep Sample.nurseryChurch calls).files.map (·.volunteer.isActive) =
        [false] ∧
      Machine.Throughout requestStep (KeepsSight Sample.coordinator) Sample.nurseryChurch
        calls := by
  refine ⟨by decide +kernel, ?_⟩
  refine (scope_grows_iff Sample.nurseryChurch Sample.coordinator [1] _ ?_).mpr
    ⟨trivial, trivial⟩
  exact ⟨rfl, rfl⟩

end VolunteerScreening
