import VolunteerScreening.Application

/-!
# A scoped administrator changes only files in scope

Every view takes the file it changes from those in scope, a role's holders are
in scope by holding it, and only the link of an existing file to an account is
looked up among all the files of the church.
-/

namespace VolunteerScreening

open Accounts Fallible Org Requirements Review

/-- Every file that was there and is no longer as it was is of this kind. -/
def ChangesOnly (kind : VolunteerFile → Bool) (church after : Church) : Prop :=
  ∀ (position : Nat) (file : VolunteerFile), church.files[position]? = some file →
    after.files[position]? ≠ some file → kind file = true

section Changes

variable {kind : VolunteerFile → Bool} {church after : Church}

theorem changesOnly_of_files (same : after.files = church.files) :
    ChangesOnly kind church after := by
  intro position file found changed
  rw [same] at changed
  exact absurd found changed

theorem changesOnly_append {created : VolunteerFile}
    (files : after.files = church.files ++ [created]) : ChangesOnly kind church after := by
  intro position file found changed
  obtain ⟨placed, _⟩ := List.getElem?_eq_some_iff.mp found
  rw [files, List.getElem?_append_left placed] at changed
  exact absurd found changed

theorem changesOnly_set {target : Nat} {before rewritten : VolunteerFile}
    (placed : church.files[target]? = some before)
    (files : after.files = church.files.set target rewritten) (suits : kind before = true) :
    ChangesOnly kind church after := by
  intro position file found changed
  by_cases same : position = target
  · subst same
    obtain rfl := Option.some.inj (placed.symm.trans found)
    exact suits
  · rw [files, List.getElem?_set_ne (Ne.symm same)] at changed
    exact absurd found changed

theorem changesOnly_map {change : VolunteerFile → VolunteerFile}
    (files : after.files = church.files.map change)
    (suits : ∀ file, change file ≠ file → kind file = true) : ChangesOnly kind church after := by
  intro position file found changed
  apply suits file
  intro same
  apply changed
  rw [files, List.getElem?_map, found, Option.map_some, same]

end Changes

def sees (church : Church) (acting : Directory.Administrator) (file : VolunteerFile) : Bool :=
  volunteerInScope church.settings acting.account file

/-- A request of a scoped administrator changes only files they saw before it. -/
def StaysInScope (church : Church) (call : Visit × ChurchRequest) : Prop :=
  ∀ acting, church.directory.administrator call.1.user = some acting →
    acting.level.isScoped = true →
    ChangesOnly (sees church acting) church (requestStep church call)

/-- A file that a scoped administrator links to an account is one they see. -/
def LinksInScope (church : Church) (call : Visit × ChurchRequest) : Prop :=
  match call.2 with
  | .account (.adminLinkVolunteer subject volunteer) =>
      ∀ acting user file, church.requires call.1 .manageUsers = .ok acting →
        acting.level.isScoped = true → church.directory.users[subject]? = some user →
        church.files[volunteer]? = some file → file.volunteer.userId = none →
        isLinked church subject = false →
        ¬(subject = acting.pk ∧
          church.directory.administration.anotherUnscopedAdminExists acting.pk = true) →
        sees church acting file = true
  | _ => True

/-! ## One file -/

theorem volunteerInScope_of_assignment {settings : Settings} {user : Core.User}
    {file : VolunteerFile} {assignment : RoleAssignment} (listed : assignment ∈ file.assignments)
    (administered : (settings.roles.any fun role =>
      role.pk == assignment.role && departmentInScope settings user role.department) = true) :
    volunteerInScope settings user file = true := by
  unfold volunteerInScope
  rw [Bool.or_eq_true]
  exact .inr (List.any_eq_true.mpr ⟨assignment, listed, administered⟩)

theorem volunteerRequest_inScope {request : VolunteerRequest} {ambient : Ambient}
    {acting : Directory.Administrator} {file : VolunteerFile} {work : Work}
    (success : request.view ambient acting file = .ok work) :
    volunteerInScope ambient.settings acting.account file = true := by
  have ofWritable (writable : writableVolunteer ambient acting.account file = .ok ()) :
      volunteerInScope ambient.settings acting.account file = true :=
    (writableVolunteer_eq_ok_iff.mp writable).1
  cases request with
  | volunteerEdit form => exact ofWritable (volunteerEdit_ok success).1
  | volunteerDeactivate stoppedServingOn endAssignments =>
      exact ofWritable (volunteerDeactivate_ok success).1
  | volunteerReactivate => exact ofWritable (volunteerReactivate_ok success).1
  | volunteerResync => exact ofWritable (volunteerResync_ok success).1
  | assignmentCreate role startedOn => exact ofWritable (assignmentCreate_ok success).1
  | assignmentEnd position endedOn =>
      -- looked up by the assignment's own department, not by the volunteer's
      obtain ⟨assignment, fetched, _⟩ := assignmentEnd_ok success
      obtain ⟨placed, _, administered⟩ := fetchAssignment_eq_ok_iff.mp fetched
      exact volunteerInScope_of_assignment (List.mem_of_getElem? placed) administered

/-- What a scoped administrator records, they record on a file in scope; they decide no entry. -/
theorem fileRequest_inScope {church : Church} {visit : Visit} {acting : Directory.Administrator}
    (signedIn : church.directory.administrator visit.user = some acting)
    (narrow : acting.level.isScoped = true) {request : FileRequest} {file : VolunteerFile}
    {work : Work} (success : request.view (church.ambient visit acting) acting file = .ok work) :
    sees church acting file = true := by
  have notReviewer (item : ReviewItem)
      (allowed : requireReviewer (church.ambient visit acting) acting.account item = .ok ()) :
      False := by
    have wide := (requireReviewer_ok allowed).1
    have unscoped : (church.ambient visit acting).settings.administration.isUnscoped
        acting.account = !acting.level.isScoped := Directory.isUnscoped_account signedIn
    rw [unscoped, narrow] at wide
    cases wide
  by_cases decision : request.isDecision = true
  · cases request with
    | itemAffirm position =>
        obtain ⟨_, affirmed, _⟩ := map_eq_ok_iff.mp success
        obtain ⟨item, _, allowed, _⟩ := affirm_eq_ok_iff.mp affirmed
        exact (notReviewer item allowed).elim
    | itemSendBack position reason =>
        obtain ⟨_, _, success⟩ := bind_eq_ok_iff.mp success
        obtain ⟨_, _, success⟩ := bind_eq_ok_iff.mp success
        obtain ⟨_, _, success⟩ := bind_eq_ok_iff.mp success
        obtain ⟨_, sentBack, _⟩ := map_eq_ok_iff.mp success
        obtain ⟨item, _, _, allowed, _⟩ := sendBack_eq_ok_iff.mp sentBack
        exact (notReviewer item allowed).elim
    | _ => cases decision
  · have writable := request.view_writable success (by simpa using decision)
    exact (writableVolunteer_eq_ok_iff.mp writable).1

theorem onFile_changesOnly {church after : Church} {visit : Visit} {capability : Capability}
    {volunteer : Nat} {view : FileView} {acting : Directory.Administrator}
    (signedIn : church.directory.administrator visit.user = some acting)
    (inScope : ∀ file work, view (church.ambient visit acting) acting file = .ok work →
      sees church acting file = true)
    (success : church.onFile visit capability volunteer view = .ok after) :
    ChangesOnly (sees church acting) church after := by
  obtain ⟨_, file, work, allowed, placed, viewed, rfl⟩ := church.onFile_eq_ok_iff.mp success
  obtain ⟨signedIn', _⟩ := church.requires_eq_ok_iff.mp allowed
  obtain rfl := Option.some.inj (signedIn.symm.trans signedIn')
  exact changesOnly_set placed rfl (inScope file work viewed)

/-! ## The organisation -/

theorem roleEdit_changesOnly {church after : Church} {visit : Visit} {role : Pk} {form : RoleForm}
    {acting : Directory.Administrator}
    (signedIn : church.directory.administrator visit.user = some acting)
    (success : Org.roleEdit church visit role form = .ok after) :
    ChangesOnly (sees church acting) church after := by
  obtain ⟨acting', allowed, success⟩ := bind_eq_ok_iff.mp success
  obtain ⟨current, fetched, success⟩ := bind_eq_ok_iff.mp success
  obtain ⟨_, _, success⟩ := bind_eq_ok_iff.mp success
  obtain rfl := pure_eq_ok_iff.mp success
  obtain ⟨signedIn', _⟩ := church.requires_eq_ok_iff.mp allowed
  obtain rfl := Option.some.inj (signedIn.symm.trans signedIn')
  refine changesOnly_map rfl ?_
  intro file changed
  have holds : holdsRole role file = true := by
    by_contra idle
    rw [if_neg idle] at changed
    exact changed rfl
  unfold holdsRole at holds
  rw [Bool.and_eq_true, List.any_eq_true] at holds
  obtain ⟨_, assignment, listed, held⟩ := holds
  rw [Bool.and_eq_true, beq_iff_eq] at held
  unfold fetchRole at fetched
  split at fetched
  · next found =>
      have sameKey := List.find?_some found
      split at fetched
      · next administered =>
          refine volunteerInScope_of_assignment listed (List.any_eq_true.mpr ⟨_,
            List.mem_of_find?_eq_some found, ?_⟩)
          rw [Bool.and_eq_true, church.departmentInScope_account signedIn, held.2]
          exact ⟨sameKey, administered⟩
      · cases fetched
  · cases fetched

theorem orgRequest_changesOnly {church after : Church} {visit : Visit} {request : OrgRequest}
    {acting : Directory.Administrator}
    (signedIn : church.directory.administrator visit.user = some acting)
    (success : request.answer church visit = .ok after) :
    ChangesOnly (sees church acting) church after := by
  cases request with
  | departmentCreate form =>
      obtain ⟨_, _, success⟩ := bind_eq_ok_iff.mp success
      obtain ⟨_, _, success⟩ := bind_eq_ok_iff.mp success
      obtain rfl := pure_eq_ok_iff.mp success
      exact changesOnly_of_files rfl
  | departmentEdit department form =>
      obtain ⟨_, _, success⟩ := bind_eq_ok_iff.mp success
      obtain ⟨_, _, success⟩ := bind_eq_ok_iff.mp success
      obtain ⟨_, _, success⟩ := bind_eq_ok_iff.mp success
      obtain rfl := pure_eq_ok_iff.mp success
      exact changesOnly_of_files rfl
  | roleCreate form =>
      obtain ⟨_, _, success⟩ := bind_eq_ok_iff.mp success
      obtain ⟨_, _, success⟩ := bind_eq_ok_iff.mp success
      obtain rfl := pure_eq_ok_iff.mp success
      exact changesOnly_of_files rfl
  | roleEdit role form => exact roleEdit_changesOnly signedIn success
  | volunteerCreate form startingRole =>
      obtain ⟨_, _, success⟩ := bind_eq_ok_iff.mp success
      obtain ⟨_, _, success⟩ := bind_eq_ok_iff.mp success
      obtain ⟨_, _, success⟩ := bind_eq_ok_iff.mp success
      obtain ⟨_, _, success⟩ := bind_eq_ok_iff.mp success
      obtain rfl := pure_eq_ok_iff.mp success
      exact changesOnly_append rfl
  | volunteerFile volunteer request =>
      refine onFile_changesOnly signedIn ?_ success
      intro file work viewed
      exact volunteerRequest_inScope viewed

/-! ## The accounts -/

/-- Only the link of an existing file can reach out of scope. -/
theorem accountRequest_changesOnly {church after : Church} {visit : Visit}
    {request : AccountRequest} {acting : Directory.Administrator}
    (signedIn : church.directory.administrator visit.user = some acting)
    (narrow : acting.level.isScoped = true) (success : answer church visit request = .ok after)
    (inScope : LinksInScope church (visit, .account request)) :
    ChangesOnly (sees church acting) church after := by
  cases request with
  | adminInvite form volunteer =>
      obtain ⟨_, existing, directory, allowed, sought, _, _, filed⟩ := adminInvite_ok success
      obtain ⟨signedIn', _⟩ := church.requires_eq_ok_iff.mp allowed
      obtain rfl := Option.some.inj (signedIn.symm.trans signedIn')
      rcases fileForNewAdmin_ok filed with rfl | ⟨_, ⟨position, file, rfl, rfl⟩ | rfl⟩
      · exact changesOnly_of_files rfl
      · obtain ⟨placed, _, seen, _⟩ := volunteerFromRequest_some sought
        exact changesOnly_set placed rfl seen
      · exact changesOnly_append rfl
  | adminLinkVolunteer subject volunteer =>
      obtain ⟨_, user, file, allowed, found, placed, unlinked, another, free, rfl⟩ :=
        adminLinkVolunteer_eq_ok_iff.mp success
      obtain ⟨signedIn', _⟩ := church.requires_eq_ok_iff.mp allowed
      obtain rfl := Option.some.inj (signedIn.symm.trans signedIn')
      exact changesOnly_set placed rfl
        (inScope acting user file allowed narrow found placed unlinked free another)
  | adminCreateVolunteer subject =>
      obtain ⟨_, _, _, _, _, rfl⟩ := adminCreateVolunteer_eq_ok_iff.mp success
      exact changesOnly_append rfl
  | _ => exact changesOnly_of_files (answer_files success rfl)

/-! ## Every request -/

/-- A request of a scoped administrator changes only files in scope exactly when the file it links,
if it links one, is in scope. -/
theorem scoped_changes_iff (church : Church) (call : Visit × ChurchRequest) :
    StaysInScope church call ↔ LinksInScope church call := by
  obtain ⟨visit, request⟩ := call
  constructor
  · intro stays
    cases request with
    | account request =>
        cases request with
        | adminLinkVolunteer subject volunteer =>
            intro acting user file allowed narrow found placed unlinked free another
            obtain ⟨signedIn, _⟩ := church.requires_eq_ok_iff.mp allowed
            have success := adminLinkVolunteer_eq_ok_iff.mpr
              ⟨acting, user, file, allowed, found, placed, unlinked, another, free, rfl⟩
            apply stays acting signedIn narrow volunteer file placed
            have stepped :
                requestStep church (visit, .account (.adminLinkVolunteer subject volunteer)) = _ :=
              Machine.attempt_ok success
            obtain ⟨inTable, _⟩ := List.getElem?_eq_some_iff.mp placed
            rw [stepped, List.getElem?_set_self inTable]
            intro same
            -- the link itself is a change: the file had none
            have linkedTo := congrArg (·.volunteer.userId) (Option.some.inj same)
            simp [unlinked] at linkedTo
        | _ => trivial
    | _ => trivial
  · intro inScope acting signedIn narrow
    cases result : church.answer visit request with
    | error refusal =>
        have unchanged : requestStep church (visit, request) = church :=
          Machine.attempt_error result
        exact changesOnly_of_files (congrArg Church.files unchanged)
    | ok after =>
        have stepped : requestStep church (visit, request) = after := Machine.attempt_ok result
        rw [stepped]
        cases request with
        | profile form => exact changesOnly_of_files (profile_files result)
        | account request =>
            exact accountRequest_changesOnly signedIn narrow result inScope
        | organisation request => exact orgRequest_changesOnly signedIn result
        | definitions catalogue =>
            obtain ⟨_, _, saved⟩ := bind_eq_ok_iff.mp result
            obtain rfl := pure_eq_ok_iff.mp saved
            exact changesOnly_of_files rfl
        | screening volunteer request =>
            refine onFile_changesOnly signedIn ?_ result
            intro file work viewed
            exact fileRequest_inScope signedIn narrow viewed

namespace Sample

def unassignedChurch : Church := church orientationOnly [VolunteerFile.opened adult]

end Sample

/-- A coordinator of one department links the file of somebody who serves nowhere. -/
theorem scoped_link_out_of_scope :
    ((requestStep Sample.unassignedChurch
        (Sample.visit 2, .account (.adminLinkVolunteer 3 0))).files[0]?).map
          (·.volunteer.userId) = some (some 3) ∧
      ¬StaysInScope Sample.unassignedChurch
        (Sample.visit 2, .account (.adminLinkVolunteer 3 0)) := by
  refine ⟨rfl, ?_⟩
  intro stays
  have seen := stays _ rfl rfl 0 _ rfl (by intro same; cases same)
  cases seen

end VolunteerScreening
