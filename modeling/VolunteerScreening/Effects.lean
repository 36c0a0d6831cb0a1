import VolunteerScreening.Application

/-!
# What one request does to the files

A request leaves every file in its place: as it was, as one operation leaves it,
with its link to an account saved, or with its requirements recalculated.  The
files it adds are the ones it creates.
-/

namespace VolunteerScreening

open Accounts Calendar Fallible Org Requirements Review

theorem FileRequest.view_performs {request : FileRequest} {ambient : Ambient}
    {acting : Directory.Administrator} {file : VolunteerFile} {work : Work}
    (success : request.view ambient acting file = .ok work) :
    ∃ operation, operation.isEdit = false ∧ perform ambient operation file = .ok work := by
  cases request with
  | instanceStart definition =>
      obtain ⟨_, _, success⟩ := bind_eq_ok_iff.mp success
      exact ⟨_, rfl, success⟩
  | instanceComplete definition completedOn notes =>
      obtain ⟨_, _, success⟩ := bind_eq_ok_iff.mp success
      obtain ⟨_, _, success⟩ := bind_eq_ok_iff.mp success
      obtain ⟨_, _, success⟩ := bind_eq_ok_iff.mp success
      exact ⟨_, rfl, success⟩
  | instanceWaive definition reason waivedBy =>
      obtain ⟨_, _, success⟩ := bind_eq_ok_iff.mp success
      obtain ⟨_, _, success⟩ := bind_eq_ok_iff.mp success
      obtain ⟨_, _, success⟩ := bind_eq_ok_iff.mp success
      exact ⟨_, rfl, success⟩
  | instanceReverseWaiver definition reason reversedBy =>
      obtain ⟨_, _, success⟩ := bind_eq_ok_iff.mp success
      obtain ⟨_, _, success⟩ := bind_eq_ok_iff.mp success
      obtain ⟨_, _, success⟩ := bind_eq_ok_iff.mp success
      exact ⟨_, rfl, success⟩
  | crcRecordCreate report =>
      obtain ⟨_, _, success⟩ := bind_eq_ok_iff.mp success
      obtain ⟨_, _, success⟩ := bind_eq_ok_iff.mp success
      obtain ⟨_, _, success⟩ := bind_eq_ok_iff.mp success
      exact ⟨_, rfl, success⟩
  | crcConvictionAdd check form =>
      obtain ⟨_, _, success⟩ := bind_eq_ok_iff.mp success
      obtain ⟨_, _, success⟩ := bind_eq_ok_iff.mp success
      obtain ⟨_, _, success⟩ := bind_eq_ok_iff.mp success
      exact ⟨_, rfl, success⟩
  | crcOverride check entry =>
      obtain ⟨_, _, success⟩ := bind_eq_ok_iff.mp success
      obtain ⟨_, _, success⟩ := bind_eq_ok_iff.mp success
      obtain ⟨_, _, success⟩ := bind_eq_ok_iff.mp success
      obtain ⟨_, _, success⟩ := bind_eq_ok_iff.mp success
      exact ⟨_, rfl, success⟩
  | crcResolveNotClear check outcome notes =>
      obtain ⟨_, _, success⟩ := bind_eq_ok_iff.mp success
      obtain ⟨_, _, success⟩ := bind_eq_ok_iff.mp success
      obtain ⟨_, _, success⟩ := bind_eq_ok_iff.mp success
      exact ⟨_, rfl, success⟩
  | documentCreate entry =>
      obtain ⟨_, _, success⟩ := bind_eq_ok_iff.mp success
      refine ⟨.storeDocument (DocumentEntry.cleaned entry ambient.settings
        acting.user.displayName), rfl, ?_⟩
      dsimp only at success
      split at success <;> obtain ⟨_, _, success⟩ := bind_eq_ok_iff.mp success
      all_goals
        split at success <;> obtain ⟨_, _, success⟩ := bind_eq_ok_iff.mp success
      all_goals
        obtain ⟨_, _, success⟩ := bind_eq_ok_iff.mp success
        split at success <;> obtain ⟨_, _, success⟩ := bind_eq_ok_iff.mp success
      all_goals exact success
  | itemAffirm item => exact ⟨.affirm acting.account item, rfl, success⟩
  | itemSendBack item reason =>
      obtain ⟨_, _, success⟩ := bind_eq_ok_iff.mp success
      obtain ⟨_, _, success⟩ := bind_eq_ok_iff.mp success
      obtain ⟨_, _, success⟩ := bind_eq_ok_iff.mp success
      exact ⟨_, rfl, success⟩

theorem VolunteerRequest.view_performs {request : VolunteerRequest} {ambient : Ambient}
    {acting : Directory.Administrator} {file : VolunteerFile} {work : Work}
    (success : request.view ambient acting file = .ok work) :
    ∃ operation, (operation.isEdit = true → ∃ form, request = .volunteerEdit form) ∧
      perform ambient operation file = .ok work := by
  cases request with
  | volunteerEdit form =>
      exact ⟨.volunteerEdit acting.account form.cleaned, fun _ => ⟨form, rfl⟩, success⟩
  | volunteerDeactivate stoppedServingOn endAssignments =>
      exact ⟨.volunteerDeactivate acting.account stoppedServingOn endAssignments,
        (fun edits => nomatch edits), success⟩
  | volunteerReactivate =>
      exact ⟨.volunteerReactivate acting.account, (fun edits => nomatch edits), success⟩
  | volunteerResync =>
      exact ⟨.volunteerResync acting.account, (fun edits => nomatch edits), success⟩
  | assignmentCreate role startedOn =>
      exact ⟨.assignmentCreate acting.account role startedOn, (fun edits => nomatch edits), success⟩
  | assignmentEnd assignment endedOn =>
      exact ⟨.assignmentEnd acting.account assignment endedOn, (fun edits => nomatch edits),
        success⟩

/-- What a request may make of a file. -/
inductive Effect (request : ChurchRequest) (file : VolunteerFile) : VolunteerFile → Prop where
  | kept : Effect request file file
  | performed (ambient : Ambient) (operation : Operation) (work : Work)
      (edits : operation.isEdit = true →
        ∃ volunteer form, request = .organisation (.volunteerFile volunteer (.volunteerEdit form)))
      (success : perform ambient operation file = .ok work) :
      Effect request file (work.commit ambient)
  | linked (ambient : Ambient) (subject : Pk) : Effect request file (linked ambient subject file)
  | resynced (settings : Settings) (today : Date) :
      Effect request file (synced settings today file)

/-- What a request may create: the file of somebody taken in by the form, or an account's own. -/
inductive Created : VolunteerFile → Prop where
  | intake (form : VolunteerForm) (assignment : RoleAssignment) (ambient : Ambient) (work : Work)
      (started : work.file = synced ambient.settings ambient.today
        { VolunteerFile.opened (form.cleaned.applied Volunteer.blank).deriveBirth with
          assignments := [assignment] }) :
      Created (work.commit ambient)
  | account (firstName lastName : String) (subject : Pk) :
      Created (VolunteerFile.opened (newVolunteer firstName lastName subject))

structure Effects (request : ChurchRequest) (before after : Church) : Prop where
  files : ∀ (volunteer : Nat) (file : VolunteerFile), before.files[volunteer]? = some file →
    ∃ file', after.files[volunteer]? = some file' ∧ Effect request file file'
  created : ∀ (volunteer : Nat) (file : VolunteerFile), after.files[volunteer]? = some file →
    before.files[volunteer]? = none → Created file
  roles : (∀ role form, request ≠ .organisation (.roleEdit role form)) →
    before.roles ⊆ after.roles

namespace Effects

variable {request : ChurchRequest} {before after : Church}

theorem of_files (roles : before.roles ⊆ after.roles) (files : after.files = before.files) :
    Effects request before after := by
  refine ⟨?_, ?_, fun _ => roles⟩
  · intro volunteer file found
    exact ⟨file, files ▸ found, .kept⟩
  · intro volunteer file found missing
    rw [files, missing] at found
    cases found

theorem of_append {added : VolunteerFile} (created : Created added)
    (roles : after.roles = before.roles) (files : after.files = before.files ++ [added]) :
    Effects request before after := by
  refine ⟨?_, ?_, fun _ => roles ▸ List.Subset.refl _⟩
  · intro volunteer file found
    obtain ⟨placed, _⟩ := List.getElem?_eq_some_iff.mp found
    exact ⟨file, by rw [files, List.getElem?_append_left placed, found], .kept⟩
  · intro volunteer file found missing
    have beyond := List.getElem?_eq_none_iff.mp missing
    rw [files, List.getElem?_append_right beyond] at found
    have new : file ∈ [added] := List.mem_of_getElem? found
    rw [List.mem_singleton.mp new]
    exact created

theorem of_set {target : Nat} {current rewritten : VolunteerFile}
    (placed : before.files[target]? = some current) (effect : Effect request current rewritten)
    (roles : after.roles = before.roles) (files : after.files = before.files.set target rewritten) :
    Effects request before after := by
  refine ⟨?_, ?_, fun _ => roles ▸ List.Subset.refl _⟩
  · intro volunteer file found
    obtain ⟨within, _⟩ := List.getElem?_eq_some_iff.mp found
    rw [files]
    by_cases same : volunteer = target
    · subst same
      obtain rfl := Option.some.inj (placed.symm.trans found)
      exact ⟨rewritten, List.getElem?_set_self within, effect⟩
    · exact ⟨file, by rw [List.getElem?_set_ne (Ne.symm same), found], .kept⟩
  · intro volunteer file found missing
    obtain ⟨within, _⟩ := List.getElem?_eq_some_iff.mp found
    rw [files, List.length_set] at within
    rw [List.getElem?_eq_getElem within] at missing
    cases missing

theorem of_map {change : VolunteerFile → VolunteerFile}
    (effect : ∀ file ∈ before.files, Effect request file (change file))
    (edits : ∃ role form, request = .organisation (.roleEdit role form))
    (files : after.files = before.files.map change) : Effects request before after := by
  obtain ⟨role, form, rfl⟩ := edits
  refine ⟨?_, ?_, fun other => absurd rfl (other role form)⟩
  · intro volunteer file found
    refine ⟨change file, ?_, effect file (List.mem_of_getElem? found)⟩
    rw [files, List.getElem?_map, found, Option.map_some]
  · intro volunteer file found missing
    rw [files, List.getElem?_map, missing] at found
    cases found

end Effects

theorem account_effects {church after : Church} {visit : Visit} {request : AccountRequest}
    (success : Accounts.answer church visit request = .ok after) :
    Effects (.account request) church after := by
  cases request with
  | adminAccess subject form =>
      obtain ⟨_, _, _, _, _, _, _, _, _, _, _, rfl⟩ := adminAccess_ok success
      exact .of_files (List.Subset.refl _) rfl
  | adminToggleActive subject =>
      obtain ⟨_, _, _, _, _, _, rfl⟩ := adminToggleActive_ok success
      exact .of_files (List.Subset.refl _) rfl
  | accessLevelCreate form =>
      obtain rfl := accessLevelCreate_ok success
      exact .of_files (List.Subset.refl _) rfl
  | accessLevelEdit target form =>
      obtain ⟨_, _, _, _, _, rfl⟩ := accessLevelEdit_eq_ok_iff.mp success
      exact .of_files (List.Subset.refl _) rfl
  | adminInvite form volunteer =>
      obtain ⟨_, _, _, _, sought, _, _, filed⟩ := adminInvite_ok success
      rcases fileForNewAdmin_ok filed with rfl | ⟨_, ⟨position, file, rfl, rfl⟩ | rfl⟩
      · exact .of_files (List.Subset.refl _) rfl
      · obtain ⟨placed, _⟩ := volunteerFromRequest_some sought
        exact .of_set placed (.linked _ _) rfl rfl
      · exact .of_append (.account _ _ _) rfl rfl
  | adminLinkVolunteer subject volunteer =>
      obtain ⟨_, _, _, _, _, placed, _, _, _, rfl⟩ := adminLinkVolunteer_eq_ok_iff.mp success
      exact .of_set placed (.linked _ _) rfl rfl
  | adminCreateVolunteer subject =>
      obtain ⟨_, _, _, _, _, rfl⟩ := adminCreateVolunteer_eq_ok_iff.mp success
      exact .of_append (.account _ _ _) rfl rfl

/-- What every request does that goes through. -/
theorem answer_effects {church after : Church} {visit : Visit} {request : ChurchRequest}
    (success : church.answer visit request = .ok after) : Effects request church after := by
  cases request with
  | profile form =>
      obtain ⟨_, _, success⟩ := bind_eq_ok_iff.mp success
      obtain ⟨_, _, success⟩ := bind_eq_ok_iff.mp success
      obtain ⟨_, _, success⟩ := bind_eq_ok_iff.mp success
      obtain rfl := pure_eq_ok_iff.mp success
      exact .of_files (List.Subset.refl _) rfl
  | account request => exact account_effects success
  | definitions catalogue =>
      obtain ⟨_, _, success⟩ := bind_eq_ok_iff.mp success
      obtain rfl := pure_eq_ok_iff.mp success
      exact .of_files (List.Subset.refl _) rfl
  | screening volunteer request =>
      obtain ⟨_, _, _, _, placed, viewed, rfl⟩ := church.onFile_eq_ok_iff.mp success
      obtain ⟨operation, notEdit, performed⟩ := FileRequest.view_performs viewed
      refine .of_set placed (.performed _ operation _ ?_ performed) rfl rfl
      intro edits
      rw [notEdit] at edits
      cases edits
  | organisation request =>
      cases request with
      | departmentCreate form =>
          obtain ⟨_, _, success⟩ := bind_eq_ok_iff.mp success
          obtain ⟨_, _, success⟩ := bind_eq_ok_iff.mp success
          obtain rfl := pure_eq_ok_iff.mp success
          exact .of_files (List.Subset.refl _) rfl
      | departmentEdit department form =>
          obtain ⟨_, _, success⟩ := bind_eq_ok_iff.mp success
          obtain ⟨_, _, success⟩ := bind_eq_ok_iff.mp success
          obtain ⟨_, _, success⟩ := bind_eq_ok_iff.mp success
          obtain rfl := pure_eq_ok_iff.mp success
          exact .of_files (List.Subset.refl _) rfl
      | roleCreate form =>
          obtain ⟨_, _, success⟩ := bind_eq_ok_iff.mp success
          obtain ⟨_, _, success⟩ := bind_eq_ok_iff.mp success
          obtain rfl := pure_eq_ok_iff.mp success
          exact .of_files (List.subset_append_left _ _) rfl
      | roleEdit role form =>
          obtain ⟨_, _, success⟩ := bind_eq_ok_iff.mp success
          obtain ⟨_, _, success⟩ := bind_eq_ok_iff.mp success
          obtain ⟨_, _, success⟩ := bind_eq_ok_iff.mp success
          obtain rfl := pure_eq_ok_iff.mp success
          refine .of_map (fun file _ => ?_) ⟨role, form, rfl⟩ rfl
          split
          · exact .resynced _ _
          · exact .kept
      | volunteerCreate form startingRole =>
          obtain ⟨_, _, success⟩ := bind_eq_ok_iff.mp success
          obtain ⟨_, _, success⟩ := bind_eq_ok_iff.mp success
          obtain ⟨_, _, success⟩ := bind_eq_ok_iff.mp success
          obtain ⟨_, _, success⟩ := bind_eq_ok_iff.mp success
          obtain rfl := pure_eq_ok_iff.mp success
          exact .of_append (.intake form _ _ _ rfl) rfl rfl
      | volunteerFile volunteer request =>
          obtain ⟨_, _, _, _, placed, viewed, rfl⟩ := church.onFile_eq_ok_iff.mp success
          obtain ⟨operation, edit, performed⟩ := VolunteerRequest.view_performs viewed
          refine .of_set placed (.performed _ operation _ ?_ performed) rfl rfl
          intro edits
          obtain ⟨form, rfl⟩ := edit edits
          exact ⟨volunteer, form, rfl⟩

end VolunteerScreening
