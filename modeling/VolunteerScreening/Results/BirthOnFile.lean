import VolunteerScreening.Effects
import VolunteerScreening.Results.BirthDate

/-!
# The birth columns and the date on file

The year and month are derived when a volunteer is saved and checked before, so
an edit is checked with the new date beside the stored pair.  Only a date that
agrees with that pair goes through, and a date that is taken away leaves it
behind.
-/

namespace VolunteerScreening

open Accounts Calendar Documents Fallible Org Requirements Review

namespace Org

theorem Errors.ite_set_eq_nil_iff {condition : Prop} [Decidable condition] {errors : Errors}
    {field message : String} :
    (if condition then errors.set field message else errors) = [] ↔ ¬condition ∧ errors = [] := by
  split <;> simp_all [Errors.set]

theorem Errors.ite_setDefault_eq_nil_iff {condition : Prop} [Decidable condition]
    {errors : Errors} {field message : String} :
    (if condition then errors.setDefault field message else errors) = [] ↔
      ¬condition ∧ errors = [] := by
  unfold Errors.setDefault
  split
  · next holds =>
      split
      · next taken =>
          refine iff_of_false ?_ fun none => none.1 holds
          rintro rfl
          simp at taken
      · simp [holds]
  · next fails => simp [fails]

namespace Volunteer

variable {volunteer : Volunteer}

/-- The stored pair agrees with a date: each column is empty or the date's, and a year 0 passes. -/
structure PairAgrees (volunteer : Volunteer) (born : Date) : Prop where
  year : ∀ year, volunteer.birthYear = some year → year = 0 ∨ year = born.year
  month : ∀ month, volunteer.birthMonth = some month → month = born.month

theorem clean_eq_ok_iff {today : Date} :
    volunteer.clean today = .ok () ↔
      (∀ born, volunteer.dateOfBirth = some born → volunteer.PairAgrees born) ∧
        volunteer.birthMonth.isSome = volunteer.birthYear.isSome ∧
        (volunteer.birthYear.getD 0 = 0 ∨ volunteer.birthYear.getD 0 ≤ today.year) ∧
        (volunteer.isActive = true ∨ volunteer.stoppedServingOn.isSome = true) := by
  have standing : ¬(!volunteer.isActive && volunteer.stoppedServingOn.isNone) = true ↔
      volunteer.isActive = true ∨ volunteer.stoppedServingOn.isSome = true := by
    cases volunteer.isActive <;> cases volunteer.stoppedServingOn <;> simp
  unfold clean
  rw [Errors.raise_eq_ok_iff]
  simp only [Errors.ite_set_eq_nil_iff, Errors.ite_setDefault_eq_nil_iff, standing, not_and,
    not_not, not_lt, ne_eq]
  have pair : ∀ born, volunteer.PairAgrees born ↔
      (∀ year, volunteer.birthYear = some year → year = 0 ∨ year = born.year) ∧
        ∀ month, volunteer.birthMonth = some month → month = born.month :=
    fun born => ⟨fun agrees => ⟨agrees.year, agrees.month⟩, fun both => ⟨both.1, both.2⟩⟩
  cases born : volunteer.dateOfBirth with
  | none =>
      simp only [reduceCtorEq, false_implies, implies_true, true_and, and_true]
      grind
  | some date =>
      simp only [Option.some.injEq, forall_eq', pair]
      cases volunteer.birthYear <;> cases volunteer.birthMonth <;>
        simp only [Errors.ite_set_eq_nil_iff] <;> grind

/-- The birth year and month are those of the date on file, and absent without one. -/
structure OnFile (volunteer : Volunteer) : Prop where
  year : volunteer.birthYear = volunteer.dateOfBirth.map (·.year)
  month : volunteer.birthMonth = volunteer.dateOfBirth.map (·.month)

theorem onFile_congr {first second : Volunteer} (same : first.birth = second.birth)
    (onFile : second.OnFile) : first.OnFile := by
  simp only [birth, Prod.mk.injEq] at same
  obtain ⟨date, year, month⟩ := same
  exact ⟨by rw [year, date, onFile.year], by rw [month, date, onFile.month]⟩

theorem OnFile.deriveBirth (onFile : volunteer.OnFile) : volunteer.deriveBirth.OnFile := by
  unfold Volunteer.deriveBirth
  cases born : volunteer.dateOfBirth with
  | none => exact onFile
  | some date => exact ⟨rfl, rfl⟩

theorem Resaved.onFile {before after : Volunteer} (resaved : Resaved before after)
    (onFile : before.OnFile) : after.OnFile := by
  rcases resaved with kept | derived
  · exact onFile_congr kept onFile
  · exact onFile_congr derived onFile.deriveBirth

end Volunteer

/-! ## One edit -/

/-- The edit is accepted, and afterwards the birth columns are those of the date it posts. -/
def EditTakes (ambient : Ambient) (user : Core.User) (form : VolunteerForm)
    (file : VolunteerFile) : Prop :=
  ∃ work, volunteerEdit ambient user form file = .ok work ∧
    (work.commit ambient).volunteer.dateOfBirth = form.dateOfBirth ∧
    (work.commit ambient).volunteer.OnFile

/-- The stored pair is empty, or the posted date's already; and whoever left service has a last
day. -/
structure GivesWay (form : VolunteerForm) (volunteer : Volunteer) : Prop where
  pair : volunteer.birthYear = none ∧ volunteer.birthMonth = none ∨
    ∃ born, form.dateOfBirth = some born ∧ volunteer.birthMonth = some born.month ∧
      (volunteer.birthYear = some born.year ∨ volunteer.birthYear = some 0)
  lastDay : volunteer.isActive = true ∨ volunteer.stoppedServingOn.isSome = true

section Edit

variable {ambient : Ambient} {user : Core.User} {form : VolunteerForm} {file : VolunteerFile}

theorem birthday_not_later (valid : form.errors ambient.today = []) {born : Date}
    (posted : form.dateOfBirth = some born) : born.year ≤ ambient.today.year := by
  have notFuture : born ≤ ambient.today := by
    unfold VolunteerForm.errors at valid
    rw [posted] at valid
    by_contra later
    simp [not_le.mp later] at valid
  exact Date.year_le_of_le notFuture

theorem edited_volunteer (form : VolunteerForm) (file : VolunteerFile) (ambient : Ambient) :
    (((Work.start file).saveVolunteer (form.applied file.volunteer)).commit ambient).volunteer =
      (form.applied file.volunteer).deriveBirth := commit_volunteer ambient _

theorem edited_onFile_iff (form : VolunteerForm) (volunteer : Volunteer) :
    (form.applied volunteer).deriveBirth.OnFile ↔
      form.dateOfBirth.isSome = true ∨
        volunteer.birthYear = none ∧ volunteer.birthMonth = none := by
  unfold Volunteer.deriveBirth VolunteerForm.applied
  cases form.dateOfBirth with
  | none =>
      refine ⟨fun onFile => .inr ⟨onFile.year, onFile.month⟩, ?_⟩
      rintro (posted | ⟨year, month⟩)
      · cases posted
      · exact ⟨year, month⟩
  | some born => exact ⟨fun _ => .inl rfl, fun _ => ⟨rfl, rfl⟩⟩

/-- An edit with valid fields takes exactly when the stored pair gives way to it. -/
theorem editTakes_iff (writable : writableVolunteer ambient user file = .ok ())
    (valid : form.errors ambient.today = []) :
    EditTakes ambient user form file ↔ GivesWay form file.volunteer := by
  constructor
  · rintro ⟨work, success, _, onFile⟩
    obtain ⟨_, _, clean, rfl⟩ := volunteerEdit_ok success
    obtain ⟨agrees, both, _, lastDay⟩ := Volunteer.clean_eq_ok_iff.mp clean
    rw [edited_volunteer, edited_onFile_iff] at onFile
    refine ⟨?_, lastDay⟩
    change file.volunteer.birthMonth.isSome = file.volunteer.birthYear.isSome at both
    rcases onFile with posted | empty
    · obtain ⟨born, posted⟩ := Option.isSome_iff_exists.mp posted
      obtain ⟨sameYear, sameMonth⟩ := agrees born posted
      change ∀ year, file.volunteer.birthYear = some year → _ at sameYear
      change ∀ month, file.volunteer.birthMonth = some month → _ at sameMonth
      cases inYear : file.volunteer.birthYear with
      | none =>
          rw [inYear] at both
          exact .inl ⟨rfl, Option.isNone_iff_eq_none.mp (by simpa using both)⟩
      | some year =>
          rw [inYear, Option.isSome_some] at both
          obtain ⟨month, inMonth⟩ := Option.isSome_iff_exists.mp both
          refine .inr ⟨born, posted, ?_, ?_⟩
          · rw [inMonth, sameMonth month inMonth]
          · rcases sameYear year inYear with rfl | rfl
            · exact .inr rfl
            · exact .inl rfl
    · exact .inl empty
  · rintro ⟨pair, lastDay⟩
    have clean : (form.applied file.volunteer).clean ambient.today = .ok () := by
      refine Volunteer.clean_eq_ok_iff.mpr ⟨?_, ?_, ?_, lastDay⟩
      · intro born posted
        change form.dateOfBirth = some born at posted
        refine ⟨?_, ?_⟩
        · intro year inYear
          change file.volunteer.birthYear = some year at inYear
          rcases pair with ⟨empty, _⟩ | ⟨born', posted', _, sameYear⟩
          · rw [empty] at inYear
            cases inYear
          · obtain rfl := Option.some.inj (posted.symm.trans posted')
            rcases sameYear with same | zero
            · exact .inr (Option.some.inj (inYear.symm.trans same))
            · exact .inl (Option.some.inj (inYear.symm.trans zero))
        · intro month inMonth
          change file.volunteer.birthMonth = some month at inMonth
          rcases pair with ⟨_, empty⟩ | ⟨born', posted', sameMonth, _⟩
          · rw [empty] at inMonth
            cases inMonth
          · obtain rfl := Option.some.inj (posted.symm.trans posted')
            exact Option.some.inj (inMonth.symm.trans sameMonth)
      · show file.volunteer.birthMonth.isSome = file.volunteer.birthYear.isSome
        rcases pair with ⟨noYear, noMonth⟩ | ⟨_, _, inMonth, same | zero⟩
        · rw [noYear, noMonth]
          rfl
        · rw [inMonth, same]
          rfl
        · rw [inMonth, zero]
          rfl
      · show file.volunteer.birthYear.getD 0 = 0 ∨
          file.volunteer.birthYear.getD 0 ≤ ambient.today.year
        rcases pair with ⟨noYear, _⟩ | ⟨born, posted, _, same | zero⟩
        · exact .inl (by rw [noYear]; rfl)
        · exact .inr (by rw [same]; exact birthday_not_later valid posted)
        · exact .inl (by rw [zero]; rfl)
    have success : volunteerEdit ambient user form file =
        .ok ((Work.start file).saveVolunteer (form.applied file.volunteer)) := by
      refine bind_eq_ok_iff.mpr ⟨(), writable, bind_eq_ok_iff.mpr ⟨(), ?_, ?_⟩⟩
      · exact Errors.raise_eq_ok_iff.mpr valid
      · exact bind_eq_ok_iff.mpr ⟨(), clean, rfl⟩
    refine ⟨_, success, ?_, ?_⟩
    · rw [edited_volunteer]
      unfold Volunteer.deriveBirth VolunteerForm.applied
      cases form.dateOfBirth <;> rfl
    · rw [edited_volunteer, edited_onFile_iff]
      rcases pair with empty | ⟨_, posted, _⟩
      · exact .inr empty
      · exact .inl (by rw [posted]; rfl)

end Edit

end Org

/-! ## Every run -/

def BirthsOnFile (church : Church) : Prop := ∀ file ∈ church.files, file.volunteer.OnFile

def TakesDateAway (church : Church) (call : Visit × ChurchRequest) : Prop :=
  ∃ volunteer form file, call.2 = .organisation (.volunteerFile volunteer (.volunteerEdit form)) ∧
    church.files[volunteer]? = some file ∧ form.dateOfBirth = none ∧
    file.volunteer.dateOfBirth.isSome = true ∧ ∃ after, church.answer call.1 call.2 = .ok after

theorem Effect.onFile {request : ChurchRequest} {before after : VolunteerFile}
    (effect : Effect request before after) (onFile : before.volunteer.OnFile)
    (notEdit : ¬∃ volunteer form,
      request = .organisation (.volunteerFile volunteer (.volunteerEdit form))) :
    after.volunteer.OnFile := by
  cases effect with
  | kept => exact onFile
  | performed ambient operation work edits success =>
      rw [commit_volunteer]
      refine (perform_resaved (eq_false_of_ne_true fun edit => ?_) success).onFile onFile
      exact notEdit (edits edit)
  | linked ambient subject =>
      unfold Accounts.linked
      rw [commit_volunteer]
      have saved : before.volunteer.Resaved { before.volunteer with
          userId := some subject }.deriveBirth := (Volunteer.Resaved.refl before.volunteer).save rfl
      exact saved.onFile onFile
  | resynced settings today => exact onFile

theorem Created.onFile {file : VolunteerFile} (created : Created file) :
    file.volunteer.OnFile := by
  cases created with
  | intake form assignment ambient work started =>
      rw [commit_volunteer, started]
      exact (edited_onFile_iff form.cleaned .blank).mpr (.inr ⟨rfl, rfl⟩)
  | account firstName lastName subject => exact ⟨rfl, rfl⟩

theorem birthsOnFile_of_not_edit {church after : Church} {call : Visit × ChurchRequest}
    (onFile : BirthsOnFile church) (success : church.answer call.1 call.2 = .ok after)
    (notEdit : ¬∃ volunteer form,
      call.2 = .organisation (.volunteerFile volunteer (.volunteerEdit form))) :
    BirthsOnFile after := by
  have effects := answer_effects success
  intro file listed
  obtain ⟨volunteer, found⟩ := List.mem_iff_getElem?.mp listed
  cases before : church.files[volunteer]? with
  | none => exact (effects.created volunteer file found before).onFile
  | some file' =>
      obtain ⟨file'', found', effect⟩ := effects.files volunteer file' before
      obtain rfl := Option.some.inj (found.symm.trans found')
      exact effect.onFile (onFile file' (List.mem_of_getElem? before)) notEdit

theorem birthsOnFile_edit_iff {church after : Church} {visit : Visit} {volunteer : Nat}
    {form : VolunteerForm} (onFile : BirthsOnFile church)
    (success : church.answer visit
      (.organisation (.volunteerFile volunteer (.volunteerEdit form))) = .ok after) :
    BirthsOnFile after ↔ ∀ file, church.files[volunteer]? = some file →
      form.dateOfBirth.isSome = true ∨ file.volunteer.dateOfBirth = none := by
  obtain ⟨acting, file, work, _, placed, viewed, rfl⟩ := church.onFile_eq_ok_iff.mp success
  obtain ⟨_, _, _, rfl⟩ := volunteerEdit_ok viewed
  have before := onFile file (List.mem_of_getElem? placed)
  have empty : file.volunteer.birthYear = none ∧ file.volunteer.birthMonth = none ↔
      file.volunteer.dateOfBirth = none := by
    rw [before.year, before.month]
    cases file.volunteer.dateOfBirth <;> simp
  have edited := edited_onFile_iff form.cleaned file.volunteer
  rw [empty] at edited
  obtain ⟨within, _⟩ := List.getElem?_eq_some_iff.mp placed
  constructor
  · intro kept current found
    obtain rfl := Option.some.inj (placed.symm.trans found)
    have last := kept _ (List.mem_set within _)
    rw [edited_volunteer] at last
    exact edited.mp last
  · intro spared other listed
    rcases List.mem_or_eq_of_mem_set listed with old | rfl
    · exact onFile other old
    · rw [edited_volunteer]
      exact edited.mpr (spared file placed)

theorem birthsOnFile_step_iff {church : Church} (onFile : BirthsOnFile church)
    (call : Visit × ChurchRequest) :
    BirthsOnFile (requestStep church call) ↔ ¬TakesDateAway church call := by
  unfold requestStep
  cases success : church.answer call.1 call.2 with
  | error refusal =>
      rw [Machine.attempt_error success]
      refine iff_of_true onFile ?_
      rintro ⟨_, _, _, _, _, _, _, after, accepted⟩
      rw [success] at accepted
      cases accepted
  | ok after =>
      rw [Machine.attempt_ok success]
      by_cases edit : ∃ volunteer form,
          call.2 = .organisation (.volunteerFile volunteer (.volunteerEdit form))
      · obtain ⟨volunteer, form, request⟩ := edit
        rw [request] at success
        rw [birthsOnFile_edit_iff onFile success]
        constructor
        · rintro spared ⟨volunteer', form', file, request', found, cleared, dated, _⟩
          rw [request] at request'
          cases request'
          rcases spared file found with posted | undated
          · rw [cleared] at posted
            cases posted
          · rw [undated] at dated
            cases dated
        · intro spared file found
          by_contra taken
          rw [not_or, Option.isSome_iff_ne_none, not_not, ← ne_eq] at taken
          refine spared ⟨volunteer, form, file, request, found, taken.1, ?_, after, ?_⟩
          · exact Option.isSome_iff_ne_none.mpr taken.2
          · rw [request, success]
      · refine iff_of_true (birthsOnFile_of_not_edit onFile success edit) ?_
        rintro ⟨volunteer, form, _, request, _⟩
        exact edit ⟨volunteer, form, request⟩

/-- An edit with valid fields takes exactly when the stored pair gives way to it, and a run keeps
the birth columns those of the date on file exactly when none of its edits takes a date away. -/
theorem birth_columns_follow_iff (ambient : Ambient) (user : Core.User) (form : VolunteerForm)
    (file : VolunteerFile) (writable : writableVolunteer ambient user file = .ok ())
    (valid : form.errors ambient.today = []) (church : Church) (onFile : BirthsOnFile church)
    (calls : List (Visit × ChurchRequest)) :
    (EditTakes ambient user form file ↔ GivesWay form file.volunteer) ∧
      (Machine.Always requestStep BirthsOnFile church calls ↔
        Machine.Guarded requestStep (fun church call => ¬TakesDateAway church call) church
          calls) := by
  refine ⟨editTakes_iff writable valid, ?_⟩
  refine Machine.always_iff_guarded requestStep _ BirthsOnFile BirthsOnFile ?_ ?_ onFile onFile
    calls
  · intro _ _ _ _ kept
    exact kept
  · intro church call kept _
    exact birthsOnFile_step_iff kept call

namespace Sample

def mayBefore (years : Int) (number : Nat) : Date := (january number).addMonths (4 - 12 * years)

/-- A volunteer with a full date of birth on file, 10 May 1990. -/
def dated : VolunteerFile :=
  VolunteerFile.opened { adult with dateOfBirth := some (mayBefore 36 9) }

/-- The edit form of that volunteer, with another date of birth or none. -/
def redated (born : Option Date) : VolunteerForm := ⟨"Ada", "Stone", "", born, none, false⟩

end Sample

theorem birth_columns_follow_day :
    let ambient := Sample.byPrimaryAdmin Sample.orientationOnly (Sample.january 9)
    let form := Sample.redated (some (Sample.mayBefore 36 10))
    let church := Sample.church Sample.orientationOnly [Sample.dated]
    let edit :=
      (Sample.visit 0, ChurchRequest.organisation (.volunteerFile 0 (.volunteerEdit form)))
    EditTakes ambient Sample.primaryAdmin form Sample.dated ∧
      Machine.Always requestStep BirthsOnFile church [edit] ∧
      (requestStep church edit).files.map (·.volunteer.birth) =
        [(some (Sample.mayBefore 36 10), some 1990, some ⟨5, by decide⟩)] := by
  intro ambient form church edit
  have both := birth_columns_follow_iff ambient Sample.primaryAdmin form Sample.dated rfl
    (by decide) church (fun file listed => by
      obtain rfl := List.mem_singleton.mp listed
      exact ⟨rfl, rfl⟩) [edit]
  refine ⟨both.1.mpr ⟨.inr ⟨_, rfl, rfl, .inl rfl⟩, .inl rfl⟩, both.2.mpr ⟨?_, trivial⟩,
    by decide +kernel⟩
  rintro ⟨_, _, _, same, _, undated, _⟩
  cases same
  cases undated

/-- A correction to another year is refused over a field that the form does not have, and a date
that is taken away leaves the year and month behind. -/
theorem birth_columns_stay :
    let ambient := Sample.byPrimaryAdmin Sample.orientationOnly (Sample.january 9)
    let corrected := Sample.redated (some (Sample.mayBefore 35 9))
    let cleared := Sample.redated none
    corrected.errors ambient.today = [] ∧ cleared.errors ambient.today = [] ∧
      (volunteerEdit ambient Sample.primaryAdmin corrected Sample.dated).map (·.file.volunteer) =
        .error (.validation [("birth_year", "Does not match the full date of birth.")]) ∧
      (volunteerEdit ambient Sample.primaryAdmin cleared Sample.dated).map
          (·.file.volunteer.birth) =
        .ok (none, some 1990, some ⟨5, by decide⟩) := by
  decide

end VolunteerScreening
