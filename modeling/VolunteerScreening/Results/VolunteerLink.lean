import VolunteerScreening.Accounts.Views

/-!
# The link between an administrator and their own file

Three requests make it, and none takes it away.  Inviting checks whose file it
links; linking an existing file does not ask whether it is a disqualified
person's, and creating a fresh file does not ask for whom.
-/

namespace VolunteerScreening

open Accounts Fallible Org

def LinkedTo (church : Church) (pk : Pk) (position : Nat) : Prop :=
  ∃ file, church.files[position]? = some file ∧ file.volunteer.userId = some pk

def UniqueLinks (church : Church) : Prop :=
  ∀ pk first second, LinkedTo church pk first → LinkedTo church pk second → first = second

/-- What a request by a user may do to the links.  What is linked stays linked, to one account
once; no disqualified person's file is linked; and nobody chooses their own file while somebody
else could. -/
structure LinkLaw (church after : Church) (user : Pk) : Prop where
  kept : ∀ pk position, LinkedTo church pk position → LinkedTo after pk position
  unique : UniqueLinks after
  eligible : ∀ pk position file, LinkedTo after pk position → ¬LinkedTo church pk position →
    after.files[position]? = some file → file.volunteer.screeningBlock ≠ .disqualified
  byAnother : church.directory.administration.anotherUnscopedAdminExists user = true →
    ∀ position, LinkedTo after user position → LinkedTo church user position

def KeepsLinkLaw (church : Church) (call : Visit × AccountRequest) : Prop :=
  LinkLaw church (accountStep church call) call.1.user

/-- A link that goes through is not of a disqualified person's file, and a file that is created is
not the visitor's own while somebody else could create it. -/
def LinkedInOrder (church : Church) (call : Visit × AccountRequest) : Prop :=
  match call.2 with
  | .adminLinkVolunteer subject volunteer =>
      ∀ acting user file, church.requires call.1 .manageUsers = .ok acting →
        church.directory.users[subject]? = some user → church.files[volunteer]? = some file →
        file.volunteer.userId = none → isLinked church subject = false →
        ¬(subject = acting.pk ∧
          church.directory.administration.anotherUnscopedAdminExists acting.pk = true) →
        file.volunteer.screeningBlock ≠ .disqualified
  | .adminCreateVolunteer subject =>
      ∀ acting user, church.requires call.1 .manageUsers = .ok acting →
        church.directory.users[subject]? = some user → isLinked church subject = false →
        ¬(subject = acting.pk ∧
          church.directory.administration.anotherUnscopedAdminExists acting.pk = true)
  | _ => True

theorem isLinked_eq_false_iff {church : Church} {subject : Pk} :
    isLinked church subject = false ↔ ∀ position, ¬LinkedTo church subject position := by
  unfold isLinked LinkedTo
  rw [List.any_eq_false]
  constructor
  · rintro free position ⟨file, found, same⟩
    exact free file (List.mem_of_getElem? found) (by simp [same])
  · intro free file listed same
    obtain ⟨position, found⟩ := List.mem_iff_getElem?.mp listed
    exact free position ⟨file, found, by simpa using same⟩

/-- A request adds one link, of an account that had none. -/
def Adds (church after : Church) (subject : Pk) (target : Nat) : Prop :=
  isLinked church subject = false ∧ ∀ pk position,
    LinkedTo after pk position ↔
      LinkedTo church pk position ∨ pk = subject ∧ position = target

theorem adds_linked {church after : Church} {ambient : Ambient} {subject : Pk} {position : Nat}
    {file : VolunteerFile} (free : isLinked church subject = false)
    (found : church.files[position]? = some file) (unlinked : file.volunteer.userId = none)
    (files : after.files = church.files.set position (linked ambient subject file)) :
    Adds church after subject position := by
  refine ⟨free, ?_⟩
  intro pk other
  unfold LinkedTo
  rw [files]
  by_cases same : other = position
  · subst same
    obtain ⟨placed, _⟩ := List.getElem?_eq_some_iff.mp found
    rw [List.getElem?_set_self placed, found]
    simp [unlinked, linked_userId, eq_comm]
  · rw [List.getElem?_set_ne (Ne.symm same)]
    simp [same]

theorem adds_created {church after : Church} {firstName lastName : String} {subject : Pk}
    (free : isLinked church subject = false)
    (files : after.files =
      church.files ++ [VolunteerFile.opened (newVolunteer firstName lastName subject)]) :
    Adds church after subject church.files.length := by
  refine ⟨free, ?_⟩
  intro pk other
  unfold LinkedTo
  rw [files, List.getElem?_append]
  split
  · next earlier => simp [Nat.ne_of_lt earlier]
  · next beyond =>
      rw [List.getElem?_eq_none (Nat.le_of_not_lt beyond), List.getElem?_singleton]
      by_cases first : other - church.files.length = 0
      · have same : other = church.files.length := by omega
        simp [same, VolunteerFile.opened, newVolunteer, eq_comm]
      · have different : other ≠ church.files.length := by omega
        simp [first, different]

theorem Adds.uniqueLinks {church after : Church} {subject : Pk} {target : Nat}
    (adds : Adds church after subject target) (unique : UniqueLinks church) :
    UniqueLinks after := by
  obtain ⟨free, changes⟩ := adds
  have none := isLinked_eq_false_iff.mp free
  intro pk first second toFirst toSecond
  rcases (changes pk first).mp toFirst with before | ⟨rfl, rfl⟩
  · rcases (changes pk second).mp toSecond with earlier | ⟨rfl, _⟩
    · exact unique pk first second before earlier
    · exact absurd before (none first)
  · rcases (changes pk second).mp toSecond with before | ⟨_, rfl⟩
    · exact absurd before (none second)
    · rfl

theorem Adds.linkLaw_iff {church after : Church} {subject user : Pk} {target : Nat}
    (adds : Adds church after subject target) (unique : UniqueLinks church) :
    LinkLaw church after user ↔
      (∀ file, after.files[target]? = some file → file.volunteer.screeningBlock ≠ .disqualified) ∧
        ¬(subject = user ∧
          church.directory.administration.anotherUnscopedAdminExists user = true) := by
  have stillUnique := adds.uniqueLinks unique
  obtain ⟨free, changes⟩ := adds
  have none := isLinked_eq_false_iff.mp free
  have added : LinkedTo after subject target := (changes subject target).mpr (.inr ⟨rfl, rfl⟩)
  constructor
  · intro law
    refine ⟨fun file => law.eligible subject target file added (none target), ?_⟩
    rintro ⟨rfl, another⟩
    exact none target (law.byAnother another target added)
  · rintro ⟨eligible, notOwn⟩
    refine ⟨?_, stillUnique, ?_, ?_⟩
    · intro pk position before
      exact (changes pk position).mpr (.inl before)
    · intro pk position file now notBefore found
      obtain ⟨_, rfl⟩ := ((changes pk position).mp now).resolve_left notBefore
      exact eligible file found
    · intro another position now
      apply ((changes user position).mp now).resolve_right
      rintro ⟨own, _⟩
      exact notOwn ⟨own.symm, another⟩

theorem linkLaw_of_files {church after : Church} (user : Pk) (unique : UniqueLinks church)
    (same : after.files = church.files) : LinkLaw church after user := by
  have unchanged : ∀ pk position, LinkedTo after pk position ↔ LinkedTo church pk position := by
    intro pk position
    unfold LinkedTo
    rw [same]
  refine ⟨fun pk position => (unchanged pk position).mpr, ?_, ?_, ?_⟩
  · intro pk first second toFirst toSecond
    exact unique pk first second ((unchanged pk first).mp toFirst)
      ((unchanged pk second).mp toSecond)
  · intro pk position _ now notBefore
    exact absurd ((unchanged pk position).mp now) notBefore
  · intro _ position
    exact (unchanged user position).mp

theorem created_eligible {church after : Church} {firstName lastName : String} {subject : Pk}
    (files : after.files =
      church.files ++ [VolunteerFile.opened (newVolunteer firstName lastName subject)])
    (file : VolunteerFile) (created : after.files[church.files.length]? = some file) :
    file.volunteer.screeningBlock ≠ .disqualified := by
  rw [files, List.getElem?_append_right (Nat.le_refl _), Nat.sub_self] at created
  cases created
  intro disqualified
  cases disqualified

/-! ## One lemma for each kind of request -/

theorem adminLinkVolunteer_adds {church after : Church} {visit : Visit} {subject : Pk}
    {volunteer : Nat} (success : adminLinkVolunteer church visit subject volunteer = .ok after) :
    Adds church after subject volunteer := by
  obtain ⟨_, _, _, _, _, placed, unlinked, _, free, written⟩ :=
    adminLinkVolunteer_eq_ok_iff.mp success
  exact adds_linked free placed unlinked (congrArg Church.files written)

theorem adminCreateVolunteer_adds {church after : Church} {visit : Visit} {subject : Pk}
    (success : adminCreateVolunteer church visit subject = .ok after) :
    Adds church after subject church.files.length := by
  obtain ⟨_, _, _, _, free, written⟩ := adminCreateVolunteer_eq_ok_iff.mp success
  exact adds_created free (congrArg Church.files written)

theorem adminLinkVolunteer_linkLaw_iff {church after : Church} {visit : Visit} {subject : Pk}
    {volunteer : Nat} (unique : UniqueLinks church)
    (success : adminLinkVolunteer church visit subject volunteer = .ok after) :
    LinkLaw church after visit.user ↔
      LinkedInOrder church (visit, .adminLinkVolunteer subject volunteer) := by
  obtain ⟨acting, user, file, allowed, found, placed, unlinked, notOwn, free, written⟩ :=
    adminLinkVolunteer_eq_ok_iff.mp success
  obtain ⟨signedIn, _⟩ := church.requires_eq_ok_iff.mp allowed
  obtain ⟨samePk, _⟩ := Directory.administrator_eq_some_iff.mp signedIn
  have files := congrArg Church.files written
  obtain ⟨inTable, _⟩ := List.getElem?_eq_some_iff.mp placed
  rw [(adminLinkVolunteer_adds success).linkLaw_iff unique, files, List.getElem?_set_self inTable]
  constructor
  · rintro ⟨eligible, _⟩ acting' user' file' _ _ placed' _ _ _
    obtain rfl := Option.some.inj (placed.symm.trans placed')
    have stored := eligible _ rfl
    rwa [linked_screeningBlock] at stored
  · intro inOrder
    constructor
    · intro stored now
      cases now
      rw [linked_screeningBlock]
      exact inOrder acting user file allowed found placed unlinked free notOwn
    · rw [← samePk]
      exact notOwn

theorem adminCreateVolunteer_linkLaw_iff {church after : Church} {visit : Visit} {subject : Pk}
    (unique : UniqueLinks church)
    (success : adminCreateVolunteer church visit subject = .ok after) :
    LinkLaw church after visit.user ↔
      LinkedInOrder church (visit, .adminCreateVolunteer subject) := by
  obtain ⟨acting, user, allowed, found, free, written⟩ := adminCreateVolunteer_eq_ok_iff.mp success
  obtain ⟨signedIn, _⟩ := church.requires_eq_ok_iff.mp allowed
  obtain ⟨samePk, _⟩ := Directory.administrator_eq_some_iff.mp signedIn
  have eligible := created_eligible (congrArg Church.files written)
  rw [(adminCreateVolunteer_adds success).linkLaw_iff unique, ← samePk]
  constructor
  · rintro ⟨_, notOwn⟩ acting' user' allowed' _ _
    obtain rfl := Except.ok.inj (allowed.symm.trans allowed')
    exact notOwn
  · intro inOrder
    exact ⟨eligible, inOrder acting user allowed found free⟩

/-- An invitation links a file to an account that is new, and never a disqualified person's. -/
theorem adminInvite_linkLaw {church after : Church} {visit : Visit} {form : AdminInviteForm}
    {volunteer : Option Nat} (unique : UniqueLinks church)
    (success : adminInvite church visit form volunteer = .ok after) :
    LinkLaw church after visit.user := by
  obtain ⟨acting, existing, directory, allowed, sought, _, _, filed⟩ := adminInvite_ok success
  obtain ⟨signedIn, _⟩ := church.requires_eq_ok_iff.mp allowed
  have notOwn : ¬(church.directory.users.length = visit.user ∧
      church.directory.administration.anotherUnscopedAdminExists visit.user = true) := by
    rintro ⟨new, _⟩
    exact absurd (Directory.administrator_lt signedIn) (by simp [new])
  rcases fileForNewAdmin_ok filed with rfl | ⟨free, ⟨position, file, rfl, written⟩ | written⟩
  · exact linkLaw_of_files visit.user unique rfl
  · obtain ⟨placed, unlinked, _, eligible⟩ := volunteerFromRequest_some sought
    obtain ⟨inTable, _⟩ := List.getElem?_eq_some_iff.mp placed
    have files := congrArg Church.files written
    have adds : Adds church after church.directory.users.length position :=
      adds_linked free placed unlinked files
    rw [adds.linkLaw_iff unique, files, List.getElem?_set_self inTable]
    refine ⟨?_, notOwn⟩
    intro stored now disqualified
    cases now
    rw [linked_screeningBlock] at disqualified
    simp [disqualified, Volunteer.isPermanentlyDisqualified] at eligible
  · have files := congrArg Church.files written
    have adds : Adds church after church.directory.users.length church.files.length :=
      adds_created free files
    exact (adds.linkLaw_iff unique).mpr ⟨created_eligible files, notOwn⟩

/-! ## Every run -/

theorem keepsLinkLaw_iff (church : Church) (call : Visit × AccountRequest)
    (unique : UniqueLinks church) : KeepsLinkLaw church call ↔ LinkedInOrder church call := by
  obtain ⟨visit, request⟩ := call
  unfold KeepsLinkLaw accountStep
  cases result : answer church visit request with
  | error refusal =>
      rw [Machine.attempt_error result]
      refine iff_of_true (linkLaw_of_files visit.user unique rfl) ?_
      cases request with
      | adminLinkVolunteer subject volunteer =>
          intro acting user file allowed found placed unlinked free notOwn
          have success := adminLinkVolunteer_eq_ok_iff.mpr
            ⟨acting, user, file, allowed, found, placed, unlinked, notOwn, free, rfl⟩
          cases success.symm.trans result
      | adminCreateVolunteer subject =>
          intro acting user allowed found free
          have success := adminCreateVolunteer_eq_ok_iff.mpr
            ⟨acting, user, allowed, found, free, rfl⟩
          cases success.symm.trans result
      | _ => trivial
  | ok after =>
      rw [Machine.attempt_ok result]
      cases request with
      | adminInvite form volunteer => exact iff_of_true (adminInvite_linkLaw unique result) trivial
      | adminLinkVolunteer subject volunteer => exact adminLinkVolunteer_linkLaw_iff unique result
      | adminCreateVolunteer subject => exact adminCreateVolunteer_linkLaw_iff unique result
      | _ =>
          have same := answer_files result rfl
          exact iff_of_true (linkLaw_of_files visit.user unique same) trivial

theorem uniqueLinks_step (church : Church) (call : Visit × AccountRequest)
    (unique : UniqueLinks church) : UniqueLinks (accountStep church call) := by
  obtain ⟨visit, request⟩ := call
  cases result : answer church visit request with
  | error refusal =>
      unfold accountStep
      rw [Machine.attempt_error result]
      exact unique
  | ok after =>
      have stepped : accountStep church (visit, request) = after := Machine.attempt_ok result
      by_cases inOrder : LinkedInOrder church (visit, request)
      · exact ((keepsLinkLaw_iff church (visit, request) unique).mpr inOrder).unique
      · rw [stepped]
        cases request with
        | adminLinkVolunteer subject volunteer =>
            exact (adminLinkVolunteer_adds result).uniqueLinks unique
        | adminCreateVolunteer subject =>
            exact (adminCreateVolunteer_adds result).uniqueLinks unique
        | _ => exact absurd trivial inOrder

/-- Every request of a run keeps the law of the links exactly when every link and every new file in
it is in order. -/
theorem volunteer_link_iff (church : Church) (unique : UniqueLinks church)
    (calls : List (Visit × AccountRequest)) :
    Machine.Guarded accountStep KeepsLinkLaw church calls ↔
      Machine.Guarded accountStep LinkedInOrder church calls :=
  Machine.guarded_congr accountStep UniqueLinks uniqueLinks_step keepsLinkLaw_iff unique calls

namespace Sample

def unlinkedChurch (block : ScreeningBlock) : Church :=
  church orientationOnly [VolunteerFile.opened { adult with screeningBlock := block }]

theorem unlinkedChurch_uniqueLinks (block : ScreeningBlock) :
    UniqueLinks (unlinkedChurch block) := by
  rintro pk first second ⟨file, found, same⟩
  obtain rfl := List.mem_singleton.mp (List.mem_of_getElem? found)
  cases same

end Sample

theorem volunteer_link_iff_linked :
    Machine.Guarded accountStep KeepsLinkLaw (Sample.unlinkedChurch .none)
      [(Sample.visit 0, .adminLinkVolunteer 1 0)] := by
  refine (volunteer_link_iff _ (Sample.unlinkedChurch_uniqueLinks .none) _).mpr ⟨?_, trivial⟩
  intro acting user file _ _ found _ _ _ disqualified
  obtain rfl := List.mem_singleton.mp (List.mem_of_getElem? found)
  cases disqualified

/-- The file of a disqualified person is linked like any other, and an administrator creates their
own file beside it although another could have chosen it. -/
theorem link_out_of_order :
    UniqueLinks (Sample.unlinkedChurch .disqualified) ∧
      ¬KeepsLinkLaw (Sample.unlinkedChurch .disqualified)
        (Sample.visit 0, .adminLinkVolunteer 1 0) ∧
      ¬KeepsLinkLaw (Sample.unlinkedChurch .disqualified)
        (Sample.visit 0, .adminCreateVolunteer 0) := by
  have unlinked : ∀ pk position,
      ¬LinkedTo (Sample.unlinkedChurch .disqualified) pk position := by
    rintro pk position ⟨file, found, same⟩
    obtain rfl := List.mem_singleton.mp (List.mem_of_getElem? found)
    cases same
  refine ⟨Sample.unlinkedChurch_uniqueLinks .disqualified, ?_, ?_⟩
  · intro law
    exact law.eligible 1 0 _ ⟨_, rfl, rfl⟩ (unlinked 1 0) rfl rfl
  · intro law
    exact unlinked 0 1 (law.byAnother (by decide) 1 ⟨_, rfl, rfl⟩)

end VolunteerScreening
