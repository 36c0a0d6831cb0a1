import VolunteerScreening.Accounts.Views
import VolunteerScreening.Review.Decisions

/-!
# Nobody makes themselves the only reviewer

An administrator may affirm their own entry only when nobody else could.  A
deactivation that would make it so is refused while such an entry is open.
Changing the last other reviewer's access, or the level the other reviewers
hold, is not.
-/

namespace VolunteerScreening

open Accounts Fallible Review

/-- Whether an administrator is refused on an item. -/
def Refused (directory : Directory) (acting : Directory.Administrator) (item : ReviewItem) : Prop :=
  mayReview directory.administration acting.account item ≠ none

instance (directory : Directory) (acting : Directory.Administrator) (item : ReviewItem) :
    Decidable (Refused directory acting item) :=
  inferInstanceAs (Decidable (mayReview directory.administration acting.account item ≠ none))

/-- Somebody else sees the whole church. -/
def AnotherReviewer (directory : Directory) (pk : Pk) : Prop :=
  ∃ other, other ≠ pk ∧ directory.Holds AccessLevel.seesWholeChurch other

theorem refused_iff {directory : Directory} {pk : Pk} {acting : Directory.Administrator}
    {item : ReviewItem} (signedIn : directory.administrator pk = some acting)
    (recorded : item.recordedByUserId = some acting.pk) :
    Refused directory acting item ↔
      acting.level.isScoped = true ∨ AnotherReviewer directory acting.pk := by
  unfold Refused AnotherReviewer
  rw [ne_eq, mayReview_eq_none_iff, Directory.isUnscoped_account signedIn,
    ← Directory.anotherUnscopedAdminExists_iff]
  cases limited : acting.level.isScoped with
  | true => simp
  | false => simp [recorded]

theorem AnotherReviewer.imp {before after : Directory} {pk : Pk}
    (kept : ∀ other, other ≠ pk → before.Holds AccessLevel.seesWholeChurch other →
      after.Holds AccessLevel.seesWholeChurch other)
    (another : AnotherReviewer before pk) : AnotherReviewer after pk := by
  obtain ⟨other, different, holds⟩ := another
  exact ⟨other, different, kept other different holds⟩

/-- When a request spares the reviewers.  A change of access does when it puts the subject on a
church-wide level, an edit when it leaves the level in force and church-wide, and either when
somebody else, whom it does not touch, sees the whole church; or when the administrator is limited
anyway, or limits their own level with the edit. -/
def SparesAReviewer (church : Church) (acting : Directory.Administrator) :
    AccountRequest → Prop
  | .adminAccess subject form =>
      acting.level.isScoped = true ∨
        (∃ level, church.directory.levels[form.accessLevel]? = some level ∧
          level.isScoped = false) ∨
        ∃ other, other ≠ acting.pk ∧ other ≠ subject ∧
          church.directory.Holds AccessLevel.seesWholeChurch other
  | .accessLevelEdit target form =>
      acting.level.isScoped = true ∨
        (acting.grant.accessLevel = target ∧ form.isScoped = true) ∨
        (∃ level, church.directory.levels[target]? = some level ∧
          (form.applied level).seesWholeChurch = true) ∨
        ∃ other reviewer, other ≠ acting.pk ∧
          church.directory.administrator other = some reviewer ∧
          reviewer.grant.accessLevel ≠ target ∧ reviewer.level.seesWholeChurch = true
  | _ => True

/-! ## One lemma for each kind of request -/

theorem adminAccess_anotherReviewer_iff {church after : Church} {visit : Visit} {subject : Pk}
    {form : AccessGrantForm} {pk : Pk} (another : AnotherReviewer church.directory pk)
    (success : adminAccess church visit subject form = .ok after) (notSelf : subject ≠ pk) :
    AnotherReviewer after.directory pk ↔
      (∃ level, church.directory.levels[form.accessLevel]? = some level ∧
          level.isScoped = false) ∨
        ∃ other, other ≠ pk ∧ other ≠ subject ∧
          church.directory.Holds AccessLevel.seesWholeChurch other := by
  obtain ⟨_, user, level, listed, _, found, onTable, inForce, _, _, _, rfl⟩ :=
    adminAccess_ok success
  unfold AnotherReviewer
  rw [Directory.holds_setGrant_iff AccessLevel.seesWholeChurch (· ≠ pk) listed found onTable]
  constructor
  · rintro (⟨_, _, sees⟩ | others)
    · simp only [AccessLevel.seesWholeChurch, Bool.and_eq_true, Bool.not_eq_true'] at sees
      exact .inl ⟨level, onTable, sees.1⟩
    · exact .inr others
  · rintro (⟨level', onTable', unscoped⟩ | others)
    · obtain rfl := Option.some.inj (onTable.symm.trans onTable')
      obtain ⟨earlier, different, holds⟩ := another
      by_cases same : earlier = subject
      · subst same
        obtain ⟨reviewer, signedIn, _⟩ := holds
        obtain ⟨rfl, present, active, _⟩ := Directory.administrator_eq_some_iff.mp signedIn
        obtain rfl := Option.some.inj (found.symm.trans present)
        exact .inl ⟨different, active, by simp [AccessLevel.seesWholeChurch, unscoped, inForce]⟩
      · exact .inr ⟨earlier, different, same, holds⟩
    · exact .inr others

/-- The guard on a deactivation: while the actor has an open entry, another reviewer stays. -/
theorem adminToggleActive_anotherReviewer {church after : Church} {visit : Visit} {subject : Pk}
    {acting : Directory.Administrator} {item : ReviewItem}
    (allowed : church.requires visit .manageUsers = .ok acting)
    (unscoped : acting.level.isScoped = false) (waiting : item ∈ backlog church acting.pk)
    (another : AnotherReviewer church.directory acting.pk)
    (success : adminToggleActive church visit subject = .ok after) :
    AnotherReviewer after.directory acting.pk := by
  obtain ⟨acting', user, allowed', found, notSelf, unrefused, rfl⟩ := adminToggleActive_ok success
  obtain rfl := Except.ok.inj (allowed.symm.trans allowed')
  cases active : user.isActive with
  | false =>
      apply another.imp
      rintro other _ ⟨reviewer, signedIn, sees⟩
      exact ⟨reviewer, Directory.administrator_reactivate signedIn, sees⟩
  | true =>
      have spared := (deactivationRefused_eq_none (unrefused active)).2
      unfold ownReviewBacklogUnlockedByRemoving at spared
      rw [if_neg (by simp [unscoped, Ne.symm notSelf])] at spared
      split at spared
      · next others =>
          obtain ⟨other, outside, holds⟩ := church.directory.anyOther_iff.mp others
          simp only [List.mem_cons, List.not_mem_nil, or_false, not_or] at outside
          refine ⟨other, outside.1, holds.congr ?_⟩
          exact Directory.administrator_setActive_other outside.2 false
      · dsimp only at spared
        split at spared
        · next none =>
            exact absurd (List.eq_nil_of_length_eq_zero none) (List.ne_nil_of_mem waiting)
        · cases spared

theorem accessLevelEdit_anotherReviewer_iff {church after : Church} {visit : Visit} {target : Pk}
    {form : AccessLevelForm} {pk : Pk} (another : AnotherReviewer church.directory pk)
    (success : accessLevelEdit church visit target form = .ok after) :
    AnotherReviewer after.directory pk ↔
      (∃ level, church.directory.levels[target]? = some level ∧
          (form.applied level).seesWholeChurch = true) ∨
        ∃ other reviewer, other ≠ pk ∧ church.directory.administrator other = some reviewer ∧
          reviewer.grant.accessLevel ≠ target ∧ reviewer.level.seesWholeChurch = true := by
  obtain ⟨_, level, _, onTable, _, rfl⟩ := accessLevelEdit_eq_ok_iff.mp success
  unfold AnotherReviewer
  rw [Directory.holds_setLevel_iff AccessLevel.seesWholeChurch (· ≠ pk) another]
  apply or_congr_left
  constructor
  · intro still
    exact ⟨level, onTable, still⟩
  · rintro ⟨level', onTable', still⟩
    obtain rfl := Option.some.inj (onTable.symm.trans onTable')
    exact still

/-! ## The request as a whole -/

theorem refused_iff_of_account {directory : Directory} {acting now : Directory.Administrator}
    {item : ReviewItem} (signedIn : directory.administrator acting.pk = some now)
    (account : now.account = acting.account)
    (recorded : item.recordedByUserId = some acting.pk) :
    Refused directory acting item ↔
      now.level.isScoped = true ∨ AnotherReviewer directory acting.pk := by
  have samePk := (Directory.administrator_eq_some_iff.mp signedIn).1
  rw [← samePk, ← refused_iff signedIn (samePk ▸ recorded)]
  unfold Refused
  rw [account]

theorem refused_of_kept {before after : Directory} {acting : Directory.Administrator}
    {item : ReviewItem} (recorded : item.recordedByUserId = some acting.pk)
    (signedIn : before.administrator acting.pk = some acting)
    (same : after.administrator acting.pk = before.administrator acting.pk)
    (refused : Refused before acting item)
    (kept : acting.level.isScoped = false → AnotherReviewer before acting.pk →
      AnotherReviewer after acting.pk) : Refused after acting item := by
  apply (refused_iff_of_account (same.trans signedIn) rfl recorded).mpr
  cases limited : acting.level.isScoped with
  | true => exact .inl rfl
  | false =>
      rcases (refused_iff signedIn recorded).mp refused with scopedBefore | another
      · cases limited.symm.trans scopedBefore
      · exact .inr (kept limited another)

theorem adminAccess_refused_iff {church after : Church} {visit : Visit} {subject : Pk}
    {form : AccessGrantForm} {acting : Directory.Administrator} {item : ReviewItem}
    (signedIn : church.directory.administrator acting.pk = some acting)
    (notSelf : subject ≠ acting.pk) (recorded : item.recordedByUserId = some acting.pk)
    (refused : Refused church.directory acting item)
    (success : adminAccess church visit subject form = .ok after) :
    Refused after.directory acting item ↔
      SparesAReviewer church acting (.adminAccess subject form) := by
  have changed (another : AnotherReviewer church.directory acting.pk) :=
    adminAccess_anotherReviewer_iff another success notSelf
  obtain ⟨_, _, _, listed, _, _, _, _, _, _, _, rfl⟩ := adminAccess_ok success
  have same := Directory.administrator_setGrant_other notSelf.symm _ listed
  rw [refused_iff_of_account (same.trans signedIn) rfl recorded]
  cases limited : acting.level.isScoped with
  | true => exact iff_of_true (.inl rfl) (.inl limited)
  | false =>
      have another : AnotherReviewer church.directory acting.pk := by
        apply ((refused_iff signedIn recorded).mp refused).resolve_left
        simp [limited]
      rw [changed another]
      simp [SparesAReviewer, limited]

theorem accessLevelEdit_refused_iff {church after : Church} {visit : Visit} {target : Pk}
    {form : AccessLevelForm} {acting : Directory.Administrator} {item : ReviewItem}
    (allowed : church.requires visit .manageUsers = .ok acting)
    (signedIn : church.directory.administrator acting.pk = some acting)
    (recorded : item.recordedByUserId = some acting.pk)
    (refused : Refused church.directory acting item)
    (success : accessLevelEdit church visit target form = .ok after) :
    Refused after.directory acting item ↔
      SparesAReviewer church acting (.accessLevelEdit target form) := by
  have edited (another : AnotherReviewer church.directory acting.pk) :=
    accessLevelEdit_anotherReviewer_iff another success
  obtain ⟨acting', level, allowed', onTable, accepted, rfl⟩ := accessLevelEdit_eq_ok_iff.mp success
  obtain rfl := Except.ok.inj (allowed.symm.trans allowed')
  have covered := ((AccessLevel.covers_iff _ _).mp (form.covers_of_errors_eq_nil accepted)).2
  have now := @Directory.administrator_setLevel church.directory target (form.applied level)
    acting.pk
  rw [signedIn, Option.map_some] at now
  have sameAccount : (if acting.grant.accessLevel = target then
      { acting with level := form.applied level } else acting).account = acting.account := by
    split <;> rfl
  rw [refused_iff_of_account now sameAccount recorded]
  cases limited : acting.level.isScoped with
  | true =>
      refine iff_of_true (.inl ?_) (.inl limited)
      split
      · exact covered limited
      · exact limited
  | false =>
      have nowLimited : (if acting.grant.accessLevel = target then
          { acting with level := form.applied level } else acting).level.isScoped = true ↔
            acting.grant.accessLevel = target ∧ form.isScoped = true := by
        split
        · next own => simp [own, AccessLevelForm.applied]
        · next elsewhere => simp [elsewhere, limited]
      have another : AnotherReviewer church.directory acting.pk := by
        apply ((refused_iff signedIn recorded).mp refused).resolve_left
        simp [limited]
      rw [nowLimited, edited another]
      simp [SparesAReviewer, limited]

/-- An administrator who is refused on a waiting entry of their own stays refused, through any
request of theirs about others' accounts or about levels, exactly when it spares a reviewer. -/
theorem sole_reviewer_iff {church after : Church} {visit : Visit} {request : AccountRequest}
    {acting : Directory.Administrator} {item : ReviewItem}
    (signedIn : church.directory.administrator visit.user = some acting)
    (waiting : item ∈ backlog church acting.pk)
    (others : ∀ form, request ≠ .adminAccess acting.pk form)
    (refused : Refused church.directory acting item)
    (success : answer church visit request = .ok after) :
    Refused after.directory acting item ↔ SparesAReviewer church acting request := by
  obtain ⟨samePk, _⟩ := Directory.administrator_eq_some_iff.mp signedIn
  rw [← samePk] at signedIn
  have known {other : Directory.Administrator}
      (allowed : church.requires visit .manageUsers = .ok other) :
      church.requires visit .manageUsers = .ok acting := by
    have found := ((church.requires_eq_ok_iff).mp allowed).1
    rw [← samePk, signedIn] at found
    cases found
    exact allowed
  have recorded : item.recordedByUserId = some acting.pk := by
    have suits := (List.mem_filter.mp waiting).2
    simp only [Bool.and_eq_true, beq_iff_eq] at suits
    exact suits.2
  cases request with
  | adminAccess subject form =>
      have notSelf : subject ≠ acting.pk := by
        rintro rfl
        exact others form rfl
      exact adminAccess_refused_iff signedIn notSelf recorded refused success
  | adminToggleActive subject =>
      obtain ⟨other, _, allowed, _, notSelf, _, written⟩ := adminToggleActive_ok success
      refine iff_of_true ?_ trivial
      apply refused_of_kept recorded signedIn _ refused
      · intro unscoped another
        exact adminToggleActive_anotherReviewer (known allowed) unscoped waiting another success
      · obtain rfl := Except.ok.inj ((known allowed).symm.trans allowed)
        rw [written]
        exact Directory.administrator_setActive_other notSelf.symm _
  | adminInvite form volunteer =>
      refine iff_of_true ?_ trivial
      apply refused_of_kept recorded signedIn _ refused
      · intro _ another
        apply another.imp
        rintro other _ ⟨reviewer, found, sees⟩
        have earlier := Directory.administrator_lt found
        exact ⟨reviewer, (adminInvite_administrator success earlier).trans found, sees⟩
      · exact adminInvite_administrator success (Directory.administrator_lt signedIn)
  | accessLevelCreate form =>
      obtain rfl := accessLevelCreate_ok success
      refine iff_of_true ?_ trivial
      apply refused_of_kept recorded signedIn (Directory.administrator_addLevel _ _) refused
      intro _ another
      apply another.imp
      intro other _ holds
      exact holds.congr (Directory.administrator_addLevel _ _)
  | accessLevelEdit target form =>
      obtain ⟨_, _, allowed, _⟩ := accessLevelEdit_eq_ok_iff.mp success
      exact accessLevelEdit_refused_iff (known allowed) signedIn recorded refused success
  | adminLinkVolunteer subject volunteer =>
      obtain ⟨_, _, _, _, _, _, _, _, _, rfl⟩ := adminLinkVolunteer_eq_ok_iff.mp success
      exact iff_of_true refused trivial
  | adminCreateVolunteer subject =>
      obtain ⟨_, _, _, _, _, rfl⟩ := adminCreateVolunteer_eq_ok_iff.mp success
      exact iff_of_true refused trivial

namespace Sample

def waitingChurch : Church :=
  church orientationOnly [{ VolunteerFile.opened adult with reviewItems := [waitingEntry 0] }]

end Sample

/-- Moving a limited helper leaves the other primary administrator to review. -/
theorem sole_reviewer_iff_helper_moved :
    Refused (accountStep Sample.waitingChurch
      (Sample.visit 0, .adminAccess 3 ⟨1, [1]⟩)).directory Sample.ada (Sample.waitingEntry 0) := by
  apply (@sole_reviewer_iff Sample.waitingChurch _ (Sample.visit 0) (.adminAccess 3 ⟨1, [1]⟩)
    Sample.ada (Sample.waitingEntry 0) rfl (by decide) ?_ (by decide) rfl).mpr
  · refine .inr (.inr ⟨1, by decide, by decide, ?_⟩)
    exact ⟨_, rfl, rfl⟩
  · intro form asked
    cases asked

/-- Moving the other primary administrator to a limited level hands over the queue. -/
theorem sole_reviewer_manufactured :
    Sample.waitingChurch.directory.administrator 0 = some Sample.ada ∧
      Sample.waitingEntry 0 ∈ backlog Sample.waitingChurch 0 ∧
      Refused Sample.waitingChurch.directory Sample.ada (Sample.waitingEntry 0) ∧
      ¬Refused (accountStep Sample.waitingChurch
        (Sample.visit 0, .adminAccess 1 ⟨1, [1]⟩)).directory Sample.ada
          (Sample.waitingEntry 0) :=
  ⟨rfl, by decide, by decide, by decide⟩

end VolunteerScreening
