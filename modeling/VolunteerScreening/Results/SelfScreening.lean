import VolunteerScreening.Screening

/-!
# Nobody decides their own screening

Every view that records something asks first whether the file is the visitor's
own.  The review decisions ask only who recorded the entry, so an administrator
decides what others recorded about them.
-/

namespace VolunteerScreening

open Accounts Fallible Org Requirements Review

/-- An administrator asking something about the file they are linked to. -/
structure AboutThemselves (church : Church) (call : Visit × Nat × FileRequest)
    (acting : Directory.Administrator) (file : VolunteerFile) : Prop where
  signedIn : church.directory.administrator call.1.user = some acting
  found : church.files[call.2.1]? = some file
  own : file.volunteer.userId = some acting.pk

/-- Whether an administrator is limited to departments, or somebody else sees the whole church. -/
def SomebodyElseDecides (church : Church) (acting : Directory.Administrator) : Prop :=
  acting.level.isScoped = true ∨
    church.directory.administration.anotherUnscopedAdminExists acting.pk = true

/-- A request about one's own file is refused while somebody else decides, and a request that is
refused leaves the church as it was. -/
def RefusesOwnFile (church : Church) (call : Visit × Nat × FileRequest) : Prop :=
  (∀ acting file, AboutThemselves church call acting file → SomebodyElseDecides church acting →
      ∃ refusal, church.screen call.1 call.2.1 call.2.2 = .error refusal) ∧
    ∀ refusal, church.screen call.1 call.2.1 call.2.2 = .error refusal →
      screenStep church call = church

/-- A church-wide administrator whose level and name let them decide entries. -/
def MayDecide (acting : Directory.Administrator) : Prop :=
  acting.level.isScoped = false ∧ acting.hasCapability .viewVolunteers = true ∧
    acting.user.displayName.length ≤ 150

/-- The open entry at a position of the queue, recorded by somebody else. -/
def OpenEntryByAnother (acting : Directory.Administrator) (file : VolunteerFile) (position : Nat)
    (item : ReviewItem) : Prop :=
  file.reviewItems[position]? = some item ∧ item.isOpen = true ∧
    item.recordedByUserId ≠ some acting.pk

def ReasonFits (reason : String) : Prop :=
  Text.strip reason ≠ "" ∧ (Text.strip reason).length ≤ 240

/-- Affirming an entry that somebody else recorded about oneself, or sending it back. -/
def DecidesAboutThemselves (catalogue : Catalogue) (acting : Directory.Administrator)
    (file : VolunteerFile) : FileRequest → Prop
  | .itemAffirm position => MayDecide acting ∧ ∃ item, OpenEntryByAnother acting file position item
  | .itemSendBack position reason =>
      MayDecide acting ∧ ReasonFits reason ∧
        ∃ item, OpenEntryByAnother acting file position item ∧ Undoable catalogue item file
  | _ => False

/-- No request of an administrator about themselves is such a decision while somebody else could
make it. -/
def LeavesItToOthers (church : Church) (call : Visit × Nat × FileRequest) : Prop :=
  ∀ acting file, AboutThemselves church call acting file → SomebodyElseDecides church acting →
    ¬DecidesAboutThemselves church.catalogue acting file call.2.2

section Deciding

variable {church : Church} {visit : Visit} {acting : Directory.Administrator}
  {file : VolunteerFile}

theorem isUnscoped_ambient (signedIn : church.directory.administrator visit.user = some acting) :
    (church.ambient visit acting).settings.administration.isUnscoped acting.account =
      !acting.level.isScoped :=
  Directory.isUnscoped_account signedIn

theorem not_writable_own (signedIn : church.directory.administrator visit.user = some acting)
    (own : file.volunteer.userId = some acting.pk) (others : SomebodyElseDecides church acting) :
    writableVolunteer (church.ambient visit acting) acting.account file ≠ .ok () := by
  intro writable
  obtain ⟨_, allowed⟩ := writableVolunteer_eq_ok_iff.mp writable
  refine mayRecordAgainst_own own ?_ allowed
  rw [isUnscoped_ambient signedIn]
  rcases others with narrow | another
  · exact .inl (by simp [narrow])
  · exact .inr another

theorem requireReviewer_own_iff
    (signedIn : church.directory.administrator visit.user = some acting)
    (others : SomebodyElseDecides church acting) {item : ReviewItem} :
    requireReviewer (church.ambient visit acting) acting.account item = .ok () ↔
      acting.level.isScoped = false ∧ item.isOpen = true ∧
        item.recordedByUserId ≠ some acting.pk := by
  rw [requireReviewer_eq_ok_iff, mayReview_eq_none_iff, isUnscoped_ambient signedIn,
    Bool.not_eq_true']
  constructor
  · rintro ⟨⟨wide, notBoth⟩, opened⟩
    refine ⟨wide, opened, ?_⟩
    intro mine
    apply notBoth
    refine ⟨mine, others.resolve_left ?_⟩
    rw [wide]
    exact Bool.false_ne_true
  · rintro ⟨wide, opened, byAnother⟩
    refine ⟨⟨wide, ?_⟩, opened⟩
    rintro ⟨mine, _⟩
    exact byAnother mine

theorem itemAffirm_own_iff (signedIn : church.directory.administrator visit.user = some acting)
    (others : SomebodyElseDecides church acting) {position : Nat} :
    (acting.hasCapability .viewVolunteers = true ∧
        ∃ work, itemAffirm position (church.ambient visit acting) acting file = .ok work) ↔
      DecidesAboutThemselves church.catalogue acting file (.itemAffirm position) := by
  unfold itemAffirm perform
  simp only [map_eq_ok_iff, affirm_eq_ok_iff, requireReviewer_own_iff signedIn others,
    Directory.Administrator.account_displayName]
  constructor
  · rintro ⟨granted, _, _, ⟨item, found, ⟨wide, opened, byAnother⟩, short, _⟩, _⟩
    exact ⟨⟨wide, granted, short⟩, item, found, opened, byAnother⟩
  · rintro ⟨⟨wide, granted, short⟩, item, found, opened, byAnother⟩
    exact ⟨granted, _, _, ⟨item, found, ⟨wide, opened, byAnother⟩, short, rfl⟩, rfl⟩

theorem itemSendBack_own_iff (signedIn : church.directory.administrator visit.user = some acting)
    (others : SomebodyElseDecides church acting) {position : Nat} {reason : String} :
    (acting.hasCapability .viewVolunteers = true ∧
        ∃ work, itemSendBack position reason (church.ambient visit acting) acting file = .ok work) ↔
      DecidesAboutThemselves church.catalogue acting file (.itemSendBack position reason) := by
  have sameName := acting.account_displayName
  unfold itemSendBack perform
  simp only [bind_eq_ok_iff, fetchItem_eq_ok_iff, refuseFor_eq_ok_iff, Errors.raise_eq_ok_iff,
    requiredText_eq_nil_iff, map_eq_ok_iff]
  constructor
  · rintro ⟨granted, work, item, found, _, _, _, fits, ⟨_, outcome⟩, decided, _⟩
    obtain ⟨other, reverted, foundOther, allowed, short, explained, undone, _⟩ :=
      sendBack_eq_ok_iff.mp decided
    obtain rfl := Option.some.inj (found.symm.trans foundOther)
    rw [sameName] at short
    obtain ⟨wide, opened, byAnother⟩ := (requireReviewer_own_iff signedIn others).mp allowed
    refine ⟨⟨wide, granted, short⟩, fits, item, ⟨found, opened, byAnother⟩, ?_⟩
    exact (revert_succeeds_iff explained).mp ⟨_, undone⟩
  · rintro ⟨⟨wide, granted, short⟩, fits, item, ⟨found, opened, byAnother⟩, undoable⟩
    rw [← sameName] at short
    have allowed := (requireReviewer_own_iff signedIn others).mpr ⟨wide, opened, byAnother⟩
    have explained := Text.isBlank_strip fits.1
    obtain ⟨⟨reverted, outcome⟩, undone⟩ :=
      (@revert_succeeds_iff (church.ambient visit acting) item _ (Work.start file) explained).mpr
        undoable
    have decided := sendBack_eq_ok_iff.mpr
      ⟨item, reverted, found, allowed, short, explained, undone, rfl⟩
    exact ⟨granted, _, item, found, (), (requireReviewer_eq_ok_iff.mp allowed).1, (), fits, _,
      decided, rfl⟩

end Deciding

/-- While somebody else decides, a request about one's own file goes through exactly when it is a
decision on an entry that somebody else recorded. -/
theorem screen_own_iff {church : Church} {visit : Visit} {volunteer : Nat}
    {request : FileRequest} {acting : Directory.Administrator} {file : VolunteerFile}
    (about : AboutThemselves church (visit, volunteer, request) acting file)
    (others : SomebodyElseDecides church acting) :
    (∃ after, church.screen visit volunteer request = .ok after) ↔
      DecidesAboutThemselves church.catalogue acting file request := by
  obtain ⟨signedIn, found, own⟩ := about
  dsimp only at signedIn found
  have viewed : (∃ after, church.screen visit volunteer request = .ok after) ↔
      acting.hasCapability request.capability = true ∧
        ∃ work, request.view (church.ambient visit acting) acting file = .ok work := by
    unfold Church.screen
    simp only [Church.onFile_eq_ok_iff, Church.requires_eq_ok_iff, signedIn, found,
      Option.some.injEq]
    constructor
    · rintro ⟨_, _, _, work, ⟨rfl, granted⟩, rfl, success, _⟩
      exact ⟨granted, work, success⟩
    · rintro ⟨granted, work, success⟩
      exact ⟨_, acting, file, work, ⟨rfl, granted⟩, rfl, success, rfl⟩
  rw [viewed]
  by_cases decision : request.isDecision = true
  · cases request with
    | itemAffirm position => exact itemAffirm_own_iff signedIn others
    | itemSendBack position reason => exact itemSendBack_own_iff signedIn others
    | _ => cases decision
  · constructor
    · rintro ⟨_, work, success⟩
      have writable := request.view_writable success (by simpa using decision)
      exact absurd writable (not_writable_own signedIn own others)
    · intro decides
      cases request with
      | itemAffirm position => exact absurd rfl decision
      | itemSendBack position reason => exact absurd rfl decision
      | _ => cases decides

/-- A request about one's own file is refused whenever somebody else decides, exactly when it is
not a decision on what somebody else recorded. -/
theorem own_screening_iff (church : Church) (call : Visit × Nat × FileRequest) :
    RefusesOwnFile church call ↔ LeavesItToOthers church call := by
  obtain ⟨visit, volunteer, request⟩ := call
  unfold RefusesOwnFile LeavesItToOthers
  constructor
  · rintro ⟨refused, _⟩ acting file about others decides
    obtain ⟨after, success⟩ := (screen_own_iff about others).mpr decides
    obtain ⟨refusal, failure⟩ := refused acting file about others
    cases success.symm.trans failure
  · intro leaves
    constructor
    · intro acting file about others
      cases result : church.screen visit volunteer request with
      | error refusal => exact ⟨refusal, rfl⟩
      | ok after =>
          have decides := (screen_own_iff about others).mp ⟨after, result⟩
          exact absurd decides (leaves acting file about others)
    · intro refusal failure
      exact Machine.attempt_error failure

namespace Sample

/-- A church with one file, of the first primary administrator: a coordinator recorded their check
as Not Clear, and the entry is waiting. -/
def ownFileChurch : Church :=
  church recordCheckOnly
    [{ VolunteerFile.opened { adult with userId := some 0, screeningBlock := .crcNotClear } with
        crcRecords := [⟨none, .notClear, january 5, true, false, some .pending, "", "", none⟩]
        reviewItems := [{ waitingEntry 2 with kind := .crc, entity := .crcRecord 0 }] }]

end Sample

/-- An administrator decides what a coordinator recorded about them, although another church-wide
administrator could: the send-back of their own Not Clear check lifts the block it set. -/
theorem own_screening_decided :
    ¬RefusesOwnFile Sample.ownFileChurch (Sample.visit 0, 0, .itemAffirm 0) ∧
      ¬RefusesOwnFile Sample.ownFileChurch (Sample.visit 0, 0, .itemSendBack 0 "A mistake") ∧
      ((screenStep Sample.ownFileChurch
          (Sample.visit 0, 0, .itemSendBack 0 "A mistake")).files[0]?).map
        (·.volunteer.screeningBlock) = some .none := by
  have others : SomebodyElseDecides Sample.ownFileChurch Sample.ada := .inr (by decide)
  refine ⟨?_, ?_, rfl⟩
  · rintro ⟨refused, _⟩
    obtain ⟨refusal, failure⟩ := refused Sample.ada _ ⟨rfl, rfl, rfl⟩ others
    cases failure
  · rintro ⟨refused, _⟩
    obtain ⟨refusal, failure⟩ := refused Sample.ada _ ⟨rfl, rfl, rfl⟩ others
    cases failure

end VolunteerScreening
