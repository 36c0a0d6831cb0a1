import VolunteerScreening.Accounts.Gates

/-!
# Where the redirects lead

Following redirects at a church ends at an answer, except for an account without
a passkey while the church's key is not backed up: each gate sends it to a page
that the other one holds.  What both gates exempt still answers it, but for the
sign-in page, which sends it on.
-/

namespace VolunteerScreening.Accounts

def visit (others : String → Option Declaration) (schema : GatedSchema) (session : Option Pk)
    (path : String) : GateResponse :=
  (respond others schema ⟨session, path, false, false, ""⟩).2

/-- The answer after so many redirects at most. -/
def follow (others : String → Option Declaration) (schema : GatedSchema) (session : Option Pk) :
    Nat → String → GateResponse
  | 0, path => visit others schema session path
  | count + 1, path =>
      match visit others schema session path with
      | .redirect onward => follow others schema session count onward
      | response => response

/-- Following redirects comes to an end. -/
def Settles (others : String → Option Declaration) (schema : GatedSchema) (session : Option Pk)
    (path : String) : Prop :=
  ∃ count, ∀ onward, follow others schema session count path ≠ .redirect onward

/-- An account without a passkey, while the key is not backed up, at a page that one of the gates
holds or at the sign-in page, which sends whoever is signed in to such a page. -/
structure Trapped (schema : GatedSchema) (session : Option Pk) (path : String) : Prop where
  pending : schema.keyBackupPending = true
  unenrolled : ∃ pk, schema.user ⟨session, path, false, false, ""⟩ = some pk ∧
    schema.hasPasskey pk = false
  held : isExempt passkeyExempt path = true → isExempt keyBackupExempt path = true →
    path = loginUrl

section Following

variable {others : String → Option Declaration} {schema : GatedSchema} {session : Option Pk}
  {path : String}

theorem settles_of_answer {response : GateResponse}
    (answered : visit others schema session path = response)
    (final : ∀ onward, response ≠ .redirect onward) : Settles others schema session path :=
  ⟨0, by rwa [follow, answered]⟩

theorem settles_iff_of_redirect {onward : String}
    (sent : visit others schema session path = .redirect onward) :
    Settles others schema session path ↔ Settles others schema session onward := by
  constructor
  · rintro ⟨count, final⟩
    cases count with
    | zero => exact absurd sent (final onward)
    | succ count =>
        simp only [follow, sent] at final
        exact ⟨count, final⟩
  · rintro ⟨count, final⟩
    refine ⟨count + 1, ?_⟩
    simp only [follow, sent]
    exact final

/-- A trapped visitor is sent on to where they are trapped again. -/
theorem Trapped.onward (church : schema.isPublic = false) (trapped : Trapped schema session path) :
    ∃ onward, visit others schema session path = .redirect onward ∧
      Trapped schema session onward := by
  obtain ⟨pending, ⟨pk, user, unenrolled⟩, held⟩ := trapped
  unfold visit respond
  obtain ⟨_, _, _, _, sent⟩ | ⟨enrolled, passed⟩ :=
    forcePasskey_cases (forceKeyBackup (dispatch others)) schema ⟨session, path, false, false, ""⟩
  · rw [sent]
    exact ⟨passkeyRequiredUrl, rfl, pending, ⟨pk, user, unenrolled⟩, by decide⟩
  · rw [passed]
    have exempt : isExempt passkeyExempt path = true :=
      (enrolled pk user).resolve_right (by simp [unenrolled])
    obtain ⟨_, _, _, _, sent⟩ | ⟨backedUp, passed⟩ :=
      forceKeyBackup_cases (dispatch others) schema ⟨session, path, false, false, ""⟩
    · rw [sent]
      exact ⟨keyBackupUrl, rfl, pending, ⟨pk, user, unenrolled⟩, by decide⟩
    · rw [passed]
      obtain isPublic | confirmed | nobody | exempt' := backedUp
      · exact absurd (church.symm.trans isPublic) Bool.false_ne_true
      · exact absurd (confirmed.symm.trans pending) Bool.false_ne_true
      · exact absurd (user.symm.trans nobody) (Option.some_ne_none pk)
      · obtain rfl := held exempt exempt'
        refine ⟨loginRedirectUrl, ?_, pending, ⟨pk, user, unenrolled⟩, by decide⟩
        simp [dispatch, resolveView, accessGate, loginView, publicView, church, user]

theorem Trapped.not_settles (church : schema.isPublic = false)
    (trapped : Trapped schema session path) : ¬Settles others schema session path := by
  rintro ⟨count, final⟩
  induction count generalizing path with
  | zero =>
      obtain ⟨onward, sent, _⟩ := @Trapped.onward others _ _ _ church trapped
      exact final onward sent
  | succ count inductionHypothesis =>
      obtain ⟨onward, sent, again⟩ := @Trapped.onward others _ _ _ church trapped
      simp only [follow, sent] at final
      exact inductionHypothesis again final

/-- A visitor who passes both gates is answered by the view at the path. -/
theorem visit_of_passes
    (enrolled : ∀ pk, schema.user ⟨session, path, false, false, ""⟩ = some pk →
      isExempt passkeyExempt path = true ∨ schema.hasPasskey pk = true)
    (backedUp : schema.keyBackupPending = true →
      schema.user ⟨session, path, false, false, ""⟩ = none ∨ isExempt keyBackupExempt path = true) :
    visit others schema session path =
      (dispatch others schema ⟨session, path, false, false, ""⟩).2 := by
  unfold visit respond
  obtain ⟨pk, user, lacking, wanted, _⟩ | ⟨_, passed⟩ :=
    forcePasskey_cases (forceKeyBackup (dispatch others)) schema ⟨session, path, false, false, ""⟩
  · rcases enrolled pk user with exempt | held
    · exact absurd (wanted.symm.trans exempt) Bool.false_ne_true
    · exact absurd (lacking.symm.trans held) Bool.false_ne_true
  · rw [passed]
    obtain ⟨_, pending, signedIn, wanted, _⟩ | ⟨_, passed⟩ :=
      forceKeyBackup_cases (dispatch others) schema ⟨session, path, false, false, ""⟩
    · rcases backedUp pending with nobody | exempt
      · rw [nobody] at signedIn
        cases signedIn
      · exact absurd (wanted.symm.trans exempt) Bool.false_ne_true
    · rw [passed]

theorem loginRequired_signedIn {body : ViewBody} {request : GateRequest} {pk : Pk}
    (user : schema.user request = some pk) :
    loginRequired body schema request = body schema request := by
  rw [loginRequired, user]
  rfl

theorem requires_answers {capabilities : List Capability} {anyOf : Bool} {body : ViewBody}
    {request : GateRequest} {pk : Pk} (user : schema.user request = some pk)
    (answers : ∀ onward, (body schema request).2 ≠ .redirect onward) (onward : String) :
    ((requires capabilities anyOf body).body schema request).2 ≠ .redirect onward := by
  dsimp only [requires]
  rw [loginRequired_signedIn user]
  split
  · exact answers onward
  · exact nofun

theorem accessGate_answers {view : View} {request : GateRequest}
    (answers : ∀ onward, (view.body schema request).2 ≠ .redirect onward) (onward : String) :
    (accessGate view schema request).2 ≠ .redirect onward := by
  obtain refused | ⟨_, reached⟩ := accessGate_cases view schema request
  · rw [refused]
    exact nofun
  · rw [reached]
    exact answers onward

theorem others_answer {pk : Pk}
    (user : schema.user ⟨session, path, false, false, ""⟩ = some pk) (notLogin : path ≠ loginUrl)
    (notWall : path ≠ passkeyRequiredUrl) (notBackup : path ≠ keyBackupUrl) (onward : String) :
    (dispatch others schema ⟨session, path, false, false, ""⟩).2 ≠ .redirect onward := by
  by_cases download : path = keyBackupDownloadUrl
  · simp only [dispatch, resolveView, if_neg notLogin, if_neg notWall, if_neg notBackup,
      if_pos download]
    refine accessGate_answers (requires_answers user fun onward => ?_) onward
    split
    · exact nofun
    · exact nofun
  · simp only [dispatch, resolveView, if_neg notLogin, if_neg notWall, if_neg notBackup,
      if_neg download]
    cases others path with
    | none => exact nofun
    | some declaration =>
        refine accessGate_answers (fun onward => ?_) onward
        cases declaration with
        | undeclared => exact nofun
        | publicly => exact nofun
        | signedIn =>
            dsimp only [Declaration.view, openToAnySignedInUser]
            rw [loginRequired_signedIn user]
            exact nofun
        | holding capabilities anyOf =>
            exact requires_answers user (fun _ sent => by cases sent) onward

theorem loginRequired_nobody {body : ViewBody} {request : GateRequest}
    (nobody : schema.user request = none) :
    loginRequired body schema request = (schema, .redirect loginUrl) := by
  rw [loginRequired, nobody]
  rfl

theorem nobody_answered {request : GateRequest} (nobody : schema.user request = none)
    (onward : String) (sent : (dispatch others schema request).2 = .redirect onward) :
    onward = loginUrl := by
  have gated : ∀ {view : View}, (∃ body, view.body = loginRequired body) →
      (accessGate view schema request).2 = .redirect onward → onward = loginUrl := by
    rintro view ⟨body, isGated⟩ sent
    obtain refused | ⟨_, reached⟩ := accessGate_cases view schema request
    · rw [refused] at sent
      cases sent
    · rw [reached, isGated, loginRequired_nobody nobody] at sent
      cases sent
      rfl
  have plain : ∀ {view : View} (response : GateResponse),
      view.body schema request = (schema, response) → (∀ onward, response ≠ .redirect onward) →
      (accessGate view schema request).2 ≠ .redirect onward := by
    intro view response answered final
    refine accessGate_answers (fun onward => ?_) onward
    rw [answered]
    exact final onward
  dsimp only [dispatch] at sent
  split at sent
  · cases sent
  · next view resolved =>
      unfold resolveView at resolved
      split at resolved
      · cases resolved
        refine absurd sent (plain (.page none) ?_ nofun)
        simp [loginView, publicView, nobody]
      · split at resolved
        · cases resolved
          exact gated ⟨_, rfl⟩ sent
        · split at resolved
          · cases resolved
            exact gated ⟨_, rfl⟩ sent
          · split at resolved
            · cases resolved
              exact gated ⟨_, rfl⟩ sent
            · obtain ⟨declaration, _, rfl⟩ := Option.map_eq_some_iff.mp resolved
              cases declaration with
              | undeclared => exact absurd sent (plain .own rfl nofun)
              | publicly => exact absurd sent (plain .own rfl nofun)
              | signedIn => exact gated ⟨_, rfl⟩ sent
              | holding capabilities anyOf => exact gated ⟨_, rfl⟩ sent

theorem settles_of_nobody (church : schema.isPublic = false)
    (nobody : schema.user ⟨session, path, false, false, ""⟩ = none) :
    Settles others schema session path := by
  have answered : ∀ path, visit others schema session path =
      (dispatch others schema ⟨session, path, false, false, ""⟩).2 := fun path =>
    visit_of_passes (fun pk user => absurd (user.symm.trans nobody) (Option.some_ne_none pk))
      fun _ => .inl nobody
  have signIn : Settles others schema session loginUrl := by
    refine settles_of_answer (answered loginUrl) ?_
    have page : dispatch others schema ⟨session, loginUrl, false, false, ""⟩ =
        (schema, .page none) := by
      have nobody' : schema.user ⟨session, loginUrl, false, false, ""⟩ = none := nobody
      simp [dispatch, resolveView, accessGate, loginView, publicView, church, nobody']
    rw [page]
    exact nofun
  cases response : (dispatch others schema ⟨session, path, false, false, ""⟩).2 with
  | redirect onward =>
      have there := nobody_answered nobody onward response
      subst there
      exact (settles_iff_of_redirect ((answered path).trans response)).mpr signIn
  | own => exact settles_of_answer ((answered path).trans response) nofun
  | page key => exact settles_of_answer ((answered path).trans response) nofun
  | forbidden => exact settles_of_answer ((answered path).trans response) nofun
  | notFound => exact settles_of_answer ((answered path).trans response) nofun

theorem settles_at_enrolment (church : schema.isPublic = false) {pk : Pk}
    (user : schema.user ⟨session, path, false, false, ""⟩ = some pk)
    (unenrolled : schema.hasPasskey pk = false) (backedUp : schema.keyBackupPending = false) :
    Settles others schema session passkeyRequiredUrl := by
  have user' : schema.user ⟨session, passkeyRequiredUrl, false, false, ""⟩ = some pk := user
  have page : dispatch others schema ⟨session, passkeyRequiredUrl, false, false, ""⟩ =
      (schema, .page none) := by
    simp [dispatch, resolveView, accessGate, passkeyRequired, openToAnySignedInUser,
      loginRequired, church, user', unenrolled, (by decide : passkeyRequiredUrl ≠ loginUrl)]
  refine settles_of_answer (visit_of_passes (fun _ _ => .inl (by decide)) fun pending => ?_) ?_
  · exact absurd (backedUp.symm.trans pending) Bool.false_ne_true
  · rw [page]
    exact nofun

theorem settles_at_backup (church : schema.isPublic = false) {pk : Pk}
    (user : schema.user ⟨session, path, false, false, ""⟩ = some pk)
    (enrolled : schema.hasPasskey pk = true) (pending : schema.keyBackupPending = true) :
    Settles others schema session keyBackupUrl := by
  have user' : schema.user ⟨session, keyBackupUrl, false, false, ""⟩ = some pk := user
  have page : ∃ key, dispatch others schema ⟨session, keyBackupUrl, false, false, ""⟩ =
      (schema, .page key) := by
    refine ⟨if schema.hasCapability (some pk) .manageUsers then some schema.dekB64 else none, ?_⟩
    simp [dispatch, resolveView, accessGate, keyBackup, openToAnySignedInUser, loginRequired,
      church, user', pending, (by decide : keyBackupUrl ≠ loginUrl),
      (by decide : keyBackupUrl ≠ passkeyRequiredUrl)]
  obtain ⟨key, page⟩ := page
  refine settles_of_answer (visit_of_passes (fun other same => ?_) fun _ => .inr (by decide)) ?_
  · cases user'.symm.trans same
    exact .inr enrolled
  · rw [page]
    exact nofun

/-- A gate that holds the visitor sends them where they are let in, and where none does the view
decides. -/
theorem settles_of_view (church : schema.isPublic = false) {pk : Pk}
    (user : schema.user ⟨session, path, false, false, ""⟩ = some pk)
    (free : schema.hasPasskey pk = true ∨ schema.keyBackupPending = false)
    (sentOn : ∀ onward,
      (dispatch others schema ⟨session, path, false, false, ""⟩).2 = .redirect onward →
      Settles others schema session onward) :
    Settles others schema session path := by
  obtain ⟨other, same, unenrolled, _, held⟩ | ⟨_, passed⟩ :=
    forcePasskey_cases (forceKeyBackup (dispatch others)) schema ⟨session, path, false, false, ""⟩
  · cases user.symm.trans same
    have backedUp := free.resolve_left (by simp [unenrolled])
    exact (settles_iff_of_redirect (congrArg Prod.snd held)).mpr
      (settles_at_enrolment church user unenrolled backedUp)
  · obtain ⟨_, pending, _, _, held⟩ | ⟨_, passed'⟩ :=
      forceKeyBackup_cases (dispatch others) schema ⟨session, path, false, false, ""⟩
    · have enrolled := free.resolve_right (by simp [pending])
      exact (settles_iff_of_redirect (congrArg Prod.snd (passed.trans held))).mpr
        (settles_at_backup church user enrolled pending)
    · have answered : visit others schema session path =
          (dispatch others schema ⟨session, path, false, false, ""⟩).2 :=
        congrArg Prod.snd (passed.trans passed')
      cases response : (dispatch others schema ⟨session, path, false, false, ""⟩).2 with
      | redirect onward =>
          exact (settles_iff_of_redirect (answered.trans response)).mpr (sentOn onward response)
      | own => exact settles_of_answer (answered.trans response) nofun
      | page key => exact settles_of_answer (answered.trans response) nofun
      | forbidden => exact settles_of_answer (answered.trans response) nofun
      | notFound => exact settles_of_answer (answered.trans response) nofun

/-- The sign-in page and the walls send whoever is signed in nowhere but home. -/
theorem sent_home (church : schema.isPublic = false) {pk : Pk}
    (user : schema.user ⟨session, path, false, false, ""⟩ = some pk) {onward : String}
    (sent : (dispatch others schema ⟨session, path, false, false, ""⟩).2 = .redirect onward) :
    onward = loginRedirectUrl := by
  by_cases login : path = loginUrl
  · subst login
    simp [dispatch, resolveView, accessGate, loginView, publicView, church, user] at sent
    exact sent.symm
  · by_cases wall : path = passkeyRequiredUrl
    · subst wall
      simp only [dispatch, resolveView, if_neg login, if_true, accessGate, passkeyRequired,
        openToAnySignedInUser, church] at sent
      rw [loginRequired_signedIn user, user] at sent
      cases enrolled : schema.hasPasskey pk <;> simp [enrolled] at sent
      exact sent.symm
    · by_cases backup : path = keyBackupUrl
      · subst backup
        simp only [dispatch, resolveView, if_neg login, if_neg wall, if_true, accessGate, keyBackup,
          openToAnySignedInUser, church] at sent
        rw [loginRequired_signedIn user] at sent
        cases pending : schema.keyBackupPending <;> simp [church, pending] at sent
        exact sent.symm
      · exact absurd sent (others_answer user login wall backup onward)

theorem settles_of_signedIn (church : schema.isPublic = false) {pk : Pk}
    (user : schema.user ⟨session, path, false, false, ""⟩ = some pk)
    (free : schema.hasPasskey pk = true ∨ schema.keyBackupPending = false) :
    Settles others schema session path := by
  have home : Settles others schema session loginRedirectUrl := by
    have user' : schema.user ⟨session, loginRedirectUrl, false, false, ""⟩ = some pk := user
    refine settles_of_view church user' free fun onward sent => ?_
    exact absurd sent (others_answer user' (by decide) (by decide) (by decide) onward)
  refine settles_of_view church user free fun onward sent => ?_
  rw [sent_home church user sent]
  exact home

/-- Following redirects at a church ends at an answer exactly for the visitors who are not trapped.
-/
theorem redirects_settle_iff (others : String → Option Declaration) {schema : GatedSchema}
    (church : schema.isPublic = false) (session : Option Pk) (path : String) :
    Settles others schema session path ↔ ¬Trapped schema session path := by
  constructor
  · intro settles trapped
    exact trapped.not_settles church settles
  · intro notTrapped
    cases user : schema.user ⟨session, path, false, false, ""⟩ with
    | none => exact settles_of_nobody church user
    | some pk =>
        by_cases free : schema.hasPasskey pk = true ∨ schema.keyBackupPending = false
        · exact settles_of_signedIn church user free
        · rw [not_or, Bool.not_eq_true, Bool.not_eq_false] at free
          obtain ⟨unenrolled, pending⟩ := free
          -- Both gates hold this visitor, so they stay only where neither looks.
          have exempt : isExempt passkeyExempt path = true ∧ isExempt keyBackupExempt path = true ∧
              path ≠ loginUrl := by
            by_contra other
            refine notTrapped ⟨pending, ⟨pk, user, unenrolled⟩, fun first second => ?_⟩
            by_contra elsewhere
            exact other ⟨first, second, elsewhere⟩
          obtain ⟨first, second, elsewhere⟩ := exempt
          refine settles_of_answer (visit_of_passes (fun _ _ => .inl first) fun _ => .inr second)
            (others_answer user elsewhere ?_ ?_)
          · rintro rfl
            exact absurd second (by decide)
          · rintro rfl
            exact absurd first (by decide)

end Following

namespace SampleGates

/-- A church on its first day: its one administrator has just spent the link that let her in. -/
def firstDay : GatedSchema where
  isPublic := false
  directory := ⟨[⟨"Ada", "", "ada@grace.example", true, none⟩], [], by
    intro pk user grant found granted
    obtain ⟨within, rfl⟩ := List.getElem?_eq_some_iff.mp found
    obtain rfl : pk = 0 := by simpa using within
    cases granted⟩
  hasPasskey _ := false
  dekB64 := "a2V5"
  dekFingerprint := "0123456789abcdef"
  keyBackupConfirmedBy := none

end SampleGates

/-- She is sent to and fro from wherever she goes, and a visitor who is not signed in is not. -/
theorem redirects_settle_iff_firstDay :
    ¬Settles (fun _ => none) SampleGates.firstDay (some 0) "/" ∧
      Settles (fun _ => none) SampleGates.firstDay none "/" := by
  constructor
  · rw [redirects_settle_iff _ rfl, not_not]
    exact ⟨by decide, ⟨0, by decide, rfl⟩, fun exempt => absurd exempt (by decide)⟩
  · rw [redirects_settle_iff _ rfl]
    rintro ⟨_, ⟨pk, signedIn, _⟩, _⟩
    exact absurd signedIn (by simp [GatedSchema.user])

end VolunteerScreening.Accounts
