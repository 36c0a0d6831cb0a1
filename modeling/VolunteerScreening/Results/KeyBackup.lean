import VolunteerScreening.Accounts.Gates
import VolunteerScreening.Library.Machine

/-!
# Until a church's key is backed up

Over any run of requests to a new church, while its accounts, passkeys and key
change in any way, nobody is shown the key but those who run the church, nobody
signed in is served anything but the exempt pages until one of them has
confirmed that they have it, and no view is served to anybody it does not
declare.
-/

namespace VolunteerScreening.Accounts

/-- A request that was answered, and the schema as it found it. -/
structure Exchange where
  schema : GatedSchema
  request : GateRequest
  response : GateResponse

/-- The schema as it is, and every request so far. -/
structure GateHistory where
  schema : GatedSchema
  log : List Exchange

inductive GateEvent where
  | request (request : GateRequest)
  | accounts (directory : Directory) (hasPasskey : Pk → Bool)
  | rekey (dekB64 dekFingerprint : String)

namespace GateHistory

variable (others : String → Option Declaration) (history : GateHistory)

def step : GateEvent → GateHistory
  | .request request =>
      ⟨(respond others history.schema request).1,
        history.log ++ [⟨history.schema, request, (respond others history.schema request).2⟩]⟩
  | .accounts directory hasPasskey =>
      { history with
        schema := { history.schema with directory := directory, hasPasskey := hasPasskey } }
  | .rekey dekB64 dekFingerprint =>
      { history with
        schema := { history.schema with dekB64 := dekB64, dekFingerprint := dekFingerprint } }

def start (directory : Directory) (dekB64 dekFingerprint : String) : GateHistory :=
  ⟨⟨false, directory, fun _ => false, dekB64, dekFingerprint, none⟩, []⟩

end GateHistory

/-! ## What is promised -/

/-- Somebody who runs the church and has a passkey. -/
def GatedSchema.MayHoldTheKey (schema : GatedSchema) (request : GateRequest) : Prop :=
  ∃ pk, schema.user request = some pk ∧ schema.hasPasskey pk = true ∧
    schema.hasCapability (some pk) .manageUsers = true

/-- What a view's decorator asks of whoever is served. -/
inductive View.Admits (schema : GatedSchema) (request : GateRequest) : View → Prop
  | publicly (body : ViewBody) : Admits schema request (publicView body)
  | signedIn (body : ViewBody) (pk : Pk) (user : schema.user request = some pk) :
      Admits schema request (openToAnySignedInUser body)
  | holding (capabilities : List Capability) (anyOf : Bool) (body : ViewBody) (pk : Pk)
      (user : schema.user request = some pk)
      (held : if anyOf then ∃ capability ∈ capabilities, schema.hasCapability (some pk) capability
        else ∀ capability ∈ capabilities, schema.hasCapability (some pk) capability) :
      Admits schema request (requires capabilities anyOf body)

/-- A confirmation: whoever runs the church says that they have the key, and knows how its
fingerprint ends. -/
structure Exchange.Confirms (exchange : Exchange) : Prop where
  path : exchange.request.path = keyBackupUrl
  posted : exchange.request.isPost = true
  confirmed : exchange.request.confirmed = true
  known : fingerprintMatches exchange.schema.dekFingerprint exchange.request.fingerprintCheck = true
  mayHold : exchange.schema.MayHoldTheKey exchange.request

/-- What holds of one exchange, given those before it. -/
structure Exchange.Lawful (others : String → Option Declaration) (before : List Exchange)
    (exchange : Exchange) : Prop where
  keyShown : ∀ key, exchange.response = .page (some key) →
    key = exchange.schema.dekB64 ∧ exchange.schema.MayHoldTheKey exchange.request
  admitted : exchange.response.isServed = true →
    ∃ view, resolveView others exchange.request.path = some view ∧
      view.Admits exchange.schema exchange.request
  enrolled : exchange.response.isServed = true → exchange.schema.PassesPasskey exchange.request
  backedUp : exchange.response.isServed = true → (exchange.schema.user exchange.request).isSome →
    isExempt keyBackupExempt exchange.request.path = false → ∃ earlier ∈ before, earlier.Confirms

/-- Every exchange is lawful, and the key counts as backed up only once somebody has confirmed it.
-/
structure GateHistory.Lawful (others : String → Option Declaration) (history : GateHistory) :
    Prop where
  exchanges : ∀ before exchange after, history.log = before ++ exchange :: after →
    exchange.Lawful others before
  confirmed : history.schema.keyBackupPending = false → ∃ exchange ∈ history.log, exchange.Confirms

/-! ## One request -/

section Request

variable {others : String → Option Declaration} {schema : GatedSchema} {request : GateRequest}

theorem requires_admits {capabilities : List Capability} {anyOf : Bool} {body : ViewBody}
    (served : ((requires capabilities anyOf body).body schema request).2.isServed = true) :
    (requires capabilities anyOf body).Admits schema request := by
  obtain redirected | ⟨pk, user, reached⟩ := loginRequired_cases
    (fun schema request =>
      if schema.holds (schema.user request) capabilities anyOf then body schema request
      else (schema, .forbidden)) schema request
  · dsimp only [requires] at served
    rw [redirected] at served
    cases served
  · dsimp only [requires] at served
    rw [reached, user] at served
    by_cases held : schema.holds (some pk) capabilities anyOf = true
    · exact .holding capabilities anyOf body pk user (schema.holds_iff.mp held)
    · rw [if_neg held] at served
      cases served

theorem openToAnySignedInUser_admits {body : ViewBody}
    (served : ((openToAnySignedInUser body).body schema request).2.isServed = true) :
    (openToAnySignedInUser body).Admits schema request := by
  obtain redirected | ⟨pk, user, _⟩ := loginRequired_cases body schema request
  · dsimp only [openToAnySignedInUser] at served
    rw [redirected] at served
    cases served
  · exact .signedIn body pk user

theorem admits_of_served {view : View} {path : String} (church : schema.isPublic = false)
    (resolved : resolveView others path = some view)
    (served : (accessGate view schema request).2.isServed = true) :
    view.Admits schema request := by
  obtain refused | ⟨declared, reached⟩ := accessGate_cases view schema request
  · rw [refused] at served
    cases served
  · rw [reached] at served
    unfold resolveView at resolved
    split at resolved
    · cases resolved
      exact .publicly _
    · split at resolved
      · cases resolved
        exact openToAnySignedInUser_admits served
      · split at resolved
        · cases resolved
          exact openToAnySignedInUser_admits served
        · split at resolved
          · cases resolved
            exact requires_admits served
          · obtain ⟨declaration, _, rfl⟩ := Option.map_eq_some_iff.mp resolved
            cases declaration with
            | undeclared => simp [Declaration.view, undeclaredView, church] at declared
            | publicly => exact .publicly _
            | signedIn => exact openToAnySignedInUser_admits served
            | holding capabilities anyOf => exact requires_admits served

/-- Somebody who runs the church, at a page that wants a passkey. -/
def GatedSchema.Trusted (schema : GatedSchema) (request : GateRequest) : Prop :=
  isExempt passkeyExempt request.path = false ∧
    ∃ pk, schema.user request = some pk ∧ schema.hasCapability (some pk) .manageUsers = true

def Quiet (schema : GatedSchema) (request : GateRequest) (outcome : GatedSchema × GateResponse) :
    Prop :=
  outcome.1 = schema ∧ ∀ key, outcome.2 = .page (some key) →
    key = schema.dekB64 ∧ schema.Trusted request

def Confirming (schema : GatedSchema) (request : GateRequest)
    (outcome : GatedSchema × GateResponse) : Prop :=
  (∃ name, outcome =
      ({ schema with keyBackupConfirmedBy := some name }, .redirect loginRedirectUrl)) ∧
    request.path = keyBackupUrl ∧ request.isPost = true ∧ request.confirmed = true ∧
    fingerprintMatches schema.dekFingerprint request.fingerprintCheck = true ∧
    schema.Trusted request

theorem quiet_of_keyless {response : GateResponse} (keyless : ∀ key, response ≠ .page (some key)) :
    Quiet schema request (schema, response) :=
  ⟨rfl, fun key shown => absurd shown (keyless key)⟩

theorem keyBackup_cases (here : request.path = keyBackupUrl) :
    Quiet schema request (keyBackup.body schema request) ∨
      Confirming schema request (keyBackup.body schema request) := by
  have wanted : isExempt passkeyExempt request.path = false := by
    rw [here]
    decide
  dsimp only [keyBackup, openToAnySignedInUser, loginRequired]
  cases user : schema.user request with
  | none => exact .inl (quiet_of_keyless nofun)
  | some pk =>
      simp only [Option.isSome_some, if_true]
      split
      · exact .inl (quiet_of_keyless nofun)
      · split
        · exact .inl (quiet_of_keyless nofun)
        · cases mayHold : schema.hasCapability (some pk) .manageUsers with
          | false =>
              split
              · exact .inl (quiet_of_keyless nofun)
              · split
                · next notPosted accepted => simp_all
                · exact .inl (quiet_of_keyless nofun)
          | true =>
              have trusted : schema.Trusted request := ⟨wanted, pk, user, mayHold⟩
              simp only [Bool.not_true, Bool.and_false, Bool.false_eq_true, if_false, if_true]
              split
              · next accepted =>
                  simp only [Bool.and_eq_true] at accepted
                  exact .inr ⟨⟨_, rfl⟩, here, accepted.1.1, accepted.1.2, accepted.2, trusted⟩
              · refine .inl ⟨rfl, ?_⟩
                rintro _ ⟨⟩
                exact ⟨rfl, trusted⟩

theorem keyBackupDownload_quiet (here : request.path = keyBackupDownloadUrl) :
    Quiet schema request (keyBackupDownload.body schema request) := by
  have wanted : isExempt passkeyExempt request.path = false := by
    rw [here]
    decide
  dsimp only [keyBackupDownload, requires, loginRequired]
  cases user : schema.user request with
  | none => exact quiet_of_keyless fun key shown => by cases shown
  | some pk =>
      simp only [Option.isSome_some, if_true]
      split
      · next held =>
          have mayHold : schema.hasCapability (some pk) .manageUsers = true := by
            simpa [GatedSchema.holds] using held
          split
          · exact quiet_of_keyless fun key shown => by cases shown
          · refine ⟨rfl, ?_⟩
            rintro _ ⟨⟩
            exact ⟨rfl, wanted, pk, user, mayHold⟩
      · exact quiet_of_keyless fun key shown => by cases shown

theorem keyless_quiet {body : ViewBody}
    (plain : ∀ schema request, (body schema request).1 = schema ∧
      ∀ key, (body schema request).2 ≠ .page (some key)) :
    Quiet schema request (body schema request) ∧
      Quiet schema request (loginRequired body schema request) := by
  obtain ⟨same, keyless⟩ := plain schema request
  have quiet : Quiet schema request (body schema request) :=
    ⟨same, fun key shown => absurd shown (keyless key)⟩
  refine ⟨quiet, ?_⟩
  obtain redirected | ⟨_, _, reached⟩ := loginRequired_cases body schema request
  · rw [redirected]
    exact quiet_of_keyless nofun
  · rw [reached]
    exact quiet

theorem declaration_quiet (declaration : Declaration) :
    Quiet schema request (declaration.view.body schema request) := by
  cases declaration with
  | undeclared => exact quiet_of_keyless nofun
  | publicly => exact quiet_of_keyless nofun
  | signedIn =>
      have plain : ∀ (schema : GatedSchema) (request : GateRequest) (key : String),
          ((schema, GateResponse.own) : GatedSchema × GateResponse).2 ≠ .page (some key) := nofun
      exact (keyless_quiet fun schema request => ⟨rfl, plain schema request⟩).2
  | holding capabilities anyOf =>
      refine (keyless_quiet fun schema request => ?_).2
      split
      · exact ⟨rfl, nofun⟩
      · exact ⟨rfl, nofun⟩

/-- What a view does, by the path it is at. -/
theorem view_cases {view : View} (resolved : resolveView others request.path = some view) :
    Quiet schema request (view.body schema request) ∨
      Confirming schema request (view.body schema request) := by
  unfold resolveView at resolved
  split at resolved
  · cases resolved
    refine .inl (keyless_quiet fun schema request => ?_).1
    dsimp only [loginView, publicView]
    split
    · exact ⟨rfl, nofun⟩
    · exact ⟨rfl, nofun⟩
  · split at resolved
    · cases resolved
      refine .inl (keyless_quiet fun schema request => ?_).2
      split
      · exact ⟨rfl, nofun⟩
      · exact ⟨rfl, nofun⟩
    · split at resolved
      · next here =>
          cases resolved
          exact keyBackup_cases here
      · split at resolved
        · next here =>
            cases resolved
            exact .inl (keyBackupDownload_quiet here)
        · obtain ⟨declaration, _, rfl⟩ := Option.map_eq_some_iff.mp resolved
          exact .inl (declaration_quiet declaration)

/-- What a request can come to at a church: it is turned away, it reaches a view which its decorator
has admitted it to, or it confirms the key's backup. -/
theorem respond_cases (others : String → Option Declaration) (church : schema.isPublic = false) :
    (∃ response, respond others schema request = (schema, response) ∧
        response.isServed = false) ∨
      schema.PassesPasskey request ∧ schema.PassesKeyBackup request ∧
        (Quiet schema request (respond others schema request) ∧
            (∃ view, resolveView others request.path = some view ∧
              view.Admits schema request) ∨
          Confirming schema request (respond others schema request)) := by
  unfold respond
  obtain ⟨_, _, _, _, held⟩ | ⟨enrolled, passed⟩ :=
    forcePasskey_cases (forceKeyBackup (dispatch others)) schema request
  · exact .inl ⟨_, held, rfl⟩
  · rw [passed]
    obtain ⟨_, _, _, _, held⟩ | ⟨backedUp, passed⟩ :=
      forceKeyBackup_cases (dispatch others) schema request
    · exact .inl ⟨_, held, rfl⟩
    · rw [passed, dispatch]
      cases resolved : resolveView others request.path with
      | none => exact .inl ⟨_, rfl, rfl⟩
      | some view =>
          dsimp only
          have admitted := @admits_of_served others schema request view _ church resolved
          obtain refused | ⟨_, reached⟩ := accessGate_cases view schema request
          · exact .inl ⟨_, refused, rfl⟩
          · rw [reached] at admitted ⊢
            obtain quiet | confirming := @view_cases others schema request view resolved
            · cases served : (view.body schema request).2.isServed with
              | false => exact .inl ⟨_, Prod.ext quiet.1 rfl, served⟩
              | true =>
                  exact .inr ⟨enrolled, backedUp, .inl ⟨quiet, view, rfl, admitted served⟩⟩
            · exact .inr ⟨enrolled, backedUp, .inr confirming⟩

end Request

/-! ## Runs -/

section Keeping

variable {others : String → Option Declaration} {history : GateHistory}

theorem GatedSchema.Trusted.mayHold {schema : GatedSchema} {request : GateRequest}
    (trusted : schema.Trusted request) (enrolled : schema.PassesPasskey request) :
    schema.MayHoldTheKey request := by
  obtain ⟨wanted, pk, user, manages⟩ := trusted
  refine ⟨pk, user, (enrolled pk user).resolve_left ?_, manages⟩
  rw [wanted]
  exact Bool.false_ne_true

/-- The exchange that a request adds is lawful, and so is the history with it. -/
theorem GateHistory.Lawful.request (church : history.schema.isPublic = false)
    (lawful : history.Lawful others) (request : GateRequest) :
    (history.step others (.request request)).Lawful others := by
  have cases_ := @respond_cases history.schema request others church
  dsimp only [GateHistory.step]
  generalize (respond others history.schema request) = outcome at cases_
  have new : Exchange.Lawful others history.log ⟨history.schema, request, outcome.2⟩ := by
    obtain ⟨response, rfl, unserved⟩ |
      ⟨enrolled, backedUp, ⟨quiet, view, resolved, admitted⟩ | confirming⟩ := cases_
    · refine ⟨?_, fun served => ?_, fun served => ?_, fun served => ?_⟩
      · rintro key rfl
        cases unserved
      · exact absurd (unserved.symm.trans served) Bool.false_ne_true
      · exact absurd (unserved.symm.trans served) Bool.false_ne_true
      · exact absurd (unserved.symm.trans served) Bool.false_ne_true
    · refine ⟨fun key shown => ?_, fun _ => ⟨view, resolved, admitted⟩, fun _ => enrolled,
        fun _ signedIn wanted => ?_⟩
      · obtain ⟨same, trusted⟩ := quiet.2 key shown
        exact ⟨same, trusted.mayHold enrolled⟩
      · obtain isPublic | confirmed | nobody | exempt := backedUp
        · exact absurd (church.symm.trans isPublic) Bool.false_ne_true
        · exact lawful.confirmed confirmed
        · dsimp only at signedIn
          rw [nobody] at signedIn
          cases signedIn
        · exact absurd (wanted.symm.trans exempt) Bool.false_ne_true
    · obtain ⟨⟨name, rfl⟩, _⟩ := confirming
      exact ⟨nofun, nofun, nofun, nofun⟩
  constructor
  · intro before exchange after split
    obtain rfl | ⟨earlier, last, rfl⟩ := List.eq_nil_or_concat after
    · obtain ⟨rfl, same⟩ := List.append_inj' split rfl
      cases same
      exact new
    · rw [List.concat_eq_append, ← List.cons_append, ← List.append_assoc] at split
      obtain ⟨same, _⟩ := List.append_inj' split rfl
      exact lawful.exchanges before exchange earlier same
  · intro confirmed
    obtain ⟨response, rfl, _⟩ | ⟨enrolled, _, ⟨quiet, _⟩ | confirming⟩ := cases_
    · obtain ⟨exchange, listed, confirms⟩ := lawful.confirmed confirmed
      exact ⟨exchange, List.mem_append_left _ listed, confirms⟩
    · dsimp only at confirmed
      rw [quiet.1] at confirmed
      obtain ⟨exchange, listed, confirms⟩ := lawful.confirmed confirmed
      exact ⟨exchange, List.mem_append_left _ listed, confirms⟩
    · obtain ⟨_, path, posted, stated, known, trusted⟩ := confirming
      exact ⟨_, List.mem_append_right _ (List.mem_singleton.mpr rfl), path, posted, stated, known,
        trusted.mayHold enrolled⟩

theorem respond_isPublic (church : history.schema.isPublic = false) (request : GateRequest) :
    (respond others history.schema request).1.isPublic = false := by
  obtain ⟨response, same, _⟩ | ⟨_, _, ⟨quiet, _⟩ | ⟨⟨name, same⟩, _⟩⟩ :=
    @respond_cases history.schema request others church
  · rw [same]
    exact church
  · rw [quiet.1]
    exact church
  · rw [same]
    exact church

theorem lawful_step (history : GateHistory) (event : GateEvent)
    (sound : history.schema.isPublic = false ∧ history.Lawful others) :
    (history.step others event).schema.isPublic = false ∧
      (history.step others event).Lawful others := by
  obtain ⟨church, lawful⟩ := sound
  cases event with
  | request request => exact ⟨respond_isPublic church request, lawful.request church request⟩
  | accounts directory hasPasskey => exact ⟨church, lawful.exchanges, lawful.confirmed⟩
  | rekey dekB64 dekFingerprint => exact ⟨church, lawful.exchanges, lawful.confirmed⟩

/-- Over any run from the day a church is set up: whoever is shown its key runs the church and has a
passkey, nobody signed in is served anything but the exempt pages before one of them has confirmed
that the key is backed up, nobody without a passkey is served anything but the pages that the
passkey gate exempts, and no view is served to anybody that it does not declare. -/
theorem gates_keep_their_law (others : String → Option Declaration) (directory : Directory)
    (dekB64 dekFingerprint : String) (events : List GateEvent) :
    Machine.Always (GateHistory.step others) (GateHistory.Lawful others)
      (GateHistory.start directory dekB64 dekFingerprint) events := by
  let fresh := GateHistory.start directory dekB64 dekFingerprint
  have untouched : fresh.Lawful others := by
    refine ⟨fun before exchange after split => ?_, nofun⟩
    exact absurd split.symm (List.append_ne_nil_of_right_ne_nil before (List.cons_ne_nil _ _))
  have sound := Machine.always_of_preserved (GateHistory.step others)
    (fun history => history.schema.isPublic = false ∧ history.Lawful others) lawful_step
    ⟨(rfl : fresh.schema.isPublic = false), untouched⟩ events
  exact sound.imp fun history kept => kept.2

end Keeping

end VolunteerScreening.Accounts
