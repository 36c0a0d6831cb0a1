import VolunteerScreening.Accounts.Models

/-!
# What stands between a request and its view

A request passes the gate that wants a passkey, the one that wants the church's
key backed up and the one that refuses a view which does not say who may reach
it.  A view's decorator then asks what it said it would.
-/

namespace VolunteerScreening.Accounts

/-- What the gates and the walls they lead to know of one schema. -/
structure GatedSchema where
  isPublic : Bool
  directory : Directory
  hasPasskey : Pk → Bool
  dekB64 : String
  dekFingerprint : String
  keyBackupConfirmedBy : Option String

structure GateRequest where
  session : Option Pk
  path : String
  isPost : Bool
  confirmed : Bool
  fingerprintCheck : String
  deriving DecidableEq

/-- How a request is answered: by what a view has to say, on a page that may show the church's key,
or by sending the visitor elsewhere or away. -/
inductive GateResponse where
  | own
  | page (key : Option String)
  | redirect (path : String)
  | forbidden
  | notFound
  deriving DecidableEq

def GateResponse.isServed : GateResponse → Bool
  | .own | .page _ => true
  | _ => false

namespace GatedSchema

variable (schema : GatedSchema)

def keyBackupPending : Bool := schema.keyBackupConfirmedBy.isNone

/-- The account that a session opens.  An inactive account is nobody. -/
def user (request : GateRequest) : Option Pk :=
  request.session.filter fun pk => (schema.directory.users[pk]?).any (·.isActive)

def hasCapability (user : Option Pk) (capability : Capability) : Bool :=
  match user.bind schema.directory.administrator with
  | none => false
  | some acting => acting.hasCapability capability

def holds (user : Option Pk) (capabilities : List Capability) (anyOf : Bool) : Bool :=
  let held := capabilities.map (schema.hasCapability user)
  if anyOf then held.any id else held.all id

theorem holds_iff {user : Option Pk} {capabilities : List Capability} {anyOf : Bool} :
    schema.holds user capabilities anyOf = true ↔
      if anyOf then ∃ capability ∈ capabilities, schema.hasCapability user capability
      else ∀ capability ∈ capabilities, schema.hasCapability user capability := by
  cases anyOf <;> simp [holds]

end GatedSchema

/-! ## Views -/

def loginUrl : String := "/accounts/login/"
def loginRedirectUrl : String := "/"
def passkeyRequiredUrl : String := "/accounts/passkey-required/"
def keyBackupUrl : String := "/key-backup/"
def keyBackupDownloadUrl : String := "/key-backup/download/"
def staticUrl : String := "/static/"

abbrev ViewBody := GatedSchema → GateRequest → GatedSchema × GateResponse

structure View where
  vmsPublic : Bool
  vmsCapabilities : Option (List Capability)
  body : ViewBody

def loginRequired (body : ViewBody) : ViewBody := fun schema request =>
  if (schema.user request).isSome then body schema request else (schema, .redirect loginUrl)

def requires (capabilities : List Capability) (anyOf : Bool) (body : ViewBody) : View where
  vmsPublic := false
  vmsCapabilities := some capabilities
  body := loginRequired fun schema request =>
    if schema.holds (schema.user request) capabilities anyOf then body schema request
    else (schema, .forbidden)

def openToAnySignedInUser (body : ViewBody) : View := ⟨false, some [], loginRequired body⟩

def publicView (body : ViewBody) : View := ⟨true, none, body⟩

def undeclaredView (body : ViewBody) : View := ⟨false, none, body⟩

/-- What the other views of the site declare. -/
inductive Declaration where
  | undeclared
  | publicly
  | signedIn
  | holding (capabilities : List Capability) (anyOf : Bool)

def Declaration.view : Declaration → View
  | .undeclared => undeclaredView fun schema _ => (schema, .own)
  | .publicly => publicView fun schema _ => (schema, .own)
  | .signedIn => openToAnySignedInUser fun schema _ => (schema, .own)
  | .holding capabilities anyOf => requires capabilities anyOf fun schema _ => (schema, .own)

def loginView : View := publicView fun schema request =>
  if (schema.user request).isSome then (schema, .redirect loginRedirectUrl)
  else (schema, .page none)

def passkeyRequired : View := openToAnySignedInUser fun schema request =>
  if (schema.user request).any schema.hasPasskey then (schema, .redirect loginRedirectUrl)
  else (schema, .page none)

def fingerprintMatches (fingerprint check : String) : Bool :=
  let value := (Text.strip check).map Char.toLower
  decide ((Text.strip check).length ≤ 8) && decide (value ≠ "") &&
    value.toList.isSuffixOf fingerprint.toList

/-- The gate a new church passes through before using the app.  The key is shown to whoever runs the
church, and only they can confirm that they have it. -/
def keyBackup : View := openToAnySignedInUser fun schema request =>
  if schema.isPublic then (schema, .notFound)
  else if !schema.keyBackupPending then (schema, .redirect loginRedirectUrl)
  else
    let user := schema.user request
    let mayHoldTheKey := schema.hasCapability user .manageUsers
    if request.isPost && !mayHoldTheKey then (schema, .redirect keyBackupUrl)
    else if request.isPost && request.confirmed &&
        fingerprintMatches schema.dekFingerprint request.fingerprintCheck then
      let name := (user.bind fun pk => schema.directory.users[pk]?).elim "" fun user =>
        if user.fullName ≠ "" then user.fullName else user.email
      ({ schema with keyBackupConfirmedBy := some (Text.truncate 150 name) },
        .redirect loginRedirectUrl)
    else (schema, .page (if mayHoldTheKey then some schema.dekB64 else none))

def keyBackupDownload : View := requires [.manageUsers] false fun schema _ =>
  if schema.isPublic then (schema, .notFound) else (schema, .page (some schema.dekB64))

def resolveView (others : String → Option Declaration) (path : String) : Option View :=
  if path = loginUrl then some loginView
  else if path = passkeyRequiredUrl then some passkeyRequired
  else if path = keyBackupUrl then some keyBackup
  else if path = keyBackupDownloadUrl then some keyBackupDownload
  else (others path).map (·.view)

/-! ## Gates -/

def isExempt (prefixes : List String) (path : String) : Bool :=
  prefixes.any (Text.startsWith · path)

def passkeyExempt : List String :=
  [staticUrl, "/healthz/", "/accounts/logout/", loginUrl, passkeyRequiredUrl, "/accounts/webauthn/",
    "/accounts/link/"]

def forcePasskey (getResponse : ViewBody) : ViewBody := fun schema request =>
  match schema.user request with
  | none => getResponse schema request
  | some pk =>
      if isExempt passkeyExempt request.path then getResponse schema request
      else if schema.hasPasskey pk then getResponse schema request
      else (schema, .redirect passkeyRequiredUrl)

def keyBackupExempt : List String :=
  [staticUrl, "/healthz/", "/accounts/logout/", loginUrl, "/accounts/webauthn/", keyBackupUrl]

def forceKeyBackup (getResponse : ViewBody) : ViewBody := fun schema request =>
  if schema.isPublic then getResponse schema request
  else if !schema.keyBackupPending then getResponse schema request
  else if (schema.user request).isNone then getResponse schema request
  else if isExempt keyBackupExempt request.path then getResponse schema request
  else (schema, .redirect keyBackupUrl)

/-- Refuses any church-side view that never declared what capability it needs. -/
def accessGate (view : View) : ViewBody := fun schema request =>
  if schema.isPublic then view.body schema request
  else if view.vmsPublic then view.body schema request
  else if view.vmsCapabilities.isSome then view.body schema request
  else (schema, .forbidden)

def dispatch (others : String → Option Declaration) : ViewBody := fun schema request =>
  match resolveView others request.path with
  | none => (schema, .notFound)
  | some view => accessGate view schema request

def respond (others : String → Option Declaration) : ViewBody :=
  forcePasskey (forceKeyBackup (dispatch others))

/-! ## What each of them lets through -/

variable {schema : GatedSchema} {request : GateRequest}

namespace GatedSchema

/-- Whoever sends this has a passkey, or goes where none is needed. -/
def PassesPasskey (schema : GatedSchema) (request : GateRequest) : Prop :=
  ∀ pk, schema.user request = some pk →
    isExempt passkeyExempt request.path = true ∨ schema.hasPasskey pk = true

/-- The church's key is backed up, or whoever sends this is nobody or goes where that is no matter.
-/
def PassesKeyBackup (schema : GatedSchema) (request : GateRequest) : Prop :=
  schema.isPublic = true ∨ schema.keyBackupPending = false ∨ schema.user request = none ∨
    isExempt keyBackupExempt request.path = true

end GatedSchema

theorem forcePasskey_cases (getResponse : ViewBody) (schema : GatedSchema) (request : GateRequest) :
    (∃ pk, schema.user request = some pk ∧ schema.hasPasskey pk = false ∧
        isExempt passkeyExempt request.path = false ∧
        forcePasskey getResponse schema request = (schema, .redirect passkeyRequiredUrl)) ∨
      schema.PassesPasskey request ∧
        forcePasskey getResponse schema request = getResponse schema request := by
  unfold forcePasskey GatedSchema.PassesPasskey
  cases user : schema.user request with
  | none => exact .inr ⟨nofun, rfl⟩
  | some pk =>
      cases exempt : isExempt passkeyExempt request.path with
      | true => exact .inr ⟨fun _ _ => .inl rfl, rfl⟩
      | false =>
          cases enrolled : schema.hasPasskey pk with
          | false => exact .inl ⟨pk, rfl, enrolled, rfl, by simp [enrolled]⟩
          | true =>
              refine .inr ⟨?_, by simp [enrolled]⟩
              rintro _ ⟨⟩
              exact .inr enrolled

theorem forceKeyBackup_cases (getResponse : ViewBody) (schema : GatedSchema)
    (request : GateRequest) :
    (schema.isPublic = false ∧ schema.keyBackupPending = true ∧ (schema.user request).isSome ∧
        isExempt keyBackupExempt request.path = false ∧
        forceKeyBackup getResponse schema request = (schema, .redirect keyBackupUrl)) ∨
      schema.PassesKeyBackup request ∧
        forceKeyBackup getResponse schema request = getResponse schema request := by
  unfold forceKeyBackup GatedSchema.PassesKeyBackup
  cases schema.isPublic <;> cases schema.keyBackupPending <;> cases schema.user request <;>
    cases isExempt keyBackupExempt request.path <;> simp

theorem accessGate_cases (view : View) (schema : GatedSchema) (request : GateRequest) :
    accessGate view schema request = (schema, .forbidden) ∨
      (schema.isPublic = true ∨ view.vmsPublic = true ∨ view.vmsCapabilities.isSome = true) ∧
        accessGate view schema request = view.body schema request := by
  unfold accessGate
  cases schema.isPublic <;> cases view.vmsPublic <;> cases view.vmsCapabilities <;> simp

theorem loginRequired_cases (body : ViewBody) (schema : GatedSchema) (request : GateRequest) :
    loginRequired body schema request = (schema, .redirect loginUrl) ∨
      ∃ pk, schema.user request = some pk ∧
        loginRequired body schema request = body schema request := by
  unfold loginRequired
  cases schema.user request with
  | none => exact .inl rfl
  | some pk => exact .inr ⟨pk, rfl, rfl⟩

end VolunteerScreening.Accounts
