import VolunteerScreening.Accounts.Links
import VolunteerScreening.Core.Crypto
import VolunteerScreening.Library.Fallible
import Mathlib.Data.List.MinMax

/-!
# Passkeys

The two WebAuthn ceremonies, each in two halves, over the tables of every
schema.  What a browser sends is verified by a library, which is a parameter.
A challenge that is deleted leaves its place empty, so a row's key is its
position.
-/

namespace VolunteerScreening.Accounts

open Tenants VolunteerScreening.Core

structure Passkey where
  user : Pk
  credentialId : String
  publicKey : Bytes
  signCount : Nat
  label : String
  isActive : Bool
  createdAt : Nat
  lastUsedAt : Option Nat
  deriving DecidableEq

/-- The counter that is saved after an assertion.  Some authenticators always report 0, and such a
report is not stored. -/
def Passkey.countAfter (passkey : Passkey) (newSignCount : Nat) : Nat :=
  if newSignCount ≠ 0 then newSignCount else passkey.signCount

inductive ChallengePurpose where
  | register
  | authenticate
  deriving DecidableEq

structure WebAuthnChallenge where
  challenge : Bytes
  purpose : ChallengePurpose
  user : Option Pk
  sessionKey : String
  createdAt : Nat
  consumedAt : Option Nat
  deriving DecidableEq

namespace WebAuthnChallenge

variable (row : WebAuthnChallenge) (now : Nat)

def isExpired : Bool := decide (row.createdAt + 300 * oneSecond < now)

def isUsable : Bool := row.consumedAt.isNone && !row.isExpired now

def consume : WebAuthnChallenge := { row with consumedAt := some now }

end WebAuthnChallenge

/-! ## The tables -/

/-- The accounts of one schema, their passkeys and the challenges under way.  No two passkeys share
a credential, and each belongs to an account. -/
structure PasskeyTables where
  users : List User
  passkeys : List Passkey
  challenges : List (Option WebAuthnChallenge)
  credentialId_unique : (passkeys.map (·.credentialId)).Nodup
  owned : ∀ passkey ∈ passkeys, passkey.user < users.length

namespace PasskeyTables

variable (tables : PasskeyTables)

def setChallenges (challenges : List (Option WebAuthnChallenge)) : PasskeyTables :=
  { tables with challenges := challenges }

def pruneChallenges (now : Nat) : PasskeyTables :=
  tables.setChallenges (tables.challenges.map fun row =>
    row.filter fun row => decide (now ≤ row.createdAt + 600 * oneSecond))

def addChallenge (row : WebAuthnChallenge) : PasskeyTables :=
  tables.setChallenges (tables.challenges ++ [some row])

def newestChallenge (wanted : WebAuthnChallenge → Bool) : Option (Pk × WebAuthnChallenge) :=
  (tables.challenges.zipIdx.filterMap fun entry =>
    (entry.1.filter wanted).map fun row => (entry.2, row)).argmax (·.2.createdAt)

def openChallenge (wanted : WebAuthnChallenge → Bool) (now : Nat) :
    Option (Pk × WebAuthnChallenge) :=
  (tables.newestChallenge fun row => wanted row && row.consumedAt.isNone).filter
    fun found => found.2.isUsable now

def consumeChallenge (pk : Pk) (now : Nat) : PasskeyTables :=
  tables.setChallenges (tables.challenges.modify pk fun row => row.map (·.consume now))

def findPasskey (credentialId : String) : Option (Pk × Passkey) :=
  (tables.passkeys.zipIdx.find? fun entry =>
    decide (entry.1.credentialId = credentialId) && entry.1.isActive).map fun entry =>
      (entry.2, entry.1)

def addPasskey (passkey : Passkey)
    (fresh : passkey.credentialId ∉ tables.passkeys.map (·.credentialId))
    (owner : passkey.user < tables.users.length) : PasskeyTables where
  users := tables.users
  passkeys := tables.passkeys ++ [passkey]
  challenges := tables.challenges
  credentialId_unique := by
    rw [List.map_append, List.map_singleton, ← List.concat_eq_append]
    exact List.Nodup.concat fresh tables.credentialId_unique
  owned := by
    intro other listed
    rcases List.mem_append.mp listed with earlier | new
    · exact tables.owned other earlier
    · rw [List.mem_singleton.mp new]
      exact owner

def modifyPasskey (pk : Pk) (change : Passkey → Passkey)
    (kept : ∀ passkey, (change passkey).credentialId = passkey.credentialId ∧
      (change passkey).user = passkey.user) : PasskeyTables where
  users := tables.users
  passkeys := tables.passkeys.modify pk change
  challenges := tables.challenges
  credentialId_unique := by
    have same : (tables.passkeys.modify pk change).map (·.credentialId) =
        tables.passkeys.map (·.credentialId) := by
      apply List.ext_getElem?
      intro position
      rw [List.getElem?_map, List.getElem?_map, List.getElem?_modify]
      cases tables.passkeys[position]? with
      | none => rfl
      | some passkey => by_cases here : pk = position <;> simp [here, kept]
    rw [same]
    exact tables.credentialId_unique
  owned := by
    intro passkey listed
    obtain ⟨position, found⟩ := List.getElem?_of_mem listed
    rw [List.getElem?_modify] at found
    obtain ⟨before, there, rfl⟩ := Option.map_eq_some_iff.mp found
    have owner := tables.owned before (List.mem_of_getElem? there)
    split
    · rw [(kept before).2]
      exact owner
    · exact owner

def saveUse (pk : Pk) (signCount now : Nat) : PasskeyTables :=
  tables.modifyPasskey pk
    (fun passkey => { passkey with signCount := signCount, lastUsedAt := some now })
    fun _ => ⟨rfl, rfl⟩

def deactivatePasskey (pk : Pk) : PasskeyTables :=
  tables.modifyPasskey pk (fun passkey => { passkey with isActive := false }) fun _ => ⟨rfl, rfl⟩

theorem consumeChallenge_users (pk : Pk) (now : Nat) :
    (tables.consumeChallenge pk now).users = tables.users := rfl

theorem consumeChallenge_passkeys (pk : Pk) (now : Nat) :
    (tables.consumeChallenge pk now).passkeys = tables.passkeys := rfl

theorem saveUse_challenges (pk : Pk) (signCount now : Nat) :
    (tables.saveUse pk signCount now).challenges = tables.challenges := rfl

theorem saveUse_users (pk : Pk) (signCount now : Nat) :
    (tables.saveUse pk signCount now).users = tables.users := rfl

/-- Rewrite the accounts, of which none is ever lost. -/
def setUsers (users : List User) (more : tables.users.length ≤ users.length) : PasskeyTables :=
  { tables with
    users := users
    owned := fun passkey listed => Nat.lt_of_lt_of_le (tables.owned passkey listed) more }

end PasskeyTables

/-- The registry, with its churches in the order of their names, and each schema's tables. -/
structure PasskeySite where
  registry : List Registration
  schemas : String → PasskeyTables

namespace PasskeySite

variable (site : PasskeySite)

def update (schema : String) (change : PasskeyTables → PasskeyTables) : PasskeySite :=
  { site with schemas := Function.update site.schemas schema (change (site.schemas schema)) }

theorem update_schemas (schema name : String) (change : PasskeyTables → PasskeyTables) :
    (site.update schema change).schemas name =
      if name = schema then change (site.schemas schema) else site.schemas name :=
  Function.update_apply site.schemas schema (change (site.schemas schema)) name

section

variable {site} {schema name : String} {change : PasskeyTables → PasskeyTables}

theorem update_users (kept : ∀ tables, (change tables).users = tables.users) :
    ((site.update schema change).schemas name).users = (site.schemas name).users := by
  rw [update_schemas]
  split
  · next same => rw [kept, same]
  · rfl

theorem update_passkeys (kept : ∀ tables, (change tables).passkeys = tables.passkeys) :
    ((site.update schema change).schemas name).passkeys = (site.schemas name).passkeys := by
  rw [update_schemas]
  split
  · next same => rw [kept, same]
  · rfl

theorem update_challenges (kept : ∀ tables, (change tables).challenges = tables.challenges) :
    ((site.update schema change).schemas name).challenges = (site.schemas name).challenges := by
  rw [update_schemas]
  split
  · next same => rw [kept, same]
  · rfl

end

/-- The schema holding an active passkey with this credential: the public one, or the first church
to have it. -/
def findPasskeyTarget (credentialId : String) : Option LoginTarget :=
  if credentialId = "" then none
  else
    match (site.schemas publicSchemaName).findPasskey credentialId with
    | some (_, passkey) => some ⟨publicSchemaName, none, passkey.user⟩
    | none => (searchedChurches site.registry).findSome? fun tenant =>
        ((site.schemas tenant.schemaName).findPasskey credentialId).map fun found =>
          ⟨tenant.schemaName, some tenant, found.2.user⟩

end PasskeySite

/-! ## What is found -/

section

variable {tables : PasskeyTables} {site : PasskeySite}

theorem PasskeyTables.newestChallenge_eq_some {wanted : WebAuthnChallenge → Bool} {pk : Pk}
    {row : WebAuthnChallenge} (found : tables.newestChallenge wanted = some (pk, row)) :
    tables.challenges[pk]? = some (some row) ∧ wanted row = true := by
  have listed := List.argmax_mem found
  simp only [List.mem_filterMap, List.mem_zipIdx_iff_getElem?, Option.map_eq_some_iff,
    Option.filter_eq_some_iff, Prod.exists, Prod.mk.injEq] at listed
  obtain ⟨_, _, there, _, ⟨rfl, meets⟩, rfl, rfl⟩ := listed
  exact ⟨there, meets⟩

/-- A challenge that can be answered is not spent and at most five minutes old. -/
theorem PasskeyTables.openChallenge_eq_some {wanted : WebAuthnChallenge → Bool} {now : Nat}
    {pk : Pk} {row : WebAuthnChallenge} (found : tables.openChallenge wanted now = some (pk, row)) :
    tables.challenges[pk]? = some (some row) ∧ wanted row = true ∧ row.consumedAt = none ∧
      now ≤ row.createdAt + 300 * oneSecond := by
  obtain ⟨newest, usable⟩ := Option.filter_eq_some_iff.mp found
  obtain ⟨there, meets⟩ := PasskeyTables.newestChallenge_eq_some newest
  simp only [Bool.and_eq_true, Option.isNone_iff_eq_none] at meets
  simp only [WebAuthnChallenge.isUsable, WebAuthnChallenge.isExpired, Bool.and_eq_true,
    Bool.not_eq_true', decide_eq_false_iff_not, Nat.not_lt] at usable
  exact ⟨there, meets.1, meets.2, usable.2⟩

theorem PasskeyTables.findPasskey_eq_some {credentialId : String} {pk : Pk} {passkey : Passkey}
    (found : tables.findPasskey credentialId = some (pk, passkey)) :
    tables.passkeys[pk]? = some passkey ∧ passkey.credentialId = credentialId ∧
      passkey.isActive = true := by
  obtain ⟨⟨row, position⟩, looked, same⟩ := Option.map_eq_some_iff.mp found
  cases same
  have listed := List.mem_of_find?_eq_some looked
  have meets := List.find?_some looked
  rw [List.mem_zipIdx_iff_getElem?] at listed
  simp only [Bool.and_eq_true, decide_eq_true_eq] at meets
  exact ⟨listed, meets⟩

theorem PasskeySite.findPasskeyTarget_eq_some {credentialId : String} {target : LoginTarget}
    (found : site.findPasskeyTarget credentialId = some target) :
    target.isPublic = true ∨ ∃ tenant ∈ site.registry, tenant.isActive = true ∧
      tenant.schemaName ≠ publicSchemaName ∧ target.tenant = some tenant ∧
      target.schemaName = tenant.schemaName := by
  unfold PasskeySite.findPasskeyTarget at found
  split at found
  · cases found
  · split at found
    · cases found
      exact .inl rfl
    · obtain ⟨tenant, listed, located⟩ := List.exists_of_findSome?_eq_some found
      obtain ⟨passkey, _, rfl⟩ := Option.map_eq_some_iff.mp located
      obtain ⟨among, active, notPublic⟩ := mem_searchedChurches.mp listed
      exact .inr ⟨tenant, among, active, notPublic, rfl, rfl⟩

end

/-! ## The ceremonies -/

structure VerifiedRegistration where
  credentialId : String
  credentialPublicKey : Bytes
  signCount : Nat

/-- The library: what a response says, and whether it answers a challenge at an origin. -/
structure WebAuthn (Response : Type) where
  credentialId : Response → Option String
  verifyRegistration : Response → (challenge : Bytes) → (origin : String) →
    Except String VerifiedRegistration
  verifyAuthentication : Response → (challenge : Bytes) → (origin : String) →
    (publicKey : Bytes) → (signCount : Nat) → Option Nat

/-- Where a request arrives: the schema it is bound to, its session, and what the browser calls the
site. -/
structure CeremonyRequest where
  schema : String
  sessionKey : Option String
  origin : String

inductive CeremonyFailure where
  | webAuthn (message : String)
  /-- The database refuses a credential that is longer than its column. -/
  | dataError
  deriving DecidableEq

/-- What a sign-in comes to: whose passkey answered which challenge, and where the request is bound
from then on. -/
structure PasskeySignIn where
  challengePk : Pk
  challenge : WebAuthnChallenge
  target : Option LoginTarget
  schema : String
  passkeyPk : Pk
  passkey : Passkey
  signCount : Nat
  userPk : Pk
  user : User
  deriving DecidableEq

namespace WebAuthn

variable {Response : Type} (webauthn : WebAuthn Response)

def registrationChallenge (user : Pk) (request : CeremonyRequest) (challenge : Bytes) (now : Nat) :
    WebAuthnChallenge :=
  ⟨challenge, .register, some user, request.sessionKey.getD "", now, none⟩

/-- The session that an assertion challenge is issued to: the request's, or one that is created. -/
def sessionFor (request : CeremonyRequest) (newKey : String) : String :=
  (request.sessionKey.filter fun key => decide (key ≠ "")).getD newKey

def authenticationChallenge (sessionKey : String) (challenge : Bytes) (now : Nat) :
    WebAuthnChallenge :=
  ⟨challenge, .authenticate, none, sessionKey, now, none⟩

/-- Issue a registration challenge.  The credentials that the account already has are left out by
the browser. -/
def beginRegistration (tables : PasskeyTables) (user : Pk) (request : CeremonyRequest)
    (challenge : Bytes) (clock : Clock) : PasskeyTables × List String :=
  ((tables.pruneChallenges clock.first).addChallenge
      (registrationChallenge user request challenge clock.second),
    (tables.passkeys.filter fun passkey =>
      decide (passkey.user = user) && passkey.isActive).map (·.credentialId))

def finishRegistration (tables : PasskeyTables) (user : Pk) (request : CeremonyRequest)
    (response : Response) (label : String) (clock : Clock) :
    PasskeyTables × Except CeremonyFailure Passkey :=
  match tables.openChallenge (fun row => decide (row.user = some user ∧ row.purpose = .register))
    clock.first with
  | none =>
      (tables, .error (.webAuthn "That registration attempt has expired. Please start again."))
  | some (pk, row) =>
      let spent := tables.consumeChallenge pk clock.second
      match webauthn.verifyRegistration response row.challenge request.origin with
      | .error reason =>
          (spent, .error (.webAuthn s!"This passkey could not be registered: {reason}"))
      | .ok verified =>
          let passkey : Passkey := ⟨user, verified.credentialId, verified.credentialPublicKey,
            verified.signCount, String.ofList ((Text.strip label).toList.take 100), true,
            clock.third, none⟩
          if fresh : passkey.credentialId ∉ spent.passkeys.map (·.credentialId) then
            if owner : passkey.user < spent.users.length ∧ passkey.credentialId.length ≤ 512 then
              (spent.addPasskey passkey fresh owner.1, .ok passkey)
            else (spent, .error .dataError)
          else (spent, .error (.webAuthn "That passkey is already registered."))

def beginAuthentication (tables : PasskeyTables) (request : CeremonyRequest) (newKey : String)
    (challenge : Bytes) (clock : Clock) : PasskeyTables :=
  (tables.pruneChallenges clock.first).addChallenge
    (authenticationChallenge (sessionFor request newKey) challenge clock.second)

/-- The passkey a credential names: one of the schema the request is bound to, or from the public
schema one of the church that has it. -/
def locatePasskey (site : PasskeySite) (schema credentialId : String) :
    Option (Option LoginTarget × String × Pk × Passkey) :=
  match (site.schemas schema).findPasskey credentialId with
  | some found => some (none, schema, found)
  | none =>
      if schema = publicSchemaName then
        match site.findPasskeyTarget credentialId with
        | none => none
        | some target =>
            if target.isPublic then none
            else ((site.schemas target.schemaName).findPasskey credentialId).map fun found =>
              (some target, target.schemaName, found)
      else none

/-- Verify an assertion and give the authenticated account.  The challenge is spent whatever comes
of it, in the schema it was written in. -/
def finishAuthentication (site : PasskeySite) (request : CeremonyRequest) (response : Response)
    (clock : Clock) : PasskeySite × Except CeremonyFailure PasskeySignIn :=
  match (site.schemas request.schema).openChallenge (fun row =>
    decide (row.purpose = .authenticate ∧ row.sessionKey = request.sessionKey.getD ""))
    clock.first with
  | none => (site, .error (.webAuthn "That sign-in attempt has expired. Please try again."))
  | some (pk, row) =>
      let spent := site.update request.schema (·.consumeChallenge pk clock.second)
      match webauthn.credentialId response with
      | none => (spent, .error (.webAuthn "The browser sent an unreadable passkey response."))
      | some credentialId =>
          match locatePasskey site request.schema credentialId with
          | none =>
              (spent, .error (.webAuthn "Sign-in failed. That passkey is not registered here."))
          | some (target, schema, passkeyPk, passkey) =>
              match webauthn.verifyAuthentication response row.challenge request.origin
                passkey.publicKey passkey.signCount with
              | none => (spent, .error (.webAuthn "Sign-in failed. Please try again."))
              | some newSignCount =>
                  let signCount := passkey.countAfter newSignCount
                  let saved := spent.update schema (·.saveUse passkeyPk signCount clock.third)
                  match ((saved.schemas schema).users[passkey.user]?).filter (·.isActive) with
                  | none => (saved, .error (.webAuthn "This account has been deactivated."))
                  | some user =>
                      (saved, .ok ⟨pk, row, target, schema, passkeyPk, passkey, signCount,
                        passkey.user, user⟩)

def removePasskey (tables : PasskeyTables) (user passkeyId : Pk) :
    Except String PasskeyTables :=
  match (tables.passkeys[passkeyId]?).filter fun passkey =>
      decide (passkey.user = user) && passkey.isActive with
  | none => .error "That passkey was not found on your account."
  | some _ => .ok (tables.deactivatePasskey passkeyId)

/-! ## What each half comes to -/

section

variable {webauthn} {site : PasskeySite} {tables : PasskeyTables} {request : CeremonyRequest}
  {response : Response} {clock : Clock}

theorem locatePasskey_eq_some {schema credentialId name : String} {target : Option LoginTarget}
    {pk : Pk} {passkey : Passkey}
    (located : locatePasskey site schema credentialId = some (target, name, pk, passkey)) :
    (site.schemas name).passkeys[pk]? = some passkey ∧ passkey.credentialId = credentialId ∧
      passkey.isActive = true ∧
      (target = none ∧ name = schema ∨
        schema = publicSchemaName ∧ ∃ tenant ∈ site.registry, tenant.isActive = true ∧
          tenant.schemaName = name ∧ name ≠ publicSchemaName ∧
          target.bind (·.tenant) = some tenant) := by
  unfold locatePasskey at located
  split at located
  · next found looked =>
      obtain ⟨pk', passkey'⟩ := found
      cases located
      obtain ⟨there, same, active⟩ := PasskeyTables.findPasskey_eq_some looked
      exact ⟨there, same, active, .inl ⟨rfl, rfl⟩⟩
  · split at located
    · next isPublic =>
        split at located
        · cases located
        · next target' searched =>
            split at located
            · cases located
            · next isChurch =>
                obtain ⟨⟨pk', passkey'⟩, looked, same⟩ := Option.map_eq_some_iff.mp located
                cases same
                obtain ⟨there, same, active⟩ := PasskeyTables.findPasskey_eq_some looked
                obtain public_ | ⟨tenant, listed, isActive, notPublic, carried, named⟩ :=
                  PasskeySite.findPasskeyTarget_eq_some searched
                · exact absurd public_ isChurch
                · exact ⟨there, same, active, .inr ⟨isPublic, tenant, listed, isActive, named.symm,
                    by rw [named]; exact notPublic, carried⟩⟩
    · cases located

/-- A challenge that a sign-in may answer: one of its session, not spent, and at most five minutes
old. -/
def Open (site : PasskeySite) (request : CeremonyRequest) (now : Nat) (pk : Pk)
    (row : WebAuthnChallenge) : Prop :=
  (site.schemas request.schema).challenges[pk]? = some (some row) ∧ row.purpose = .authenticate ∧
    row.sessionKey = request.sessionKey.getD "" ∧ row.consumedAt = none ∧
    now ≤ row.createdAt + 300 * oneSecond

def Verified (webauthn : WebAuthn Response) (site : PasskeySite) (request : CeremonyRequest)
    (response : Response) (row : WebAuthnChallenge) (target : Option LoginTarget) (schema : String)
    (pk : Pk) (passkey : Passkey) (newSignCount : Nat) : Prop :=
  locatePasskey site request.schema passkey.credentialId = some (target, schema, pk, passkey) ∧
    webauthn.credentialId response = some passkey.credentialId ∧
    webauthn.verifyAuthentication response row.challenge request.origin passkey.publicKey
      passkey.signCount = some newSignCount

/-- What finishing a sign-in can do: nothing, or spend the open challenge and then refuse, or save
the passkey's use as well and then sign its owner in, if the owner is active. -/
theorem finishAuthentication_cases (webauthn : WebAuthn Response) (site : PasskeySite)
    (request : CeremonyRequest) (response : Response) (clock : Clock) :
    (∃ failure, webauthn.finishAuthentication site request response clock =
        (site, .error failure)) ∨
      ∃ pk row, Open site request clock.first pk row ∧
        ((∃ failure, webauthn.finishAuthentication site request response clock =
            (site.update request.schema (·.consumeChallenge pk clock.second), .error failure)) ∨
          ∃ target schema passkeyPk passkey newSignCount result,
            Verified webauthn site request response row target schema passkeyPk passkey
              newSignCount ∧
            webauthn.finishAuthentication site request response clock =
              ((site.update request.schema (·.consumeChallenge pk clock.second)).update schema
                (·.saveUse passkeyPk (passkey.countAfter newSignCount) clock.third), result) ∧
            ((∃ failure, result = .error failure) ∨
              ∃ user, (site.schemas schema).users[passkey.user]? = some user ∧
                user.isActive = true ∧ result = .ok ⟨pk, row, target, schema, passkeyPk, passkey,
                  passkey.countAfter newSignCount, passkey.user, user⟩)) := by
  dsimp only [finishAuthentication]
  split
  · exact .inl ⟨_, rfl⟩
  · next pk row opened =>
      obtain ⟨there, wanted, unspent, recent⟩ := PasskeyTables.openChallenge_eq_some opened
      have both := of_decide_eq_true wanted
      refine .inr ⟨pk, row, ⟨there, both.1, both.2, unspent, recent⟩, ?_⟩
      split
      · exact .inl ⟨_, rfl⟩
      · next credentialId read =>
          split
          · exact .inl ⟨_, rfl⟩
          · next target schema passkeyPk passkey located =>
              obtain ⟨_, rfl, _⟩ := locatePasskey_eq_some located
              split
              · exact .inl ⟨_, rfl⟩
              · next newSignCount verified =>
                  refine .inr ⟨target, schema, passkeyPk, passkey, newSignCount, ?_⟩
                  split
                  · exact ⟨_, ⟨located, read, verified⟩, rfl, .inl ⟨_, rfl⟩⟩
                  · next user found =>
                      refine ⟨_, ⟨located, read, verified⟩, rfl, .inr ⟨user, ?_, ?_, rfl⟩⟩
                      · have there := (Option.filter_eq_some_iff.mp found).1
                        rwa [PasskeySite.update_users fun tables => tables.saveUse_users _ _ _,
                          PasskeySite.update_users fun tables => tables.consumeChallenge_users _ _]
                          at there
                      · exact (Option.filter_eq_some_iff.mp found).2

/-- A passkey that an account registers: what was verified for the latest challenge that was issued
to it. -/
def Enrolled (webauthn : WebAuthn Response) (tables : PasskeyTables) (user : Pk)
    (request : CeremonyRequest) (response : Response) (now : Nat) (row : WebAuthnChallenge)
    (passkey : Passkey) : Prop :=
  (∃ pk : Pk, tables.challenges[pk]? = some (some row)) ∧ row.user = some user ∧
    row.purpose = .register ∧ row.consumedAt = none ∧ now ≤ row.createdAt + 300 * oneSecond ∧
    passkey.user = user ∧ passkey.isActive = true ∧
    webauthn.verifyRegistration response row.challenge request.origin =
      .ok ⟨passkey.credentialId, passkey.publicKey, passkey.signCount⟩

theorem finishRegistration_cases (webauthn : WebAuthn Response) (tables : PasskeyTables) (user : Pk)
    (request : CeremonyRequest) (response : Response) (label : String) (clock : Clock) :
    (∃ failure, webauthn.finishRegistration tables user request response label clock =
        (tables, .error failure)) ∨
      ∃ pk,
        (∃ failure, webauthn.finishRegistration tables user request response label clock =
          (tables.consumeChallenge pk clock.second, .error failure)) ∨
        ∃ row passkey fresh owner,
          Enrolled webauthn tables user request response clock.first row passkey ∧
          webauthn.finishRegistration tables user request response label clock =
            ((tables.consumeChallenge pk clock.second).addPasskey passkey fresh owner,
              .ok passkey) := by
  dsimp only [finishRegistration]
  split
  · exact .inl ⟨_, rfl⟩
  · next pk row opened =>
      obtain ⟨there, wanted, unspent, recent⟩ := PasskeyTables.openChallenge_eq_some opened
      have both := of_decide_eq_true wanted
      refine .inr ⟨pk, ?_⟩
      split
      · exact .inl ⟨_, rfl⟩
      · next verified accepted =>
          split
          · next fresh =>
              split
              · next owner =>
                  exact .inr ⟨row, _, fresh, owner.1, ⟨⟨pk, there⟩, both.1, both.2, unspent, recent,
                    rfl, rfl, accepted⟩, rfl⟩
              · exact .inl ⟨_, rfl⟩
          · exact .inl ⟨_, rfl⟩

theorem removePasskey_eq_ok {user passkeyId : Pk} {after : PasskeyTables}
    (removed : removePasskey tables user passkeyId = .ok after) :
    after = tables.deactivatePasskey passkeyId := by
  unfold removePasskey at removed
  split at removed
  · cases removed
  · cases removed
    rfl

end

end WebAuthn

end VolunteerScreening.Accounts
