import VolunteerScreening.Accounts.Passkeys
import VolunteerScreening.Library.Machine
import Mathlib.Data.List.Forall2

/-!
# Who a passkey signs in

Over any run of requests, one after another, each assertion signs in at most
once, in the session its challenge was issued to, and as the account that
registered the passkey.  No passkey is lost or changes hands, and no counter
goes down.
-/

namespace VolunteerScreening.Accounts

open Tenants VolunteerScreening.Core

inductive CeremonyEvent (Response : Type) where
  | beginRegistration (request : CeremonyRequest) (user : Pk) (challenge : Bytes) (clock : Clock)
  | finishRegistration (request : CeremonyRequest) (user : Pk) (response : Response)
      (label : String) (clock : Clock)
  | beginAuthentication (request : CeremonyRequest) (newKey : String) (challenge : Bytes)
      (clock : Clock)
  | finishAuthentication (request : CeremonyRequest) (response : Response) (clock : Clock)
  | removePasskey (schema : String) (user passkeyId : Pk)
  | addUser (schema : String) (user : User)
  | setActive (schema : String) (user : Pk) (isActive : Bool)
  | setRegistry (registry : List Registration)

/-- A registration that went through: what was posted, and the row it stored. -/
structure Enrolment (Response : Type) where
  request : CeremonyRequest
  response : Response
  pk : Pk
  passkey : Passkey

/-- A sign-in that went through: what was posted, when, to what site, and what it found. -/
structure PasskeyEntry (Response : Type) where
  request : CeremonyRequest
  response : Response
  now : Nat
  site : PasskeySite
  signIn : PasskeySignIn

/-- The site; the challenges that were issued, each with its schema; and what went through. -/
structure CeremonyHistory (Response : Type) where
  site : PasskeySite
  issued : List (String × WebAuthnChallenge)
  enrolments : List (Enrolment Response)
  entries : List (PasskeyEntry Response)

namespace CeremonyHistory

open WebAuthn

variable {Response : Type} (webauthn : WebAuthn Response) (history : CeremonyHistory Response)

def enrol (request : CeremonyRequest) (response : Response)
    (outcome : PasskeyTables × Except CeremonyFailure Passkey) : CeremonyHistory Response :=
  { history with
    site := history.site.update request.schema fun _ => outcome.1
    enrolments := history.enrolments ++ (match outcome.2 with
      | .error _ => []
      | .ok passkey =>
          [⟨request, response, (history.site.schemas request.schema).passkeys.length, passkey⟩]) }

def enter (request : CeremonyRequest) (response : Response) (now : Nat)
    (outcome : PasskeySite × Except CeremonyFailure PasskeySignIn) : CeremonyHistory Response :=
  { history with
    site := outcome.1
    entries := history.entries ++ (match outcome.2 with
      | .error _ => []
      | .ok signIn => [⟨request, response, now, history.site, signIn⟩]) }

def step : CeremonyEvent Response → CeremonyHistory Response
  | .beginRegistration request user challenge clock =>
      { history with
        site := history.site.update request.schema fun tables =>
          (beginRegistration tables user request challenge clock).1
        issued := history.issued ++
          [(request.schema, registrationChallenge user request challenge clock.second)] }
  | .finishRegistration request user response label clock =>
      history.enrol request response (webauthn.finishRegistration
        (history.site.schemas request.schema) user request response label clock)
  | .beginAuthentication request newKey challenge clock =>
      { history with
        site := history.site.update request.schema fun tables =>
          beginAuthentication tables request newKey challenge clock
        issued := history.issued ++ [(request.schema,
          authenticationChallenge (sessionFor request newKey) challenge clock.second)] }
  | .finishAuthentication request response clock =>
      history.enter request response clock.first
        (webauthn.finishAuthentication history.site request response clock)
  | .removePasskey schema user passkeyId =>
      { history with
        site := history.site.update schema
          (Machine.attempt fun tables => removePasskey tables user passkeyId) }
  | .addUser schema user =>
      { history with
        site := history.site.update schema fun tables =>
          tables.setUsers (tables.users ++ [user]) (by simp) }
  | .setActive schema user isActive =>
      { history with
        site := history.site.update schema fun tables =>
          tables.setUsers (tables.users.modify user fun row => { row with isActive := isActive })
            (by simp) }
  | .setRegistry registry =>
      { history with site := { history.site with registry := registry } }

def start (registry : List Registration) : CeremonyHistory Response :=
  ⟨⟨registry, fun _ =>
    ⟨[], [], [], List.nodup_nil, fun _ among => absurd among List.not_mem_nil⟩⟩, [], [], []⟩

end CeremonyHistory

/-! ## What is promised -/

section Promises

variable {Response : Type} (webauthn : WebAuthn Response)

/-- What is documented of the library: a response answers one challenge, and a counter that has to
go up does. -/
structure WebAuthn.Documented (webauthn : WebAuthn Response) : Prop where
  bound : ∀ response challenge origin publicKey signCount challenge' origin' publicKey' signCount',
    (webauthn.verifyAuthentication response challenge origin publicKey signCount).isSome = true →
    (webauthn.verifyAuthentication response challenge' origin' publicKey' signCount').isSome =
      true →
    challenge = challenge'
  counts : ∀ response challenge origin publicKey signCount newSignCount,
    webauthn.verifyAuthentication response challenge origin publicKey signCount =
      some newSignCount → signCount < newSignCount ∨ signCount = 0 ∧ newSignCount = 0

/-- The challenges of a run are drawn anew. -/
def DrawnAnew (history : CeremonyHistory Response) : CeremonyEvent Response → Prop
  | .beginRegistration _ _ challenge _ =>
      challenge ∉ history.issued.map fun entry => entry.2.challenge
  | .beginAuthentication _ _ challenge _ =>
      challenge ∉ history.issued.map fun entry => entry.2.challenge
  | _ => True

/-- A registration is rightful when its response was verified for a registration challenge that was
issued to the account. -/
def Rightful (history : CeremonyHistory Response) (enrolment : Enrolment Response) : Prop :=
  ∃ row, (enrolment.request.schema, row) ∈ history.issued ∧
    row.user = some enrolment.passkey.user ∧ row.purpose = .register ∧
    webauthn.verifyRegistration enrolment.response row.challenge enrolment.request.origin =
      .ok ⟨enrolment.passkey.credentialId, enrolment.passkey.publicKey, enrolment.passkey.signCount⟩

/-- A sign-in is genuine when it answers a challenge that was issued to its own session at most five
minutes before, with an assertion that verifies under the key of a passkey in force, and signs in
the account of the same schema that the passkey belongs to and that registered it. -/
structure Genuine (history : CeremonyHistory Response) (entry : PasskeyEntry Response) : Prop where
  issued : (entry.request.schema, entry.signIn.challenge) ∈ history.issued
  purpose : entry.signIn.challenge.purpose = .authenticate
  session : entry.signIn.challenge.sessionKey = entry.request.sessionKey.getD ""
  recent : entry.now ≤ entry.signIn.challenge.createdAt + 300 * oneSecond
  verified : (webauthn.verifyAuthentication entry.response entry.signIn.challenge.challenge
    entry.request.origin entry.signIn.passkey.publicKey entry.signIn.passkey.signCount).isSome =
      true
  stored : (entry.site.schemas entry.signIn.schema).passkeys[entry.signIn.passkeyPk]? =
    some entry.signIn.passkey
  account : entry.signIn.userPk = entry.signIn.passkey.user ∧
    (entry.site.schemas entry.signIn.schema).users[entry.signIn.userPk]? = some entry.signIn.user
  active : entry.signIn.passkey.isActive = true ∧ entry.signIn.user.isActive = true
  bound : entry.signIn.schema = entry.request.schema ∨ entry.request.schema = publicSchemaName ∧
    ∃ tenant ∈ entry.site.registry, tenant.isActive = true ∧
      tenant.schemaName = entry.signIn.schema
  owner : ∃ enrolment ∈ history.enrolments, enrolment.request.schema = entry.signIn.schema ∧
    enrolment.pk = entry.signIn.passkeyPk ∧
    enrolment.passkey.user = entry.signIn.userPk ∧
    enrolment.passkey.credentialId = entry.signIn.passkey.credentialId ∧
    enrolment.passkey.publicKey = entry.signIn.passkey.publicKey

/-- What a later state may make of a challenge: it may be spent, and stays spent. -/
def WebAuthnChallenge.Later (earlier later : WebAuthnChallenge) : Prop :=
  { later with consumedAt := none } = { earlier with consumedAt := none } ∧
    (earlier.consumedAt ≠ none → later.consumedAt ≠ none)

/-- What a later state may make of a passkey: it is whose it was and what it was, its counter may go
up, and it may be removed, for good. -/
structure Passkey.Later (earlier later : Passkey) : Prop where
  user : later.user = earlier.user
  credentialId : later.credentialId = earlier.credentialId
  publicKey : later.publicKey = earlier.publicKey
  label : later.label = earlier.label
  createdAt : later.createdAt = earlier.createdAt
  counts : earlier.signCount ≤ later.signCount
  removed : later.isActive = true → earlier.isActive = true

/-- What a later state may make of a passkey that was stored, and who has signed in since: nobody
with a passkey that was removed, or with a counter below the one that was stored. -/
structure PasskeysKept (earlier later : CeremonyHistory Response) : Prop where
  kept : ∀ (schema : String) (pk : Pk) (passkey : Passkey),
    (earlier.site.schemas schema).passkeys[pk]? = some passkey →
    ∃ after, (later.site.schemas schema).passkeys[pk]? = some after ∧ passkey.Later after
  since : ∃ entries, later.entries = earlier.entries ++ entries ∧
    ∀ entry ∈ entries, ∀ passkey : Passkey,
      (earlier.site.schemas entry.signIn.schema).passkeys[entry.signIn.passkeyPk]? = some passkey →
      passkey.isActive = true ∧ passkey.signCount ≤ entry.signIn.signCount

end Promises

/-! ## What a change of the tables may do -/

theorem WebAuthnChallenge.Later.refl (row : WebAuthnChallenge) : row.Later row := ⟨rfl, id⟩

theorem WebAuthnChallenge.Later.trans {first second third : WebAuthnChallenge}
    (before : first.Later second) (after : second.Later third) : first.Later third :=
  ⟨after.1.trans before.1, fun spent => after.2 (before.2 spent)⟩

theorem WebAuthnChallenge.Later.challenge {earlier later : WebAuthnChallenge}
    (becomes : earlier.Later later) : later.challenge = earlier.challenge :=
  congrArg (·.challenge) becomes.1

theorem Passkey.Later.refl (passkey : Passkey) : passkey.Later passkey :=
  ⟨rfl, rfl, rfl, rfl, rfl, Nat.le_refl _, id⟩

theorem Passkey.Later.trans {first second third : Passkey} (before : first.Later second)
    (after : second.Later third) : first.Later third where
  user := after.user.trans before.user
  credentialId := after.credentialId.trans before.credentialId
  publicKey := after.publicKey.trans before.publicKey
  label := after.label.trans before.label
  createdAt := after.createdAt.trans before.createdAt
  counts := before.counts.trans after.counts
  removed := fun active => before.removed (after.removed active)

structure PasskeyTables.Later (before after : PasskeyTables) : Prop where
  challenges : ∀ (pk : Pk) (row : WebAuthnChallenge), after.challenges[pk]? = some (some row) →
    ∃ earlier : WebAuthnChallenge, before.challenges[pk]? = some (some earlier) ∧ earlier.Later row
  kept : ∀ (pk : Pk) (passkey : Passkey), before.passkeys[pk]? = some passkey →
    ∃ later : Passkey, after.passkeys[pk]? = some later ∧ passkey.Later later
  length : after.passkeys.length = before.passkeys.length

namespace PasskeyTables

variable {tables before after : PasskeyTables}

theorem Later.refl (tables : PasskeyTables) : tables.Later tables where
  challenges _ row found := ⟨row, found, .refl row⟩
  kept _ passkey found := ⟨passkey, found, .refl passkey⟩
  length := rfl

theorem Later.trans {first second third : PasskeyTables} (before : first.Later second)
    (after : second.Later third) : first.Later third where
  challenges pk row found := by
    obtain ⟨between, there, becomes⟩ := after.challenges pk row found
    obtain ⟨earlier, present, became⟩ := before.challenges pk between there
    exact ⟨earlier, present, became.trans becomes⟩
  kept pk passkey found := by
    obtain ⟨between, there, became⟩ := before.kept pk passkey found
    obtain ⟨later, present, becomes⟩ := after.kept pk between there
    exact ⟨later, present, became.trans becomes⟩
  length := after.length.trans before.length

theorem Later.stored (later : before.Later after) {pk : Pk} {passkey : Passkey}
    (found : after.passkeys[pk]? = some passkey) :
    ∃ earlier : Passkey, before.passkeys[pk]? = some earlier ∧ earlier.Later passkey := by
  obtain ⟨within, _⟩ := List.getElem?_eq_some_iff.mp found
  rw [later.length] at within
  obtain ⟨passkey', found', becomes⟩ := later.kept pk _ (List.getElem?_eq_getElem within)
  rw [found] at found'
  cases found'
  exact ⟨_, List.getElem?_eq_getElem within, becomes⟩

theorem later_setChallenges {challenges : List (Option WebAuthnChallenge)}
    (from_ : ∀ (pk : Pk) (row : WebAuthnChallenge), challenges[pk]? = some (some row) →
      ∃ earlier : WebAuthnChallenge, tables.challenges[pk]? = some (some earlier) ∧
        earlier.Later row) : tables.Later (tables.setChallenges challenges) where
  challenges := from_
  kept := (Later.refl tables).kept
  length := rfl

theorem later_pruneChallenges (now : Nat) : tables.Later (tables.pruneChallenges now) := by
  apply later_setChallenges
  intro pk row found
  rw [List.getElem?_map] at found
  obtain ⟨place, there, filtered⟩ := Option.map_eq_some_iff.mp found
  obtain ⟨rfl, _⟩ := Option.filter_eq_some_iff.mp filtered
  exact ⟨row, there, .refl row⟩

theorem later_consumeChallenge (pk : Pk) (now : Nat) :
    tables.Later (tables.consumeChallenge pk now) := by
  apply later_setChallenges
  intro position row found
  rw [List.getElem?_modify] at found
  obtain ⟨place, there, changed⟩ := Option.map_eq_some_iff.mp found
  split at changed
  · obtain ⟨earlier, rfl, rfl⟩ := Option.map_eq_some_iff.mp changed
    exact ⟨earlier, there, rfl, fun _ => nofun⟩
  · subst changed
    exact ⟨row, there, .refl row⟩

theorem later_modifyPasskey {pk : Pk} {change : Passkey → Passkey}
    {kept : ∀ passkey, (change passkey).credentialId = passkey.credentialId ∧
      (change passkey).user = passkey.user}
    (goesOn : ∀ passkey : Passkey, tables.passkeys[pk]? = some passkey →
      passkey.Later (change passkey)) : tables.Later (tables.modifyPasskey pk change kept) where
  challenges _ row found := ⟨row, found, .refl row⟩
  kept position passkey found := by
    rw [modifyPasskey, List.getElem?_modify, found]
    refine ⟨_, rfl, ?_⟩
    split
    · next same =>
        subst same
        exact goesOn passkey found
    · exact .refl passkey
  length := List.length_modify _ _ _

theorem later_deactivatePasskey (pk : Pk) : tables.Later (tables.deactivatePasskey pk) :=
  later_modifyPasskey fun _ _ => ⟨rfl, rfl, rfl, rfl, rfl, Nat.le_refl _, nofun⟩

theorem later_saveUse {pk : Pk} {signCount now : Nat}
    (counts : ∀ passkey : Passkey, tables.passkeys[pk]? = some passkey →
      passkey.signCount ≤ signCount) : tables.Later (tables.saveUse pk signCount now) :=
  later_modifyPasskey fun passkey there => ⟨rfl, rfl, rfl, rfl, rfl, counts passkey there, id⟩

theorem later_setUsers {users : List User} {more : tables.users.length ≤ users.length} :
    tables.Later (tables.setUsers users more) :=
  ⟨(Later.refl tables).challenges, (Later.refl tables).kept, rfl⟩

end PasskeyTables

def PasskeySite.Later (before after : PasskeySite) : Prop :=
  ∀ schema, (before.schemas schema).Later (after.schemas schema)

namespace PasskeySite

variable {site first second third : PasskeySite}

theorem Later.trans (before : first.Later second) (after : second.Later third) :
    first.Later third :=
  fun schema => (before schema).trans (after schema)

theorem later_update (schema : String) (change : PasskeyTables → PasskeyTables)
    (later : (site.schemas schema).Later (change (site.schemas schema))) :
    site.Later (site.update schema change) := by
  intro name
  rw [update_schemas]
  split
  · next same =>
      rw [same]
      exact later
  · exact .refl _

theorem later_consumed (site : PasskeySite) (schema : String) (pk : Pk) (now : Nat) :
    site.Later (site.update schema (·.consumeChallenge pk now)) :=
  later_update _ _ (PasskeyTables.later_consumeChallenge pk now)

theorem update_update (schema : String) (first second : PasskeyTables → PasskeyTables) :
    (site.update schema first).update schema second =
      site.update schema fun tables => second (first tables) := by
  simp [update]

end PasskeySite

/-! ## What holds of every state -/

section Soundness

variable {Response : Type} {webauthn : WebAuthn Response} {history : CeremonyHistory Response}

def CeremonyHistory.drawn (history : CeremonyHistory Response) : List Bytes :=
  history.issued.map fun entry => entry.2.challenge

/-- Every challenge is one that was issued, no two are the same, and whoever signed in has spent
theirs; every passkey is one that was registered; and what went through was right. -/
structure Sound (webauthn : WebAuthn Response) (history : CeremonyHistory Response) : Prop where
  rows : ∀ (schema : String) (pk : Pk) (row : WebAuthnChallenge),
    (history.site.schemas schema).challenges[pk]? = some (some row) →
    (schema, { row with consumedAt := none }) ∈ history.issued
  apart : ∀ (schema name : String) (pk position : Pk) (row other : WebAuthnChallenge),
    (history.site.schemas schema).challenges[pk]? = some (some row) →
    (history.site.schemas name).challenges[position]? = some (some other) →
    row.challenge = other.challenge → schema = name ∧ pk = position
  spent : ∀ entry ∈ history.entries, ∀ (schema : String) (pk : Pk) (row : WebAuthnChallenge),
    (history.site.schemas schema).challenges[pk]? = some (some row) →
    row.challenge = entry.signIn.challenge.challenge → row.consumedAt ≠ none
  once : (history.entries.map (·.signIn.challenge.challenge)).Nodup
  registered : ∀ (schema : String) (pk : Pk) (passkey : Passkey),
    (history.site.schemas schema).passkeys[pk]? = some passkey →
    ∃ enrolment ∈ history.enrolments, enrolment.request.schema = schema ∧ enrolment.pk = pk ∧
      enrolment.passkey.Later passkey
  rightful : ∀ enrolment ∈ history.enrolments, Rightful webauthn history enrolment
  genuine : ∀ entry ∈ history.entries, Genuine webauthn history entry

theorem sound_start (registry : List Registration) :
    Sound webauthn (CeremonyHistory.start registry) where
  rows _ _ _ found := by simp [CeremonyHistory.start] at found
  apart _ _ _ _ _ _ found := by simp [CeremonyHistory.start] at found
  spent _ among := absurd among List.not_mem_nil
  once := .nil
  registered _ _ _ found := by simp [CeremonyHistory.start] at found
  rightful _ among := absurd among List.not_mem_nil
  genuine _ among := absurd among List.not_mem_nil

theorem Rightful.mono {later : CeremonyHistory Response} {enrolment : Enrolment Response}
    (rightful : Rightful webauthn history enrolment)
    (more : ∀ entry ∈ history.issued, entry ∈ later.issued) :
    Rightful webauthn later enrolment := by
  obtain ⟨row, issued, rest⟩ := rightful
  exact ⟨row, more _ issued, rest⟩

theorem Genuine.mono {later : CeremonyHistory Response} {entry : PasskeyEntry Response}
    (genuine : Genuine webauthn history entry)
    (more : ∀ entry ∈ history.issued, entry ∈ later.issued)
    (enrolled : ∀ enrolment ∈ history.enrolments, enrolment ∈ later.enrolments) :
    Genuine webauthn later entry := by
  obtain ⟨enrolment, among, same⟩ := genuine.owner
  exact { genuine with
    issued := more _ genuine.issued
    owner := ⟨enrolment, enrolled enrolment among, same⟩ }

theorem Sound.goesOn (sound : Sound webauthn history) {site : PasskeySite}
    (later : history.site.Later site) : Sound webauthn { history with site := site } where
  rows schema pk row found := by
    obtain ⟨earlier, there, becomes⟩ := (later schema).challenges pk row found
    rw [becomes.1]
    exact sound.rows schema pk earlier there
  apart schema name pk position row other found present same := by
    obtain ⟨earlier, there, becomes⟩ := (later schema).challenges pk row found
    obtain ⟨earlier', there', becomes'⟩ := (later name).challenges position other present
    rw [becomes.challenge, becomes'.challenge] at same
    exact sound.apart schema name pk position earlier earlier' there there' same
  spent entry among schema pk row found same := by
    obtain ⟨earlier, there, becomes⟩ := (later schema).challenges pk row found
    rw [becomes.challenge] at same
    exact becomes.2 (sound.spent entry among schema pk earlier there same)
  once := sound.once
  registered schema pk passkey found := by
    obtain ⟨earlier, there, becomes⟩ := (later schema).stored found
    obtain ⟨enrolment, among, sameSchema, samePk, became⟩ :=
      sound.registered schema pk earlier there
    exact ⟨enrolment, among, sameSchema, samePk, became.trans becomes⟩
  rightful enrolment among := (sound.rightful enrolment among).mono fun _ => id
  genuine entry among := (sound.genuine entry among).mono (fun _ => id) fun _ => id

theorem Sound.issue (sound : Sound webauthn history) (schema : String) (row : WebAuthnChallenge)
    (unspent : row.consumedAt = none) (fresh : row.challenge ∉ history.drawn) :
    Sound webauthn { history with
      site := history.site.update schema (·.addChallenge row)
      issued := history.issued ++ [(schema, row)] } := by
  have more : ∀ entry ∈ history.issued, entry ∈ history.issued ++ [(schema, row)] :=
    fun entry among => List.mem_append_left _ among
  -- A challenge in the tables was there before, and is another one, or is the one that was added.
  have places : ∀ (name : String) (pk : Pk) (other : WebAuthnChallenge),
      ((history.site.update schema (·.addChallenge row)).schemas name).challenges[pk]? =
        some (some other) →
      ((history.site.schemas name).challenges[pk]? = some (some other) ∧
          other.challenge ≠ row.challenge) ∨
        name = schema ∧ pk = (history.site.schemas schema).challenges.length ∧ other = row := by
    intro name pk other found
    have before : (history.site.schemas name).challenges[pk]? = some (some other) →
        other.challenge ≠ row.challenge := by
      intro there same
      apply fresh
      rw [← same]
      exact List.mem_map_of_mem (sound.rows name pk other there)
    rw [PasskeySite.update_schemas] at found
    split at found
    · next here =>
        subst here
        rw [PasskeyTables.addChallenge, PasskeyTables.setChallenges, List.getElem?_append] at found
        split at found
        · exact .inl ⟨found, before found⟩
        · next outside =>
            rw [List.getElem?_singleton] at found
            split at found
            · next atEnd =>
                cases found
                exact .inr ⟨rfl, Nat.le_antisymm (Nat.sub_eq_zero_iff_le.mp atEnd)
                  (Nat.not_lt.mp outside), rfl⟩
            · cases found
    · exact .inl ⟨found, before found⟩
  have samePasskeys : ∀ name, ((history.site.update schema (·.addChallenge row)).schemas
      name).passkeys = (history.site.schemas name).passkeys := by
    intro name
    rw [PasskeySite.update_schemas]
    split
    · next here =>
        rw [here]
        rfl
    · rfl
  constructor
  · intro name pk other found
    obtain ⟨there, _⟩ | ⟨rfl, _, rfl⟩ := places name pk other found
    · exact more _ (sound.rows name pk other there)
    · rw [← unspent]
      exact List.mem_append_right _ (List.mem_singleton_self _)
  · intro name name' pk position first second found present same
    obtain ⟨there, different⟩ | ⟨rfl, rfl, rfl⟩ := places name pk first found
    · obtain ⟨there', _⟩ | ⟨_, _, rfl⟩ := places name' position second present
      · exact sound.apart name name' pk position first second there there' same
      · exact absurd same different
    · obtain ⟨_, different⟩ | ⟨rfl, rfl, rfl⟩ := places name' position second present
      · exact absurd same.symm different
      · exact ⟨rfl, rfl⟩
  · intro entry among name pk other found same
    obtain ⟨there, _⟩ | ⟨_, _, rfl⟩ := places name pk other found
    · exact sound.spent entry among name pk other there same
    · exact absurd (same ▸ List.mem_map_of_mem (sound.genuine entry among).issued) fresh
  · exact sound.once
  · intro name pk passkey found
    dsimp only at found
    rw [samePasskeys] at found
    exact sound.registered name pk passkey found
  · exact fun enrolment among => (sound.rightful enrolment among).mono more
  · exact fun entry among => (sound.genuine entry among).mono more fun _ => id

theorem Sound.addPasskey (sound : Sound webauthn history) {site : PasskeySite}
    (enrolment : Enrolment Response)
    (challenges : ∀ name, (site.schemas name).challenges = (history.site.schemas name).challenges)
    (passkeys : ∀ name, (site.schemas name).passkeys = (history.site.schemas name).passkeys ++
      if name = enrolment.request.schema then [enrolment.passkey] else [])
    (place : enrolment.pk = (history.site.schemas enrolment.request.schema).passkeys.length)
    (rightful : Rightful webauthn history enrolment) :
    Sound webauthn
      { history with site := site, enrolments := history.enrolments ++ [enrolment] } where
  rows name pk row found := by
    dsimp only at found
    rw [challenges] at found
    exact sound.rows name pk row found
  apart name name' pk position row other found present := by
    dsimp only at found present
    rw [challenges] at found present
    exact sound.apart name name' pk position row other found present
  spent entry among name pk row found := by
    dsimp only at found
    rw [challenges] at found
    exact sound.spent entry among name pk row found
  once := sound.once
  registered name pk passkey found := by
    dsimp only at found
    rw [passkeys, List.getElem?_append] at found
    split at found
    · obtain ⟨earlier, among, same⟩ := sound.registered name pk passkey found
      exact ⟨earlier, List.mem_append_left _ among, same⟩
    · next outside =>
        split at found
        · next here =>
            rw [List.getElem?_singleton] at found
            split at found
            · next atEnd =>
                cases found
                refine ⟨enrolment, List.mem_append_right _ (List.mem_singleton_self _), here.symm,
                  ?_, .refl _⟩
                rw [place, ← here]
                exact Nat.le_antisymm (Nat.not_lt.mp outside) (Nat.sub_eq_zero_iff_le.mp atEnd)
            · cases found
        · cases found
  rightful other among := by
    rcases List.mem_append.mp among with earlier | new
    · exact (sound.rightful other earlier).mono fun _ => id
    · rw [List.mem_singleton.mp new]
      exact rightful.mono fun _ => id
  genuine entry among :=
    (sound.genuine entry among).mono (fun _ => id) fun _ => List.mem_append_left _

theorem Sound.enter (sound : Sound webauthn history) (entry : PasskeyEntry Response)
    (spent : ∀ (schema : String) (pk : Pk) (row : WebAuthnChallenge),
      (history.site.schemas schema).challenges[pk]? = some (some row) →
      row.challenge = entry.signIn.challenge.challenge → row.consumedAt ≠ none)
    (fresh : ∀ other ∈ history.entries,
      other.signIn.challenge.challenge ≠ entry.signIn.challenge.challenge)
    (genuine : Genuine webauthn history entry) :
    Sound webauthn { history with entries := history.entries ++ [entry] } where
  rows := sound.rows
  apart := sound.apart
  spent other among := by
    rcases List.mem_append.mp among with earlier | new
    · exact sound.spent other earlier
    · rw [List.mem_singleton.mp new]
      exact spent
  once := by
    rw [List.map_append, List.map_singleton, ← List.concat_eq_append]
    refine List.Nodup.concat ?_ sound.once
    rintro among
    obtain ⟨other, listed, same⟩ := List.mem_map.mp among
    exact fresh other listed same
  registered := sound.registered
  rightful other among := (sound.rightful other among).mono fun _ => id
  genuine other among := by
    rcases List.mem_append.mp among with earlier | new
    · exact (sound.genuine other earlier).mono (fun _ => id) fun _ => id
    · rw [List.mem_singleton.mp new]
      exact genuine.mono (fun _ => id) fun _ => id

/-! ## What one event keeps -/

/-- A challenge that is found unspent is as it was issued. -/
theorem Sound.issued (sound : Sound webauthn history) {schema : String} {pk : Pk}
    {row : WebAuthnChallenge}
    (found : (history.site.schemas schema).challenges[pk]? = some (some row))
    (unspent : row.consumedAt = none) : (schema, row) ∈ history.issued := by
  have listed := sound.rows schema pk row found
  rwa [← unspent] at listed

theorem Sound.finishRegistration (sound : Sound webauthn history) (request : CeremonyRequest)
    (user : Pk) (response : Response) (label : String) (clock : Clock) :
    Sound webauthn (history.enrol request response (webauthn.finishRegistration
      (history.site.schemas request.schema) user request response label clock)) := by
  unfold CeremonyHistory.enrol
  obtain ⟨failure, outcome⟩ | ⟨pk, ⟨failure, outcome⟩ |
      ⟨row, passkey, fresh, owner, enrolled, outcome⟩⟩ :=
    WebAuthn.finishRegistration_cases webauthn (history.site.schemas request.schema) user request
      response label clock
  · rw [outcome]
    simp only [List.append_nil]
    exact sound.goesOn (PasskeySite.later_update _ _ (.refl _))
  · rw [outcome]
    simp only [List.append_nil]
    exact sound.goesOn (PasskeySite.later_consumed history.site request.schema pk _)
  · rw [outcome]
    obtain ⟨⟨position, found⟩, isUser, purpose, unspent, _, same, _, verified⟩ := enrolled
    have spent :=
      sound.goesOn (PasskeySite.later_consumed history.site request.schema pk clock.second)
    apply spent.addPasskey ⟨request, response, _, passkey⟩
    · intro name
      dsimp only
      rw [PasskeySite.update_schemas, PasskeySite.update_schemas]
      split <;> rfl
    · intro name
      dsimp only
      rw [PasskeySite.update_schemas, PasskeySite.update_schemas]
      split
      · rfl
      · rw [List.append_nil]
    · dsimp only
      rw [PasskeySite.update_schemas, if_pos rfl]
      rfl
    · exact ⟨row, sound.issued found unspent, by rw [same]; exact isUser, purpose, verified⟩

theorem countAfter_ge (documented : webauthn.Documented) {response : Response}
    {challenge publicKey : Bytes} {origin : String} {passkey : Passkey} {newSignCount : Nat}
    (counted : webauthn.verifyAuthentication response challenge origin publicKey passkey.signCount =
      some newSignCount) : passkey.signCount ≤ passkey.countAfter newSignCount := by
  unfold Passkey.countAfter
  split
  · obtain up | ⟨zero, _⟩ := documented.counts _ _ _ _ _ _ counted
    · exact Nat.le_of_lt up
    · rw [zero]
      exact Nat.zero_le _
  · exact Nat.le_refl _

/-- A sign-in that is finished spends its challenge and saves the use of its passkey, which goes
on. -/
theorem later_finished (documented : webauthn.Documented) {site : PasskeySite}
    {request : CeremonyRequest} {response : Response} {row : WebAuthnChallenge} {pk : Pk}
    {target : Option LoginTarget} {schema : String} {passkeyPk : Pk} {passkey : Passkey}
    {newSignCount now later : Nat}
    (verified : WebAuthn.Verified webauthn site request response row target schema passkeyPk passkey
      newSignCount) :
    site.Later ((site.update request.schema (·.consumeChallenge pk now)).update schema
      (·.saveUse passkeyPk (passkey.countAfter newSignCount) later)) := by
  refine (site.later_consumed request.schema pk now).trans
    (PasskeySite.later_update _ _ (PasskeyTables.later_saveUse ?_))
  intro stored found
  obtain ⟨located, _, counted⟩ := verified
  obtain ⟨there, _⟩ := WebAuthn.locatePasskey_eq_some located
  rw [PasskeySite.update_passkeys fun tables => tables.consumeChallenge_passkeys _ _, there]
    at found
  cases found
  exact countAfter_ge documented counted

/-- Once its challenge is spent, no unspent row has the same bytes. -/
theorem Sound.spent_after (sound : Sound webauthn history) {request : CeremonyRequest} {pk : Pk}
    {row : WebAuthnChallenge} (found : (history.site.schemas request.schema).challenges[pk]? =
      some (some row)) {now : Nat} {schema : String} {change : PasskeyTables → PasskeyTables}
    (kept : ∀ tables, (change tables).challenges = tables.challenges) (name : String)
    (position : Pk) (other : WebAuthnChallenge)
    (present : (((history.site.update request.schema (·.consumeChallenge pk now)).update schema
      change).schemas name).challenges[position]? = some (some other))
    (same : other.challenge = row.challenge) : other.consumedAt ≠ none := by
  rw [PasskeySite.update_challenges kept] at present
  obtain ⟨earlier, there, becomes⟩ :=
    (history.site.later_consumed request.schema pk now name).challenges position other present
  rw [becomes.challenge] at same
  obtain ⟨rfl, rfl⟩ := sound.apart name request.schema position pk earlier row there found same
  rw [PasskeySite.update_schemas, if_pos rfl, PasskeyTables.consumeChallenge,
    PasskeyTables.setChallenges, List.getElem?_modify_eq, found] at present
  cases present
  nofun

theorem Sound.finishAuthentication (sound : Sound webauthn history)
    (documented : webauthn.Documented) (request : CeremonyRequest) (response : Response)
    (clock : Clock) :
    Sound webauthn (history.enter request response clock.first
      (webauthn.finishAuthentication history.site request response clock)) := by
  unfold CeremonyHistory.enter
  obtain ⟨failure, outcome⟩ | ⟨pk, row, ⟨found, purpose, session, unspent, recent⟩,
      ⟨failure, outcome⟩ | ⟨target, schema, passkeyPk, passkey, newSignCount, result, verified,
        outcome, ⟨failure, rfl⟩ | ⟨user, isUser, active, rfl⟩⟩⟩ :=
    WebAuthn.finishAuthentication_cases webauthn history.site request response clock
  · rw [outcome]
    simp only [List.append_nil]
    exact sound
  · rw [outcome]
    simp only [List.append_nil]
    exact sound.goesOn (PasskeySite.later_consumed history.site request.schema pk _)
  · rw [outcome]
    simp only [List.append_nil]
    exact sound.goesOn (later_finished documented verified)
  · rw [outcome]
    obtain ⟨located, _, counted⟩ := id verified
    obtain ⟨there, _, isActive, bound⟩ := WebAuthn.locatePasskey_eq_some located
    refine (sound.goesOn (later_finished documented verified)).enter
      ⟨request, response, _, _, ⟨pk, row, target, schema, passkeyPk, passkey, _, _, user⟩⟩
      ?_ ?_ ?_
    · exact sound.spent_after found fun tables => tables.saveUse_challenges _ _ _
    · intro other among same
      exact sound.spent other among request.schema pk row found same.symm unspent
    · constructor
      · exact sound.issued found unspent
      · exact purpose
      · exact session
      · exact recent
      · dsimp only
        rw [counted]
        rfl
      · exact there
      · exact ⟨rfl, isUser⟩
      · exact ⟨isActive, active⟩
      · obtain ⟨_, same⟩ | ⟨isPublic, tenant, listed, inForce, named, _⟩ := bound
        · exact .inl same
        · exact .inr ⟨isPublic, tenant, listed, inForce, named⟩
      · obtain ⟨enrolment, among, sameSchema, samePk, becomes⟩ := sound.registered schema passkeyPk
          passkey there
        exact ⟨enrolment, among, sameSchema, samePk, becomes.user.symm, becomes.credentialId.symm,
          becomes.publicKey.symm⟩

theorem Sound.step (sound : Sound webauthn history) (documented : webauthn.Documented)
    {event : CeremonyEvent Response} (drawn : DrawnAnew history event) :
    Sound webauthn (history.step webauthn event) := by
  cases event with
  | beginRegistration request user challenge clock =>
      have pruned := sound.goesOn (PasskeySite.later_update request.schema
        (·.pruneChallenges clock.first) (PasskeyTables.later_pruneChallenges clock.first))
      have issued := pruned.issue request.schema
        (WebAuthn.registrationChallenge user request challenge clock.second) rfl drawn
      rwa [PasskeySite.update_update] at issued
  | finishRegistration request user response label clock =>
      exact sound.finishRegistration request user response label clock
  | beginAuthentication request newKey challenge clock =>
      have pruned := sound.goesOn (PasskeySite.later_update request.schema
        (·.pruneChallenges clock.first) (PasskeyTables.later_pruneChallenges clock.first))
      have issued := pruned.issue request.schema (WebAuthn.authenticationChallenge
        (WebAuthn.sessionFor request newKey) challenge clock.second) rfl drawn
      rwa [PasskeySite.update_update] at issued
  | finishAuthentication request response clock =>
      exact sound.finishAuthentication documented request response clock
  | removePasskey schema user passkeyId =>
      refine sound.goesOn (PasskeySite.later_update _ _ ?_)
      refine Machine.attempt_induction (.refl _) fun after removed => ?_
      rw [WebAuthn.removePasskey_eq_ok removed]
      exact PasskeyTables.later_deactivatePasskey passkeyId
  | addUser schema user =>
      exact sound.goesOn (PasskeySite.later_update _ _ PasskeyTables.later_setUsers)
  | setActive schema user isActive =>
      exact sound.goesOn (PasskeySite.later_update _ _ PasskeyTables.later_setUsers)
  | setRegistry registry => exact sound.goesOn fun schema => .refl _

/-- In every state of a run of requests, one after another, whose challenges are drawn anew, every
sign-in with a passkey is genuine: its assertion answers a challenge that was issued to the same
session, not spent and at most five minutes old, and verifies under the key that the very account
signed in, which is the passkey's own, had registered, both being in force.  No assertion has signed
in twice. -/
theorem passkey_sign_ins_genuine (webauthn : WebAuthn Response) (documented : webauthn.Documented)
    (registry : List Registration) (events : List (CeremonyEvent Response))
    (drawn : Machine.Guarded (CeremonyHistory.step webauthn) DrawnAnew
      (CeremonyHistory.start registry) events) :
    Machine.Always (CeremonyHistory.step webauthn)
      (fun history => (∀ enrolment ∈ history.enrolments, Rightful webauthn history enrolment) ∧
        (∀ entry ∈ history.entries, Genuine webauthn history entry) ∧
        (history.entries.map (·.response)).Nodup)
      (CeremonyHistory.start registry) events := by
  have always := Machine.always_of_guarded (CeremonyHistory.step webauthn) DrawnAnew
    (Sound webauthn) (fun _ _ sound meets => sound.step documented meets) (sound_start registry)
    drawn
  refine always.imp fun history sound => ⟨sound.rightful, sound.genuine, ?_⟩
  apply List.pairwise_map.mpr
  apply (List.pairwise_map.mp sound.once).imp_of_mem
  intro first second among listed different same
  have verified := (sound.genuine first among).verified
  rw [same] at verified
  exact different
    (documented.bound _ _ _ _ _ _ _ _ _ verified (sound.genuine second listed).verified)

/-! ## What later states make of a passkey -/

theorem PasskeysKept.refl (history : CeremonyHistory Response) : PasskeysKept history history where
  kept _ _ passkey found := ⟨passkey, found, .refl passkey⟩
  since := ⟨[], (List.append_nil _).symm, fun _ among => absurd among List.not_mem_nil⟩

theorem PasskeysKept.trans {first second third : CeremonyHistory Response}
    (before : PasskeysKept first second) (after : PasskeysKept second third) :
    PasskeysKept first third where
  kept schema pk passkey found := by
    obtain ⟨between, there, became⟩ := before.kept schema pk passkey found
    obtain ⟨later, present, becomes⟩ := after.kept schema pk between there
    exact ⟨later, present, became.trans becomes⟩
  since := by
    obtain ⟨earlier, sameEarlier, within⟩ := before.since
    obtain ⟨later, sameLater, afterwards⟩ := after.since
    refine ⟨earlier ++ later, by rw [sameLater, sameEarlier, List.append_assoc], ?_⟩
    intro entry among passkey found
    rcases List.mem_append.mp among with first | second
    · exact within entry first passkey found
    · obtain ⟨between, there, became⟩ := before.kept _ _ passkey found
      obtain ⟨active, counts⟩ := afterwards entry second between there
      exact ⟨became.removed active, became.counts.trans counts⟩

theorem PasskeysKept.of_later {site : PasskeySite} (later : history.site.Later site)
    (issued : List (String × WebAuthnChallenge)) :
    PasskeysKept history { history with site := site, issued := issued } where
  kept schema pk passkey found := (later schema).kept pk passkey found
  since := ⟨[], (List.append_nil _).symm, fun _ among => absurd among List.not_mem_nil⟩

theorem begun_passkeys (tables : PasskeyTables) (row : WebAuthnChallenge) (now : Nat) :
    ((tables.pruneChallenges now).addChallenge row).passkeys = tables.passkeys := rfl

theorem PasskeysKept.of_begun (schema : String) (row : WebAuthnChallenge) (now : Nat)
    (issued : List (String × WebAuthnChallenge)) :
    PasskeysKept history { history with
      site := history.site.update schema fun tables =>
        (tables.pruneChallenges now).addChallenge row
      issued := issued } where
  kept name pk passkey found := by
    refine ⟨passkey, ?_, .refl passkey⟩
    dsimp only
    rwa [PasskeySite.update_passkeys fun tables => begun_passkeys tables row now]
  since := ⟨[], (List.append_nil _).symm, fun _ among => absurd among List.not_mem_nil⟩

theorem PasskeysKept.finishRegistration (request : CeremonyRequest) (user : Pk)
    (response : Response) (label : String) (clock : Clock) :
    PasskeysKept history (history.enrol request response (webauthn.finishRegistration
      (history.site.schemas request.schema) user request response label clock)) where
  kept name pk passkey found := by
    refine ⟨passkey, ?_, .refl passkey⟩
    dsimp only [CeremonyHistory.enrol]
    rw [PasskeySite.update_schemas]
    split
    · next here =>
        rw [here] at found
        obtain ⟨failure, outcome⟩ | ⟨challengePk, ⟨failure, outcome⟩ |
            ⟨row, added, fresh, owner, _, outcome⟩⟩ :=
          WebAuthn.finishRegistration_cases webauthn (history.site.schemas request.schema) user
            request response label clock
        · rw [outcome]
          exact found
        · rw [outcome]
          exact found
        · rw [outcome]
          exact List.getElem?_append_left (List.getElem?_eq_some_iff.mp found).1 |>.trans found
    · exact found
  since := ⟨[], (List.append_nil _).symm, fun _ among => absurd among List.not_mem_nil⟩

theorem PasskeysKept.finishAuthentication (documented : webauthn.Documented)
    (request : CeremonyRequest) (response : Response) (clock : Clock) :
    PasskeysKept history (history.enter request response clock.first
      (webauthn.finishAuthentication history.site request response clock)) := by
  unfold CeremonyHistory.enter
  obtain ⟨failure, outcome⟩ | ⟨pk, row, _, ⟨failure, outcome⟩ | ⟨target, schema, passkeyPk, passkey,
      newSignCount, result, verified, outcome, ⟨failure, rfl⟩ | ⟨user, _, _, rfl⟩⟩⟩ :=
    WebAuthn.finishAuthentication_cases webauthn history.site request response clock
  · rw [outcome]
    simp only [List.append_nil]
    exact .refl history
  · rw [outcome]
    simp only [List.append_nil]
    exact .of_later (PasskeySite.later_consumed _ _ _ _) _
  · rw [outcome]
    simp only [List.append_nil]
    exact .of_later (later_finished documented verified) _
  · rw [outcome]
    refine ⟨fun name position stored found =>
      (later_finished documented verified name).kept position stored found, _, rfl, ?_⟩
    intro entry among stored found
    rw [List.mem_singleton.mp among] at found ⊢
    obtain ⟨located, _, counted⟩ := verified
    obtain ⟨there, _, isActive, _⟩ := WebAuthn.locatePasskey_eq_some located
    rw [there] at found
    cases found
    exact ⟨isActive, countAfter_ge documented counted⟩

theorem PasskeysKept.step (documented : webauthn.Documented) (event : CeremonyEvent Response) :
    PasskeysKept history (history.step webauthn event) := by
  cases event with
  | beginRegistration request user challenge clock => exact .of_begun _ _ _ _
  | finishRegistration request user response label clock =>
      exact .finishRegistration request user response label clock
  | beginAuthentication request newKey challenge clock => exact .of_begun _ _ _ _
  | finishAuthentication request response clock =>
      exact .finishAuthentication documented request response clock
  | removePasskey schema user passkeyId =>
      refine .of_later (PasskeySite.later_update _ _ ?_) _
      refine Machine.attempt_induction (.refl _) fun after removed => ?_
      rw [WebAuthn.removePasskey_eq_ok removed]
      exact PasskeyTables.later_deactivatePasskey passkeyId
  | addUser schema user =>
      exact .of_later (PasskeySite.later_update _ _ PasskeyTables.later_setUsers) _
  | setActive schema user isActive =>
      exact .of_later (PasskeySite.later_update _ _ PasskeyTables.later_setUsers) _
  | setRegistry registry =>
      exact ⟨fun _ _ passkey found => ⟨passkey, found, .refl passkey⟩, [],
        (List.append_nil _).symm, fun _ among => absurd among List.not_mem_nil⟩

/-- From any state on, whatever is requested, one request after another: a passkey keeps its
account, its credential and its key, its counter never goes down, and one that was removed stays
removed and signs nobody in. -/
theorem passkeys_kept (webauthn : WebAuthn Response) (documented : webauthn.Documented)
    (history : CeremonyHistory Response) (events : List (CeremonyEvent Response)) :
    Machine.Throughout (CeremonyHistory.step webauthn) PasskeysKept history events :=
  Machine.throughout_of_forall PasskeysKept.refl PasskeysKept.trans
    (fun _ event => .step documented event) history events

end Soundness

/-! ## An authenticator -/

namespace SamplePasskeys

/-- What an authenticator answers: its credential, the challenge, and its counter. -/
structure Answer where
  credentialId : String
  challenge : Bytes
  signCount : Nat
  deriving DecidableEq

/-- A library that takes what an answer says for what was signed. -/
def webauthn : WebAuthn Answer where
  credentialId answer := some answer.credentialId
  verifyRegistration answer challenge _ :=
    if answer.challenge = challenge then .ok ⟨answer.credentialId, [7], answer.signCount⟩
    else .error "Client data challenge was not expected challenge"
  verifyAuthentication answer challenge _ publicKey signCount :=
    if answer.challenge = challenge ∧ publicKey = [7] ∧
        (signCount < answer.signCount ∨ signCount = 0 ∧ answer.signCount = 0) then
      some answer.signCount
    else none

theorem documented : webauthn.Documented where
  bound := by
    intro answer challenge _ publicKey signCount challenge' _ publicKey' signCount' first second
    simp only [webauthn, Option.isSome_ite] at first second
    exact first.1.symm.trans second.1
  counts := by
    intro answer challenge _ publicKey signCount newSignCount counted
    simp only [webauthn] at counted
    split at counted
    · next met =>
        cases counted
        exact met.2.2
    · cases counted

def clock : Clock := ⟨0, 0, 0, Nat.le_refl 0, Nat.le_refl 0⟩

/-- An account registers a passkey at its church and signs in with it from the shared hostname. -/
def events : List (CeremonyEvent Answer) :=
  [.addUser "grace" ⟨"Ada", "Byron", "ada@example.ca", true, none⟩,
    .beginRegistration ⟨"grace", some "s1", "https://vms"⟩ 0 [1] clock,
    .finishRegistration ⟨"grace", some "s1", "https://vms"⟩ 0 ⟨"cred", [1], 0⟩ "laptop" clock,
    .beginAuthentication ⟨publicSchemaName, none, "https://vms"⟩ "s2" [2] clock,
    .finishAuthentication ⟨publicSchemaName, some "s2", "https://vms"⟩ ⟨"cred", [2], 1⟩ clock]

example : ((Machine.run (CeremonyHistory.step webauthn)
    (CeremonyHistory.start [⟨"grace", true⟩]) events).entries.map
      fun entry => (entry.signIn.schema, entry.signIn.userPk)) = [("grace", 0)] := by
  decide +kernel

end SamplePasskeys

open SamplePasskeys in
theorem passkey_sign_ins_genuine_grace :
    Machine.Always (CeremonyHistory.step webauthn)
      (fun history => (∀ enrolment ∈ history.enrolments, Rightful webauthn history enrolment) ∧
        (∀ entry ∈ history.entries, Genuine webauthn history entry) ∧
        (history.entries.map (·.response)).Nodup)
      (CeremonyHistory.start [⟨"grace", true⟩]) events :=
  passkey_sign_ins_genuine webauthn documented [⟨"grace", true⟩] events
    ⟨trivial, List.not_mem_nil, trivial, show [2] ∉ [[1]] by decide, trivial, trivial⟩

open SamplePasskeys in
theorem passkeys_kept_grace :
    Machine.Throughout (CeremonyHistory.step webauthn) PasskeysKept
      (CeremonyHistory.start [⟨"grace", true⟩]) events :=
  passkeys_kept webauthn documented (CeremonyHistory.start [⟨"grace", true⟩]) events

end VolunteerScreening.Accounts
