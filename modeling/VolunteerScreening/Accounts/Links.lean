import VolunteerScreening.Accounts.Models
import VolunteerScreening.Tenants.Routing
import Mathlib.Data.List.Nodup

/-!
# One-time sign-in links

Issuing a link, verifying it and spending it.  What goes into the URL is a signed
payload of the account's schema and a secret; only the secret's digest is
stored.  Times are microseconds.
-/

namespace VolunteerScreening.Accounts

open Tenants

inductive LinkPurpose where
  | invite
  | recovery
  deriving DecidableEq, Repr

structure LoginLink (Digest : Type) where
  user : Pk
  tokenHash : Digest
  purpose : LinkPurpose
  issuedBy : Option Pk
  createdAt : Nat
  expiresAt : Nat
  consumedAt : Option Nat
  deriving DecidableEq

namespace LoginLink

variable {Digest : Type} (link : LoginLink Digest) (now : Nat)

def isExpired : Bool := decide (link.expiresAt ≤ now)

def isUsable : Bool := link.consumedAt.isNone && !link.isExpired now

def consume : LoginLink Digest := { link with consumedAt := some now }

@[simp]
theorem consume_tokenHash : (link.consume now).tokenHash = link.tokenHash := rfl

theorem isUsable_iff :
    link.isUsable now = true ↔ link.consumedAt = none ∧ now < link.expiresAt := by
  simp [isUsable, isExpired]

end LoginLink

/-! ## The tables a link is looked up in -/

/-- The accounts of one schema and the links issued for them.  No two links share a digest. -/
structure LinkTables (Digest : Type) where
  users : List User
  links : List (LoginLink Digest)
  tokenHash_unique : (links.map (·.tokenHash)).Nodup

structure FoundLink (Digest : Type) where
  pk : Pk
  row : LoginLink Digest
  user : User

namespace LinkTables

variable {Digest : Type} (tables : LinkTables Digest)

def addLink (link : LoginLink Digest) (fresh : link.tokenHash ∉ tables.links.map (·.tokenHash)) :
    LinkTables Digest where
  users := tables.users
  links := tables.links ++ [link]
  tokenHash_unique := by
    rw [List.map_append, List.map_singleton, ← List.concat_eq_append]
    exact List.Nodup.concat fresh tables.tokenHash_unique

def consume (pk : Pk) (now : Nat) : LinkTables Digest where
  users := tables.users
  links := tables.links.modify pk (·.consume now)
  tokenHash_unique := by
    have same : (tables.links.modify pk (·.consume now)).map (·.tokenHash) =
        tables.links.map (·.tokenHash) := by
      apply List.ext_getElem?
      intro position
      rw [List.getElem?_map, List.getElem?_map, List.getElem?_modify]
      cases tables.links[position]? with
      | none => rfl
      | some link => by_cases here : pk = position <;> simp [here]
    rw [same]
    exact tables.tokenHash_unique

theorem addLink_kept {tables : LinkTables Digest} {link row : LoginLink Digest}
    {fresh : link.tokenHash ∉ tables.links.map (·.tokenHash)} {pk : Pk}
    (found : tables.links[pk]? = some row) : (tables.addLink link fresh).links[pk]? = some row := by
  rw [addLink, List.getElem?_append_left (List.getElem?_eq_some_iff.mp found).1]
  exact found

theorem addLink_new {tables : LinkTables Digest} {link : LoginLink Digest}
    {fresh : link.tokenHash ∉ tables.links.map (·.tokenHash)} :
    (tables.addLink link fresh).links[tables.links.length]? = some link :=
  List.getElem?_concat_length

theorem consume_self {tables : LinkTables Digest} {row : LoginLink Digest} {pk : Pk} (now : Nat)
    (found : tables.links[pk]? = some row) :
    (tables.consume pk now).links[pk]? = some (row.consume now) := by
  rw [consume, List.getElem?_modify_eq, found]
  rfl

theorem consume_other {tables : LinkTables Digest} {pk position : Pk} (now : Nat)
    (other : pk ≠ position) :
    (tables.consume pk now).links[position]? = tables.links[position]? :=
  List.getElem?_modify_ne _ _ other

def setUsers (users : List User) : LinkTables Digest := { tables with users := users }

variable {tables}

theorem position_unique {first second : Pk} {link other : LoginLink Digest}
    (found : tables.links[first]? = some link) (present : tables.links[second]? = some other)
    (same : link.tokenHash = other.tokenHash) : first = second := by
  obtain ⟨within, rfl⟩ := List.getElem?_eq_some_iff.mp found
  obtain ⟨inside, rfl⟩ := List.getElem?_eq_some_iff.mp present
  have within' : first < (tables.links.map (·.tokenHash)).length := by simpa using within
  have inside' : second < (tables.links.map (·.tokenHash)).length := by simpa using inside
  apply (@List.Nodup.getElem_inj_iff _ _ tables.tokenHash_unique first within' second inside').mp
  rw [List.getElem_map, List.getElem_map]
  exact same

variable (tables) [DecidableEq Digest]

def findLink (digest : Digest) : Option (FoundLink Digest) :=
  (tables.links.findIdx? fun link => decide (link.tokenHash = digest)).bind fun pk =>
    (tables.links[pk]?).bind fun row => (tables.users[row.user]?).map fun user => ⟨pk, row, user⟩

variable {tables}

theorem findLink_eq_some_iff {digest : Digest} {found : FoundLink Digest} :
    tables.findLink digest = some found ↔
      tables.links[found.pk]? = some found.row ∧ found.row.tokenHash = digest ∧
        tables.users[found.row.user]? = some found.user := by
  obtain ⟨pk, row, user⟩ := found
  constructor
  · intro looked
    obtain ⟨position, first, looked⟩ := Option.bind_eq_some_iff.mp looked
    obtain ⟨link, present, looked⟩ := Option.bind_eq_some_iff.mp looked
    obtain ⟨account, listed, same⟩ := Option.map_eq_some_iff.mp looked
    cases same
    obtain ⟨_, hashed, _⟩ := List.findIdx?_eq_some_iff_getElem.mp first
    obtain ⟨_, rfl⟩ := List.getElem?_eq_some_iff.mp present
    exact ⟨present, of_decide_eq_true hashed, listed⟩
  · rintro ⟨present, rfl, listed⟩
    dsimp only at present listed
    have some_ :
        (tables.links.findIdx? fun link => decide (link.tokenHash = row.tokenHash)).isSome := by
      rw [List.findIdx?_isSome, List.any_eq_true]
      exact ⟨row, List.mem_of_getElem? present, by simp⟩
    obtain ⟨first, looked⟩ := Option.isSome_iff_exists.mp some_
    obtain ⟨within, hashed, _⟩ := List.findIdx?_eq_some_iff_getElem.mp looked
    have same : first = pk := position_unique (List.getElem?_eq_getElem within) present
      (of_decide_eq_true hashed)
    subst same
    simp [findLink, looked, present, listed]

end LinkTables

structure Site (Digest : Type) where
  registry : List Registration
  schemas : String → LinkTables Digest

namespace Site

variable {Digest : Type} (site : Site Digest)

def setTables (schema : String) (tables : LinkTables Digest) : Site Digest :=
  { site with schemas := Function.update site.schemas schema tables }

theorem setTables_schemas (schema name : String) (tables : LinkTables Digest) :
    (site.setTables schema tables).schemas name =
      if name = schema then tables else site.schemas name :=
  Function.update_apply site.schemas schema tables name

def consume (schema : String) (pk : Pk) (now : Nat) : Site Digest :=
  site.setTables schema ((site.schemas schema).consume pk now)

end Site

/-! ## Signing -/

/-- What is signed into a URL.  Either key may be missing. -/
structure LinkData where
  schema : Option String
  token : Option String
  deriving DecidableEq

inductive SigningError where
  | badSignature
  | signatureExpired
  deriving DecidableEq

/-- The signer of links: a payload keeps what was signed and the second it was signed in. -/
structure Signer (Payload : Type) where
  dumps : LinkData → Nat → Payload
  unsign : Payload → Option (LinkData × Nat)
  unsign_dumps : ∀ data stamp, unsign (dumps data stamp) = some (data, stamp)

/-- One second, in microseconds. -/
def oneSecond : Nat := 1000000

/-- What a payload carries, unless it is not signed or was signed too many seconds ago. -/
def Signer.loads {Payload : Type} (signer : Signer Payload) (payload : Payload) (maxAge now : Nat) :
    Except SigningError LinkData :=
  match signer.unsign payload with
  | none => .error .badSignature
  | some (data, stamp) =>
      if (stamp + maxAge) * oneSecond < now then .error .signatureExpired else .ok data

theorem Signer.loads_ok_iff {Payload : Type} {signer : Signer Payload} {payload : Payload}
    {maxAge now : Nat} {data : LinkData} :
    signer.loads payload maxAge now = .ok data ↔
      ∃ stamp, signer.unsign payload = some (data, stamp) ∧ now ≤ (stamp + maxAge) * oneSecond := by
  unfold Signer.loads
  cases signer.unsign payload with
  | none => simp
  | some signed =>
      obtain ⟨carried, stamp⟩ := signed
      by_cases old : (stamp + maxAge) * oneSecond < now
      · simp only [if_pos old]
        constructor
        · nofun
        · rintro ⟨_, ⟨⟩, recent⟩
          exact absurd old (Nat.not_lt.mpr recent)
      · simp only [if_neg old, Except.ok.injEq, Option.some.injEq, Prod.mk.injEq]
        constructor
        · rintro rfl
          exact ⟨stamp, ⟨rfl, rfl⟩, Nat.not_lt.mp old⟩
        · rintro ⟨_, ⟨rfl, _⟩, _⟩
          rfl

/-! ## The service -/

/-- The clock as one request reads it, three times in order. -/
structure Clock where
  first : Nat
  second : Nat
  third : Nat
  second_ge : first ≤ second
  third_ge : second ≤ third

/-- Deliberately the same for every failure. -/
def genericError : String := "That sign-in link is no longer valid."

/-- What a schema name points a request at, refusing anything that is not a live church. -/
def bind (registry : List Registration) (schema : String) : Except String LoginTarget :=
  if schema = publicSchemaName then .ok ⟨publicSchemaName, none, 0⟩
  else
    match resolveTenant registry schema with
    | none => .error genericError
    | some tenant => .ok ⟨schema, some tenant, 0⟩

theorem of_bind {registry : List Registration} {schema : String} {target : LoginTarget}
    (bound : bind registry schema = .ok target) :
    target.schemaName = schema ∧
      (target = ⟨publicSchemaName, none, 0⟩ ∨
        ∃ tenant ∈ registry, target = ⟨schema, some tenant, 0⟩ ∧ tenant.schemaName = schema ∧
          tenant.isActive = true) := by
  unfold bind at bound
  split at bound
  · next isPublic =>
      cases bound
      exact ⟨isPublic.symm, .inl rfl⟩
  · split at bound
    · cases bound
    · next tenant resolved =>
        obtain ⟨listed, same, active⟩ := of_resolveTenant resolved
        cases bound
        exact ⟨rfl, .inr ⟨tenant, listed, rfl, same, active⟩⟩

theorem bind_error {registry : List Registration} {schema failure : String}
    (refused : bind registry schema = .error failure) : failure = genericError := by
  unfold bind at refused
  split at refused
  · cases refused
  · split at refused
    · cases refused
      rfl
    · cases refused

structure SignIn (Digest : Type) where
  target : LoginTarget
  found : FoundLink Digest

/-- What presenting a link leaves: where the request points, and what came of it. -/
structure Presented (Digest : Type) where
  binding : Binding
  result : Except String (SignIn Digest)

structure Issued (Payload Digest : Type) where
  site : Site Digest
  pk : Pk
  row : LoginLink Digest
  payload : Payload

structure LinkService (Payload Digest : Type) extends Signer Payload where
  inviteLinkDays : Nat
  recoveryLinkMinutes : Nat
  hash : String → Digest

namespace LinkService

variable {Payload Digest : Type} (service : LinkService Payload Digest)

/-- How long a link of one kind lives, in seconds. -/
def lifetime : LinkPurpose → Nat
  | .recovery => service.recoveryLinkMinutes * 60
  | .invite => service.inviteLinkDays * 24 * 60 * 60

/-- The longest any link may live: the signer cannot know the purpose. -/
def maxAge : Nat := service.lifetime .invite

variable [DecidableEq Digest]

def issueLink (site : Site Digest) (schema : String) (user : Pk) (purpose : LinkPurpose)
    (issuedBy : Option Pk) (secret : String) (clock : Clock) : Option (Issued Payload Digest) :=
  let tables := site.schemas schema
  let link : LoginLink Digest := ⟨user, service.hash secret, purpose, issuedBy, clock.second,
    clock.first + service.lifetime purpose * oneSecond, none⟩
  if fresh : user < tables.users.length ∧ link.tokenHash ∉ tables.links.map (·.tokenHash) then
    some ⟨site.setTables schema (tables.addLink link fresh.2), tables.links.length, link,
      service.dumps ⟨some schema, some secret⟩ (clock.third / oneSecond)⟩
  else none

/-- The first half of verifying a payload: its signature and its church. -/
def openLink (site : Site Digest) (payload : Payload) (now : Nat) :
    Except String (LoginTarget × String) :=
  match service.loads payload service.maxAge now with
  | .error _ => .error genericError
  | .ok data =>
      let schema := data.schema.getD ""
      let secret := data.token.getD ""
      if schema = "" ∨ secret = "" then .error genericError
      else (bind site.registry schema).map fun target => (target, secret)

/-- The second half: the link itself, once the request points at its church. -/
def checkLink (site : Site Digest) (target : LoginTarget) (secret : String) (now : Nat) :
    Presented Digest :=
  match (site.schemas target.schemaName).findLink (service.hash secret) with
  | none => ⟨.publicSchema, .error genericError⟩
  | some found =>
      if found.row.isUsable now && found.user.isActive then ⟨target.binding, .ok ⟨target, found⟩⟩
      else ⟨.publicSchema, .error genericError⟩

/-- Validate a payload and bind the request to its schema, without spending it. -/
def verifyLink (site : Site Digest) (binding : Binding) (payload : Payload) (clock : Clock) :
    Presented Digest :=
  match service.openLink site payload clock.first with
  | .error failure => ⟨binding, .error failure⟩
  | .ok (target, secret) => service.checkLink site target secret clock.second

def consumeLink (site : Site Digest) (binding : Binding) (payload : Payload) (clock : Clock) :
    Site Digest × Presented Digest :=
  let presented := service.verifyLink site binding payload clock
  match presented.result with
  | .error _ => (site, presented)
  | .ok signIn =>
      (site.consume signIn.target.schemaName signIn.found.pk clock.third, presented)

/-! ## What each half can do -/

section

omit [DecidableEq Digest]

variable {service} {site : Site Digest} {payload : Payload} {now : Nat}

theorem openLink_ok_iff {target : LoginTarget} {secret : String} :
    service.openLink site payload now = .ok (target, secret) ↔
      ∃ data, service.loads payload service.maxAge now = .ok data ∧
        data.schema.getD "" ≠ "" ∧ data.token.getD "" = secret ∧ secret ≠ "" ∧
        bind site.registry (data.schema.getD "") = .ok target := by
  unfold openLink
  cases service.loads payload service.maxAge now with
  | error failure => simp
  | ok data =>
      by_cases blank : data.schema.getD "" = "" ∨ data.token.getD "" = ""
      · simp only [if_pos blank]
        constructor
        · nofun
        · rintro ⟨_, ⟨⟩, named, rfl, present, _⟩
          exact absurd blank (by simp [named, present])
      · simp only [if_neg blank]
        rw [not_or] at blank
        cases bound : bind site.registry (data.schema.getD "") with
        | error failure => simp [Except.map, bound]
        | ok pointed =>
            simp only [Except.map, Except.ok.injEq, Prod.mk.injEq, exists_eq_left', bound]
            constructor
            · rintro ⟨rfl, rfl⟩
              exact ⟨blank.1, rfl, blank.2, rfl⟩
            · rintro ⟨_, rfl, _, rfl⟩
              exact ⟨rfl, rfl⟩

theorem openLink_error {failure : String}
    (refused : service.openLink site payload now = .error failure) : failure = genericError := by
  unfold openLink at refused
  split at refused
  · cases refused
    rfl
  · next data _ =>
      dsimp only at refused
      split at refused
      · cases refused
        rfl
      · cases bound : bind site.registry (data.schema.getD "") with
        | ok target => simp [bound, Except.map] at refused
        | error failure' =>
            rw [bound] at refused
            cases refused
            exact bind_error bound

end

variable {service} {site : Site Digest} {binding : Binding} {payload : Payload} {clock : Clock}

theorem of_issueLink {schema : String} {user : Pk} {purpose : LinkPurpose}
    {issuedBy : Option Pk} {secret : String} {issued : Issued Payload Digest}
    (made : service.issueLink site schema user purpose issuedBy secret clock = some issued) :
    ∃ fresh : issued.row.tokenHash ∉ (site.schemas schema).links.map (·.tokenHash),
      issued.site = site.setTables schema ((site.schemas schema).addLink issued.row fresh) ∧
      issued.pk = (site.schemas schema).links.length ∧
      issued.row.tokenHash = service.hash secret ∧ issued.row.consumedAt = none ∧
      issued.payload = service.dumps ⟨some schema, some secret⟩ (clock.third / oneSecond) := by
  dsimp only [issueLink] at made
  split at made
  · next fresh =>
      cases made
      exact ⟨fresh.2, rfl, rfl, rfl, rfl, rfl⟩
  · cases made

/-- A link is accepted, which leaves the request at its church, or refused, which leaves it at the
public schema. -/
theorem checkLink_cases (service : LinkService Payload Digest) (site : Site Digest)
    (target : LoginTarget) (secret : String) (now : Nat) :
    service.checkLink site target secret now = ⟨.publicSchema, .error genericError⟩ ∨
      ∃ found, (site.schemas target.schemaName).findLink (service.hash secret) = some found ∧
        found.row.isUsable now = true ∧ found.user.isActive = true ∧
        service.checkLink site target secret now = ⟨target.binding, .ok ⟨target, found⟩⟩ := by
  unfold checkLink
  cases (site.schemas target.schemaName).findLink (service.hash secret) with
  | none => exact .inl rfl
  | some found =>
      dsimp only
      split
      · next accepted =>
          rw [Bool.and_eq_true] at accepted
          exact .inr ⟨found, rfl, accepted.1, accepted.2, rfl⟩
      · exact .inl rfl

theorem checkLink_of_usable {target : LoginTarget} {secret : String} {now : Nat}
    {found : FoundLink Digest}
    (looked : (site.schemas target.schemaName).findLink (service.hash secret) = some found)
    (usable : found.row.isUsable now = true) (active : found.user.isActive = true) :
    service.checkLink site target secret now = ⟨target.binding, .ok ⟨target, found⟩⟩ := by
  simp [checkLink, looked, usable, active]

theorem verifyLink_unopened {failure : String}
    (refused : service.openLink site payload clock.first = .error failure) :
    service.verifyLink site binding payload clock = ⟨binding, .error genericError⟩ := by
  rw [verifyLink, refused, openLink_error refused]

theorem verifyLink_opened {target : LoginTarget} {secret : String}
    (opened : service.openLink site payload clock.first = .ok (target, secret)) :
    service.verifyLink site binding payload clock =
      service.checkLink site target secret clock.second := by
  rw [verifyLink, opened]

theorem verifyLink_accepted {signIn : SignIn Digest}
    (accepted : (service.verifyLink site binding payload clock).result = .ok signIn) :
    ∃ secret, service.openLink site payload clock.first = .ok (signIn.target, secret) ∧
      (site.schemas signIn.target.schemaName).findLink (service.hash secret) =
        some signIn.found ∧
      signIn.found.row.isUsable clock.second = true ∧ signIn.found.user.isActive = true ∧
      (service.verifyLink site binding payload clock).binding = signIn.target.binding := by
  cases opened : service.openLink site payload clock.first with
  | error failure =>
      rw [verifyLink_unopened opened] at accepted
      cases accepted
  | ok pair =>
      obtain ⟨target, secret⟩ := pair
      rw [verifyLink_opened opened] at accepted ⊢
      obtain refused | ⟨found, looked, usable, active, checked⟩ :=
        checkLink_cases service site target secret clock.second
      · rw [refused] at accepted
        cases accepted
      · rw [checked] at accepted ⊢
        cases accepted
        exact ⟨secret, rfl, looked, usable, active, rfl⟩

/-- A failure leaves a request that was pointed at a schema by the payload at the public one. -/
theorem verifyLink_refused {failure : String}
    (refused : (service.verifyLink site binding payload clock).result = .error failure) :
    (∃ failure', service.openLink site payload clock.first = .error failure' ∧
        service.verifyLink site binding payload clock = ⟨binding, .error genericError⟩) ∨
      ∃ opened, service.openLink site payload clock.first = .ok opened ∧
        service.verifyLink site binding payload clock = ⟨.publicSchema, .error genericError⟩ := by
  cases opened : service.openLink site payload clock.first with
  | error failure' => exact .inl ⟨failure', rfl, verifyLink_unopened opened⟩
  | ok pair =>
      obtain ⟨target, secret⟩ := pair
      rw [verifyLink_opened opened] at refused ⊢
      obtain closed | ⟨found, _, _, _, checked⟩ :=
        checkLink_cases service site target secret clock.second
      · exact .inr ⟨_, rfl, closed⟩
      · rw [checked] at refused
        cases refused

/-! ## The page -/

theorem consumeLink_presented :
    (service.consumeLink site binding payload clock).2 =
      service.verifyLink site binding payload clock := by
  dsimp only [consumeLink]
  split <;> rfl

theorem consumeLink_refused {failure : String}
    (refused : (service.verifyLink site binding payload clock).result = .error failure) :
    (service.consumeLink site binding payload clock).1 = site := by
  dsimp only [consumeLink]
  rw [refused]

theorem consumeLink_accepted {signIn : SignIn Digest}
    (accepted : (service.verifyLink site binding payload clock).result = .ok signIn) :
    (service.consumeLink site binding payload clock).1 =
      site.consume signIn.target.schemaName signIn.found.pk clock.third := by
  dsimp only [consumeLink]
  rw [accepted]

end LinkService

inductive Method where
  | get
  | post
  deriving DecidableEq

inductive TenantCookie where
  | cleared
  | pinned (schemaName : String)
  deriving DecidableEq

inductive LinkResponse where
  | linkInvalid (reason : String)
  | linkConfirm (firstName : String) (isRecovery : Bool)
  | signedIn (user : Pk) (toSecurity : Bool) (cookie : TenantCookie)
  deriving DecidableEq

def LinkResponse.isSignIn : LinkResponse → Bool
  | .signedIn _ _ _ => true
  | _ => false

/-- Name the church a visitor is now signed in to.  The console is the state without a cookie. -/
def applyTenantCookie (target : LoginTarget) : TenantCookie :=
  if target.isPublic then .cleared else .pinned target.schemaName

def User.shortName (user : User) : String :=
  if user.firstName ≠ "" then user.firstName else user.fullName

def SignIn.response {Digest : Type} (signIn : SignIn Digest) : Method → LinkResponse
  | .get => .linkConfirm signIn.found.user.shortName (decide (signIn.found.row.purpose = .recovery))
  | .post =>
      .signedIn signIn.found.row.user (decide (signIn.found.row.purpose = .recovery))
        (applyTenantCookie signIn.target)

def Presented.response {Digest : Type} (presented : Presented Digest) (method : Method) :
    LinkResponse :=
  match presented.result with
  | .error reason => .linkInvalid reason
  | .ok signIn => signIn.response method

/-- Confirm a link by a GET, which anything may fetch, and spend it by a POST. -/
def LinkService.linkConsume {Payload Digest : Type} [DecidableEq Digest]
    (service : LinkService Payload Digest) (site : Site Digest) (binding : Binding)
    (method : Method) (payload : Payload) (clock : Clock) :
    Site Digest × Binding × LinkResponse :=
  match method with
  | .get =>
      let presented := service.verifyLink site binding payload clock
      (site, presented.binding, presented.response .get)
  | .post =>
      let (after, presented) := service.consumeLink site binding payload clock
      (after, presented.binding, presented.response .post)

/-- Only a POST of a link that is accepted signs anybody in or writes. -/
theorem LinkService.linkConsume_cases {Payload Digest : Type} [DecidableEq Digest]
    (service : LinkService Payload Digest) (site : Site Digest) (binding : Binding)
    (method : Method) (payload : Payload) (clock : Clock) :
    (∃ reason, (service.verifyLink site binding payload clock).result = .error reason ∧
        service.linkConsume site binding method payload clock =
          (site, (service.verifyLink site binding payload clock).binding, .linkInvalid reason)) ∨
      ∃ signIn, (service.verifyLink site binding payload clock).result = .ok signIn ∧
        service.linkConsume site binding method payload clock =
          (if method = .post then
              site.consume signIn.target.schemaName signIn.found.pk clock.third
            else site,
            signIn.target.binding, signIn.response method) := by
  cases outcome : (service.verifyLink site binding payload clock).result with
  | error reason =>
      refine .inl ⟨reason, rfl, ?_⟩
      cases method with
      | get => simp [LinkService.linkConsume, Presented.response, outcome]
      | post =>
          simp [LinkService.linkConsume, Presented.response,
            LinkService.consumeLink_refused outcome, LinkService.consumeLink_presented, outcome]
  | ok signIn =>
      refine .inr ⟨signIn, rfl, ?_⟩
      obtain ⟨_, _, _, _, _, bound⟩ := LinkService.verifyLink_accepted outcome
      cases method with
      | get => simp [LinkService.linkConsume, Presented.response, outcome, bound]
      | post =>
          simp [LinkService.linkConsume, Presented.response,
            LinkService.consumeLink_accepted outcome, LinkService.consumeLink_presented, outcome,
            bound]

end VolunteerScreening.Accounts
