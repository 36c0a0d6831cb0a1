import VolunteerScreening.Accounts.Links
import VolunteerScreening.Library.Machine

/-!
# Sign-in links over serial runs

Links are issued for any account of any church, looked at by GETs and spent by
POSTs, one request at a time, while accounts and churches change in any way.  A
ledger beside the site remembers what was issued and which payloads were spent.
-/

namespace VolunteerScreening.Accounts

open Tenants

structure Issuance (Payload : Type) where
  payload : Payload
  schema : String
  user : Pk
  link : Pk
  expiresAt : Nat

/-- The site, and what was issued and spent so far. -/
structure LinkHistory (Payload Digest : Type) where
  site : Site Digest
  issued : List (Issuance Payload)
  spent : List Payload

inductive LinkEvent (Payload : Type) where
  | issue (schema : String) (user : Pk) (purpose : LinkPurpose) (issuedBy : Option Pk)
      (secret : String) (clock : Clock)
  | request (method : Method) (binding : Binding) (payload : Payload) (clock : Clock)
  | registry (registry : List Registration)
  | accounts (schema : String) (users : List User)

def LinkHistory.start {Payload Digest : Type} (site : Site Digest) : LinkHistory Payload Digest :=
  ⟨site, [], []⟩

namespace LinkService

variable {Payload Digest : Type} (service : LinkService Payload Digest)

/-- Nobody else can sign: a payload that the signer accepts was issued. -/
def Unforged (history : LinkHistory Payload Digest) (payload : Payload) : Prop :=
  (service.unsign payload).isSome = true → ∃ issuance ∈ history.issued, issuance.payload = payload

def PresentsUnforged (history : LinkHistory Payload Digest) (event : LinkEvent Payload) : Prop :=
  ∀ method binding payload clock, event = .request method binding payload clock →
    service.Unforged history payload

/-! ## What the tables remember -/

/-- A row is the one an issuance wrote, and it is spent exactly when the payload was. -/
structure Filed (spent : List Payload) (issuance : Issuance Payload) (row : LoginLink Digest) :
    Prop where
  signed : ∃ secret stamp,
    issuance.payload = service.dumps ⟨some issuance.schema, some secret⟩ stamp ∧
    row.tokenHash = service.hash secret
  user : row.user = issuance.user
  expiresAt : row.expiresAt = issuance.expiresAt
  unspent_iff : row.consumedAt = none ↔ issuance.payload ∉ spent

/-- Every issuance has a row of its own, and only issued payloads were spent. -/
structure Kept (history : LinkHistory Payload Digest) : Prop where
  filed : ∀ issuance ∈ history.issued, ∃ row,
    (history.site.schemas issuance.schema).links[issuance.link]? = some row ∧
      service.Filed history.spent issuance row
  apart : ∀ first ∈ history.issued, ∀ other ∈ history.issued, first.schema = other.schema →
    first.link = other.link → first = other
  drawn : ∀ payload ∈ history.spent, ∃ issuance ∈ history.issued, issuance.payload = payload

variable {service} {history : LinkHistory Payload Digest}

theorem Filed.same_hash {spent spent' : List Payload} {first other : Issuance Payload}
    {row row' : LoginLink Digest} (filed : service.Filed spent first row)
    (filed' : service.Filed spent' other row') (same : first.payload = other.payload) :
    first.schema = other.schema ∧ row.tokenHash = row'.tokenHash := by
  obtain ⟨secret, stamp, signed, hashed⟩ := filed.signed
  obtain ⟨secret', stamp', signed', hashed'⟩ := filed'.signed
  have carried := congrArg service.unsign same
  rw [signed, signed', service.unsign_dumps, service.unsign_dumps] at carried
  simp only [Option.some.injEq, Prod.mk.injEq, LinkData.mk.injEq] at carried
  obtain ⟨⟨sameSchema, rfl⟩, _⟩ := carried
  exact ⟨sameSchema, hashed.trans hashed'.symm⟩

theorem Kept.payload_unique (kept : service.Kept history) {first other : Issuance Payload}
    (listed : first ∈ history.issued) (present : other ∈ history.issued)
    (same : first.payload = other.payload) : first = other := by
  obtain ⟨row, found, filed⟩ := kept.filed first listed
  obtain ⟨row', found', filed'⟩ := kept.filed other present
  obtain ⟨sameSchema, sameHash⟩ := filed.same_hash filed' same
  rw [sameSchema] at found
  exact kept.apart first listed other present sameSchema
    (LinkTables.position_unique found found' sameHash)

/-! ## What one event keeps -/

theorem kept_start (site : Site Digest) : service.Kept (.start site) where
  filed := nofun
  apart := nofun
  drawn := nofun

theorem Kept.of_same (kept : service.Kept history) {after : LinkHistory Payload Digest}
    (sameIssued : after.issued = history.issued) (sameSpent : after.spent = history.spent)
    (sameLinks : ∀ schema,
      (after.site.schemas schema).links = (history.site.schemas schema).links) :
    service.Kept after := by
  constructor
  · rw [sameIssued, sameSpent]
    intro issuance listed
    rw [sameLinks]
    exact kept.filed issuance listed
  · rw [sameIssued]
    exact kept.apart
  · rw [sameIssued, sameSpent]
    exact kept.drawn

/-- Spending a payload marks the one row that the payload was issued for. -/
theorem Kept.spend (kept : service.Kept history) {issuance : Issuance Payload}
    (listed : issuance ∈ history.issued) (now : Nat) :
    service.Kept { history with
      site := history.site.consume issuance.schema issuance.link now
      spent := history.spent ++ [issuance.payload] } := by
  constructor
  · intro other present
    obtain ⟨row, found, filed⟩ := kept.filed other present
    by_cases same : other = issuance
    · subst same
      refine ⟨row.consume now, ?_, filed.signed, filed.user, filed.expiresAt, ?_⟩
      · rw [Site.consume, Site.setTables_schemas, if_pos rfl]
        exact LinkTables.consume_self now found
      · simp [LoginLink.consume]
    · have elsewhere : ¬ (other.schema = issuance.schema ∧ issuance.link = other.link) := by
        rintro ⟨sameSchema, sameLink⟩
        exact same (kept.apart other present issuance listed sameSchema sameLink.symm)
      refine ⟨row, ?_, filed.signed, filed.user, filed.expiresAt, ?_⟩
      · rw [Site.consume, Site.setTables_schemas]
        split
        · next sameSchema =>
            have otherLink : issuance.link ≠ other.link := fun sameLink =>
              elsewhere ⟨sameSchema, sameLink⟩
            rw [← sameSchema, LinkTables.consume_other now otherLink]
            exact found
        · exact found
      · rw [filed.unspent_iff, List.mem_append, List.mem_singleton, not_or]
        refine (and_iff_left ?_).symm
        exact fun samePayload => same (kept.payload_unique present listed samePayload)
  · exact kept.apart
  · intro payload spent
    rcases List.mem_append.mp spent with earlier | new
    · exact kept.drawn payload earlier
    · exact ⟨issuance, listed, (List.mem_singleton.mp new).symm⟩

variable [DecidableEq Digest]

theorem Kept.issue (kept : service.Kept history) {schema : String} {user : Pk}
    {purpose : LinkPurpose} {issuedBy : Option Pk} {secret : String} {clock : Clock}
    {made : Issued Payload Digest}
    (issued : service.issueLink history.site schema user purpose issuedBy secret clock =
      some made) :
    service.Kept { history with
      site := made.site
      issued := history.issued ++
        [⟨made.payload, schema, made.row.user, made.pk, made.row.expiresAt⟩] } := by
  obtain ⟨fresh, stored, position, hashed, unused, signed⟩ := of_issueLink issued
  have kept_row : ∀ {name : String} {pk : Pk} {row : LoginLink Digest},
      (history.site.schemas name).links[pk]? = some row →
      (made.site.schemas name).links[pk]? = some row := by
    intro name pk row found
    rw [stored, Site.setTables_schemas]
    split
    · next same =>
        subst same
        exact LinkTables.addLink_kept found
    · exact found
  have new_row : (made.site.schemas schema).links[made.pk]? = some made.row := by
    rw [stored, Site.setTables_schemas, if_pos rfl, position]
    exact LinkTables.addLink_new
  have unspent : made.payload ∉ history.spent := by
    intro spent
    obtain ⟨earlier, listed, same⟩ := kept.drawn _ spent
    obtain ⟨row, found, filed⟩ := kept.filed earlier listed
    obtain ⟨secret', stamp', signed', hashed'⟩ := filed.signed
    have carried := congrArg service.unsign same
    rw [signed', signed, service.unsign_dumps, service.unsign_dumps] at carried
    simp only [Option.some.injEq, Prod.mk.injEq, LinkData.mk.injEq] at carried
    obtain ⟨⟨sameSchema, rfl⟩, _⟩ := carried
    apply fresh
    rw [hashed, ← hashed', ← sameSchema]
    exact List.mem_map_of_mem (List.mem_of_getElem? found)
  have within : ∀ earlier ∈ history.issued, earlier.schema = schema → earlier.link ≠ made.pk := by
    rintro earlier listed rfl same
    obtain ⟨row, found, _⟩ := kept.filed earlier listed
    have bound := (List.getElem?_eq_some_iff.mp found).1
    rw [same, position] at bound
    exact Nat.lt_irrefl _ bound
  constructor
  · intro issuance listed
    rcases List.mem_append.mp listed with earlier | new
    · obtain ⟨row, found, filed⟩ := kept.filed issuance earlier
      exact ⟨row, kept_row found, filed⟩
    · cases List.mem_singleton.mp new
      exact ⟨made.row, new_row, ⟨secret, _, signed, hashed⟩, rfl, rfl,
        ⟨fun _ => unspent, fun _ => unused⟩⟩
  · intro first listed other present sameSchema sameLink
    rcases List.mem_append.mp listed with earlier | new <;>
      rcases List.mem_append.mp present with earlier' | new'
    · exact kept.apart first earlier other earlier' sameSchema sameLink
    · cases List.mem_singleton.mp new'
      exact absurd sameLink (within first earlier sameSchema)
    · cases List.mem_singleton.mp new
      exact absurd sameLink.symm (within other earlier' sameSchema.symm)
    · exact (List.mem_singleton.mp new).trans (List.mem_singleton.mp new').symm
  · intro payload spent
    obtain ⟨issuance, listed, same⟩ := kept.drawn payload spent
    exact ⟨issuance, List.mem_append_left _ listed, same⟩

theorem Kept.issuance_of_accepted (kept : service.Kept history) {binding : Binding}
    {payload : Payload} {clock : Clock} (unforged : service.Unforged history payload)
    {signIn : SignIn Digest}
    (accepted : (service.verifyLink history.site binding payload clock).result = .ok signIn) :
    ∃ issuance ∈ history.issued, issuance.payload = payload ∧
      issuance.schema = signIn.target.schemaName ∧ issuance.link = signIn.found.pk ∧
      service.Filed history.spent issuance signIn.found.row := by
  obtain ⟨secret, opened, looked, _⟩ := verifyLink_accepted accepted
  obtain ⟨data, loaded, _, token, _, bound⟩ := openLink_ok_iff.mp opened
  obtain ⟨stamp, signed, _⟩ := Signer.loads_ok_iff.mp loaded
  obtain ⟨issuance, listed, rfl⟩ := unforged (by rw [signed]; rfl)
  obtain ⟨row, found, filed⟩ := kept.filed issuance listed
  obtain ⟨secret', stamp', payload_eq, hashed⟩ := filed.signed
  rw [payload_eq, service.unsign_dumps] at signed
  cases signed
  dsimp only [Option.getD_some] at token bound
  subst token
  have named := (of_bind bound).1
  obtain ⟨present, hashed', _⟩ := LinkTables.findLink_eq_some_iff.mp looked
  rw [named] at present
  have same : issuance.link = signIn.found.pk :=
    LinkTables.position_unique found present (hashed.trans hashed'.symm)
  rw [same, present] at found
  cases found
  exact ⟨issuance, listed, rfl, named.symm, same, filed⟩

/-! ## Runs -/

variable (service)

def happen (history : LinkHistory Payload Digest) (event : LinkEvent Payload) :
    LinkHistory Payload Digest :=
  match event with
  | .issue schema user purpose issuedBy secret clock =>
      match service.issueLink history.site schema user purpose issuedBy secret clock with
      | none => history
      | some made =>
          { history with
            site := made.site
            issued := history.issued ++
              [⟨made.payload, schema, made.row.user, made.pk, made.row.expiresAt⟩] }
  | .request method binding payload clock =>
      let (site, _, response) := service.linkConsume history.site binding method payload clock
      { history with
        site := site
        spent := if response.isSignIn then history.spent ++ [payload] else history.spent }
  | .registry registry => { history with site := { history.site with registry := registry } }
  | .accounts schema users =>
      { history with
        site := history.site.setTables schema ((history.site.schemas schema).setUsers users) }

theorem happen_request (history : LinkHistory Payload Digest) (method : Method) (binding : Binding)
    (payload : Payload) (clock : Clock) :
    service.happen history (.request method binding payload clock) = history ∨
      ∃ signIn, (service.verifyLink history.site binding payload clock).result = .ok signIn ∧
        service.happen history (.request method binding payload clock) =
          { history with
            site := history.site.consume signIn.target.schemaName signIn.found.pk clock.third
            spent := history.spent ++ [payload] } := by
  obtain ⟨reason, _, visited⟩ | ⟨signIn, accepted, visited⟩ :=
    service.linkConsume_cases history.site binding method payload clock
  · left
    simp [happen, visited, LinkResponse.isSignIn]
  · cases method with
    | get =>
        left
        simp [happen, visited, SignIn.response, LinkResponse.isSignIn]
    | post =>
        right
        refine ⟨signIn, accepted, ?_⟩
        simp [happen, visited, SignIn.response, LinkResponse.isSignIn]

variable {service}

theorem happen_get (binding : Binding) (payload : Payload) (clock : Clock) :
    service.happen history (.request .get binding payload clock) = history := by
  obtain ⟨reason, _, visited⟩ | ⟨signIn, _, visited⟩ :=
    service.linkConsume_cases history.site binding .get payload clock
  · simp [happen, visited, LinkResponse.isSignIn]
  · simp [happen, visited, SignIn.response, LinkResponse.isSignIn]

theorem kept_happen (kept : service.Kept history) {event : LinkEvent Payload}
    (unforged : service.PresentsUnforged history event) :
    service.Kept (service.happen history event) := by
  cases event with
  | issue schema user purpose issuedBy secret clock =>
      dsimp only [happen]
      split
      · exact kept
      · next made issued => exact kept.issue issued
  | request method binding payload clock =>
      obtain same | ⟨signIn, accepted, spent⟩ :=
        service.happen_request history method binding payload clock
      · rw [same]
        exact kept
      · obtain ⟨issuance, listed, rfl, sameSchema, sameLink, _⟩ :=
          kept.issuance_of_accepted (unforged method binding payload clock rfl) accepted
        rw [spent, ← sameSchema, ← sameLink]
        exact kept.spend listed clock.third
  | registry registry => exact kept.of_same rfl rfl fun _ => rfl
  | accounts schema users =>
      refine kept.of_same rfl rfl fun name => ?_
      dsimp only [happen]
      rw [Site.setTables_schemas]
      split
      · next same => rw [same, LinkTables.setUsers]
      · rfl

/-! ## What holds of every history -/

variable (service)

/-- A payload that was accepted is one that was issued for the account it signs in, for the first
time, before it expires, and its account and church are active. -/
structure Entitled (history : LinkHistory Payload Digest) (payload : Payload) (clock : Clock)
    (signIn : SignIn Digest) (issuance : Issuance Payload) : Prop where
  presented : issuance.payload = payload
  ownChurch : issuance.schema = signIn.target.schemaName
  ownAccount : issuance.user = signIn.found.row.user
  unspent : payload ∉ history.spent
  unexpired : clock.first < issuance.expiresAt
  account : (history.site.schemas issuance.schema).users[issuance.user]? = some signIn.found.user
  active : signIn.found.user.isActive = true
  church : issuance.schema = publicSchemaName ∨
    ∃ tenant ∈ history.site.registry, tenant.schemaName = issuance.schema ∧ tenant.isActive = true

/-- A link that stays usable until it expires, and that signs its account in when it is posted. -/
structure Usable (history : LinkHistory Payload Digest) (issuance : Issuance Payload) : Prop where
  row : ∃ row, (history.site.schemas issuance.schema).links[issuance.link]? = some row ∧
    ∀ now < issuance.expiresAt, row.isUsable now = true
  spendable : ∀ binding clock opened user,
    service.openLink history.site issuance.payload clock.first = .ok opened →
    clock.second < issuance.expiresAt →
    (history.site.schemas issuance.schema).users[issuance.user]? = some user →
    user.isActive = true →
    ∃ signIn, (service.consumeLink history.site binding issuance.payload clock).2.result =
        .ok signIn ∧
      signIn.target.schemaName = issuance.schema ∧ signIn.found.row.user = issuance.user

/-- What links promise at one point of a history. -/
structure LinkLaw (history : LinkHistory Payload Digest) : Prop where
  entitled : ∀ binding payload clock signIn, service.Unforged history payload →
    (service.consumeLink history.site binding payload clock).2.result = .ok signIn →
    ∃ issuance ∈ history.issued, Entitled history payload clock signIn issuance
  lookedAt : ∀ gets : List (Binding × Payload × Clock),
    ∀ issuance ∈ history.issued, issuance.payload ∉ history.spent →
      service.Usable (Machine.run service.happen history
        (gets.map fun get => .request .get get.1 get.2.1 get.2.2)) issuance
  refused : ∀ method binding payload clock reason,
    (service.linkConsume history.site binding method payload clock).2.2 = .linkInvalid reason →
    (service.linkConsume history.site binding method payload clock).1 = history.site ∧
      (service.linkConsume history.site binding method payload clock).2.1 =
        if (service.openLink history.site payload clock.first).isOk then .publicSchema else binding

variable {service}

theorem Kept.entitled (kept : service.Kept history) {binding : Binding} {payload : Payload}
    {clock : Clock} (unforged : service.Unforged history payload) {signIn : SignIn Digest}
    (accepted : (service.verifyLink history.site binding payload clock).result = .ok signIn) :
    ∃ issuance ∈ history.issued, Entitled history payload clock signIn issuance := by
  obtain ⟨issuance, listed, rfl, schema, link, filed⟩ := kept.issuance_of_accepted unforged accepted
  obtain ⟨secret, opened, looked, usable, active, _⟩ := verifyLink_accepted accepted
  obtain ⟨data, _, _, _, _, bound⟩ := openLink_ok_iff.mp opened
  obtain ⟨_, _, account⟩ := LinkTables.findLink_eq_some_iff.mp looked
  obtain ⟨unconsumed, inTime⟩ := (signIn.found.row.isUsable_iff clock.second).mp usable
  refine ⟨issuance, listed, rfl, schema, filed.user.symm, filed.unspent_iff.mp unconsumed, ?_, ?_,
    active, ?_⟩
  · rw [← filed.expiresAt]
    exact Nat.lt_of_le_of_lt clock.second_ge inTime
  · rw [schema, ← filed.user]
    exact account
  · rw [schema]
    obtain ⟨_, isPublic | ⟨tenant, registered, isChurch, same, live⟩⟩ := of_bind bound
    · left
      rw [isPublic]
    · right
      rw [isChurch]
      exact ⟨tenant, registered, same, live⟩

theorem Kept.usable (kept : service.Kept history) {issuance : Issuance Payload}
    (listed : issuance ∈ history.issued) (unspent : issuance.payload ∉ history.spent) :
    service.Usable history issuance := by
  obtain ⟨row, found, filed⟩ := kept.filed issuance listed
  have usable : ∀ now < issuance.expiresAt, row.isUsable now = true := fun now inTime =>
    (row.isUsable_iff now).mpr
      ⟨filed.unspent_iff.mpr unspent, filed.expiresAt.symm ▸ inTime⟩
  refine ⟨⟨row, found, usable⟩, ?_⟩
  rintro binding clock ⟨target, secret⟩ user opened inTime account active
  obtain ⟨data, loaded, _, token, _, bound⟩ := openLink_ok_iff.mp opened
  obtain ⟨stamp, signed, _⟩ := Signer.loads_ok_iff.mp loaded
  obtain ⟨secret', stamp', issued, hashed⟩ := filed.signed
  rw [issued, service.unsign_dumps] at signed
  cases signed
  dsimp only [Option.getD_some] at token bound
  subst token
  have named := (of_bind bound).1
  have looked : (history.site.schemas target.schemaName).findLink (service.hash secret') =
      some ⟨issuance.link, row, user⟩ := by
    rw [named]
    apply LinkTables.findLink_eq_some_iff.mpr
    exact ⟨found, hashed, filed.user.symm ▸ account⟩
  refine ⟨⟨target, issuance.link, row, user⟩, ?_, named, filed.user⟩
  rw [consumeLink_presented, verifyLink_opened opened,
    checkLink_of_usable looked (usable clock.second inTime) active]

theorem linkConsume_refused {method : Method} {binding : Binding} {payload : Payload}
    {clock : Clock} {reason : String}
    (refused : (service.linkConsume history.site binding method payload clock).2.2 =
      .linkInvalid reason) :
    (service.linkConsume history.site binding method payload clock).1 = history.site ∧
      (service.linkConsume history.site binding method payload clock).2.1 =
        if (service.openLink history.site payload clock.first).isOk then .publicSchema
        else binding := by
  obtain ⟨reason', failed, visited⟩ | ⟨signIn, _, visited⟩ :=
    service.linkConsume_cases history.site binding method payload clock
  · rw [visited]
    refine ⟨rfl, ?_⟩
    obtain ⟨_, unopened, left⟩ | ⟨_, opened, left⟩ := verifyLink_refused failed
    · rw [left, unopened]
      rfl
    · rw [left, opened]
      rfl
  · rw [visited] at refused
    cases method <;> cases refused

/-- Over every history of issuing, looking at and posting links, while accounts and churches change
in any way: a link signs somebody in only as it was issued and only once, looking at a link leaves
it usable, and a refusal leaves the request at the public schema if the link had pointed it at a
church. -/
theorem links_keep_their_law (site : Site Digest) {events : List (LinkEvent Payload)}
    (unforged : Machine.Guarded service.happen service.PresentsUnforged (.start site) events) :
    Machine.Always service.happen service.LinkLaw (.start site) events := by
  have kept : Machine.Always service.happen service.Kept (.start site) events :=
    Machine.always_of_guarded service.happen service.PresentsUnforged service.Kept
      (fun history event here presents => kept_happen here presents) (kept_start site) unforged
  refine kept.imp ?_
  intro history here
  constructor
  · intro binding payload clock signIn known accepted
    rw [consumeLink_presented] at accepted
    exact here.entitled known accepted
  · intro gets issuance listed unspent
    have same : Machine.run service.happen history
        (gets.map fun get => .request .get get.1 get.2.1 get.2.2) = history := by
      induction gets with
      | nil => rfl
      | cons get rest inductionHypothesis =>
          rw [List.map_cons, Machine.run_cons, happen_get]
          exact inductionHypothesis
    rw [same]
    exact here.usable listed unspent
  · intro method binding payload clock reason
    exact linkConsume_refused

end LinkService

/-! ## One invitation -/

namespace SampleLinks

/-- A signer that puts its mark on what it signs. -/
def service : LinkService (LinkData × Nat × Bool) String where
  dumps data stamp := (data, stamp, true)
  unsign payload := if payload.2.2 then some (payload.1, payload.2.1) else none
  unsign_dumps _ _ := rfl
  inviteLinkDays := 7
  recoveryLinkMinutes := 30
  hash := id

def site : Site String where
  registry := [⟨"grace", true⟩]
  schemas _ := ⟨[⟨"Ada", "", "ada@grace.example", true, none⟩], [], List.nodup_nil⟩

def clock : Clock := ⟨oneSecond, oneSecond, oneSecond, Nat.le_refl _, Nat.le_refl _⟩

def invitation : LinkData × Nat × Bool := (⟨some "grace", some "secret"⟩, 1, true)

def inviting : LinkEvent (LinkData × Nat × Bool) := .issue "grace" 0 .invite none "secret" clock

def events : List (LinkEvent (LinkData × Nat × Bool)) :=
  [inviting,
    .request .get .publicSchema (⟨some "grace", some "secret"⟩, 1, false) clock,
    .request .get .publicSchema invitation clock,
    .request .post .publicSchema invitation clock]

example : ((Machine.run service.happen (.start site) events).spent) = [invitation] := by decide

end SampleLinks

theorem invitation_keeps_its_law :
    Machine.Always SampleLinks.service.happen SampleLinks.service.LinkLaw (.start SampleLinks.site)
      SampleLinks.events := by
  apply LinkService.links_keep_their_law
  refine ⟨nofun, ?_, ?_, ?_, trivial⟩
  · rintro _ _ _ _ ⟨⟩ signed
    cases signed
  · rintro _ _ _ _ ⟨⟩ _
    exact ⟨_, List.mem_singleton.mpr rfl, rfl⟩
  · rintro _ _ _ _ ⟨⟩ _
    exact ⟨_, List.mem_singleton.mpr rfl, rfl⟩

end VolunteerScreening.Accounts
