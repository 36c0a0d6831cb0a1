import VolunteerScreening.Accounts.Recovery
import VolunteerScreening.Results.LinkUse
import VolunteerScreening.Results.LoginTargets

/-!
# What asking for a recovery link sends

Over any run of changes to the accounts, of links issued and posted and of
recovery requests, a request mints one link for each active account that has the
address, whatever goes wrong in other churches.  Each link stays usable until it
is posted or expires, and no earlier link is spoiled.
-/

namespace VolunteerScreening.Accounts

open Tenants

def RecoveryHalf.isMinted : RecoveryHalf → Bool
  | .fails => false
  | .mints _ _ => true

section Minting

variable {Payload Digest : Type}

def recoveryIssuance (sent : LoginTarget × Issued Payload Digest) : Issuance Payload :=
  ⟨sent.2.payload, sent.1.schemaName, sent.2.row.user, sent.2.pk, sent.2.row.expiresAt⟩

namespace LinkHistory

def recovered (history : LinkHistory Payload Digest)
    (outcome : Site Digest × List (LoginTarget × Issued Payload Digest)) :
    LinkHistory Payload Digest :=
  { history with
    site := outcome.1
    issued := history.issued ++ outcome.2.map recoveryIssuance }

end LinkHistory

namespace LinkService

variable [DecidableEq Digest] {service : LinkService Payload Digest}

theorem of_recoverTarget {site : Site Digest} {target : LoginTarget} {half : RecoveryHalf}
    {issued : Issued Payload Digest}
    (minted : service.recoverTarget site target half = some issued) :
    ∃ secret clock, half = .mints secret clock ∧
      service.issueLink site target.schemaName target.userPk .recovery none secret clock =
        some issued := by
  cases half with
  | fails => cases minted
  | mints secret clock =>
      dsimp only [recoverTarget] at minted
      split at minted
      · cases minted
      · split at minted
        · exact ⟨secret, clock, rfl, minted⟩
        · cases minted

theorem Kept.issue_unspent {history : LinkHistory Payload Digest} (kept : service.Kept history)
    {schema : String} {user : Pk} {purpose : LinkPurpose} {issuedBy : Option Pk} {secret : String}
    {clock : Clock} {made : Issued Payload Digest}
    (issued : service.issueLink history.site schema user purpose issuedBy secret clock =
      some made) :
    made.payload ∉ history.spent := by
  have after := kept.issue issued
  obtain ⟨row, found, filed⟩ := after.filed _ (List.mem_append_right _ (List.mem_singleton.mpr rfl))
  obtain ⟨fresh, stored, position, _, unused, _⟩ := of_issueLink issued
  dsimp only at found filed
  rw [stored, Site.setTables_schemas, if_pos rfl, position, LinkTables.addLink_new] at found
  cases found
  exact filed.unspent_iff.mp unused

/-- Minting every target's link keeps the ledger, and nothing that is minted was spent. -/
theorem Kept.recoverTargets (halves : LoginTarget → RecoveryHalf) (targets : List LoginTarget)
    {history : LinkHistory Payload Digest} (kept : service.Kept history) :
    service.Kept (history.recovered (service.recoverTargets halves targets history.site)) ∧
      ∀ sent ∈ (service.recoverTargets halves targets history.site).2,
        sent.2.payload ∉ history.spent := by
  induction targets generalizing history with
  | nil =>
      refine ⟨kept.of_same ?_ rfl fun _ => rfl, fun sent listed => absurd listed List.not_mem_nil⟩
      exact List.append_nil _
  | cons target rest inductionHypothesis =>
      dsimp only [LinkService.recoverTargets]
      split
      · exact inductionHypothesis kept
      · next issued minted =>
          obtain ⟨secret, clock, _, made⟩ := of_recoverTarget minted
          obtain ⟨later, unspent⟩ := inductionHypothesis (kept.issue made)
          constructor
          · refine later.of_same ?_ rfl fun _ => rfl
            simp [LinkHistory.recovered, recoveryIssuance]
          · intro sent listed
            rcases List.mem_cons.mp listed with rfl | listed
            · exact kept.issue_unspent made
            · exact unspent sent listed

theorem issueLink_elsewhere {site : Site Digest} {schema other : String} {user : Pk}
    {purpose : LinkPurpose} {issuedBy : Option Pk} {secret : String} {clock : Clock}
    {made : Issued Payload Digest}
    (issued : service.issueLink site schema user purpose issuedBy secret clock = some made)
    (elsewhere : other ≠ schema) : made.site.schemas other = site.schemas other := by
  obtain ⟨_, stored, _⟩ := of_issueLink issued
  rw [stored, Site.setTables_schemas, if_neg elsewhere]

/-- An active account's link is minted if its secret is new to its church. -/
theorem recoverTarget_of_active {site : Site Digest} {target : LoginTarget} {secret : String}
    {clock : Clock} {user : User}
    (found : (site.schemas target.schemaName).users[target.userPk]? = some user)
    (active : user.isActive = true)
    (fresh : service.hash secret ∉ (site.schemas target.schemaName).links.map (·.tokenHash)) :
    ∃ issued, service.recoverTarget site target (.mints secret clock) = some issued ∧
      issued.row.user = target.userPk := by
  have within : target.userPk < (site.schemas target.schemaName).users.length :=
    (List.getElem?_eq_some_iff.mp found).1
  dsimp only [recoverTarget]
  rw [found]
  dsimp only
  rw [if_pos active]
  dsimp only [issueLink]
  rw [dif_pos ⟨within, fresh⟩]
  exact ⟨_, rfl, rfl⟩

/-- Every target whose half goes through gets its link, whatever happens to the others. -/
theorem recoverTargets_targets {halves : LoginTarget → RecoveryHalf} (targets : List LoginTarget)
    {site : Site Digest} (apart : (targets.map (·.schemaName)).Nodup)
    (active : ∀ target ∈ targets, ∃ user : User,
      (site.schemas target.schemaName).users[target.userPk]? = some user ∧ user.isActive = true)
    (fresh : ∀ target ∈ targets, ∀ secret clock, halves target = .mints secret clock →
      service.hash secret ∉ (site.schemas target.schemaName).links.map (·.tokenHash)) :
    (service.recoverTargets halves targets site).2.map
        (fun sent => (sent.1, sent.2.row.user)) =
      (targets.filter fun target => (halves target).isMinted).map
        fun target => (target, target.userPk) := by
  induction targets generalizing site with
  | nil => rfl
  | cons target rest inductionHypothesis =>
      rw [List.map_cons] at apart
      obtain ⟨others, apart⟩ := List.nodup_cons.mp apart
      obtain ⟨user, found, isActive⟩ := active target List.mem_cons_self
      dsimp only [LinkService.recoverTargets]
      cases half : halves target with
      | fails =>
          rw [List.filter_cons_of_neg (by simp [half, RecoveryHalf.isMinted])]
          exact inductionHypothesis apart
            (fun other listed => active other (List.mem_cons_of_mem _ listed))
            fun other listed => fresh other (List.mem_cons_of_mem _ listed)
      | mints secret clock =>
          obtain ⟨issued, minted, same⟩ :=
            @recoverTarget_of_active _ _ _ service _ _ _ clock _ found isActive
              (fresh target List.mem_cons_self secret clock half)
          obtain ⟨_, _, _, made⟩ := of_recoverTarget minted
          have elsewhere : ∀ other ∈ rest,
              issued.site.schemas other.schemaName = site.schemas other.schemaName := by
            intro other listed
            refine issueLink_elsewhere made fun sameSchema => others ?_
            exact List.mem_map.mpr ⟨other, listed, sameSchema⟩
          rw [List.filter_cons_of_pos (by simp [half, RecoveryHalf.isMinted]), minted]
          dsimp only
          rw [List.map_cons, List.map_cons, same]
          refine congrArg _ (inductionHypothesis apart ?_ ?_)
          · intro other listed
            rw [elsewhere other listed]
            exact active other (List.mem_cons_of_mem _ listed)
          · intro other listed
            rw [elsewhere other listed]
            exact fresh other (List.mem_cons_of_mem _ listed)

end LinkService

end Minting

/-! ## Runs -/

/-- The accounts, and the links that were issued for them. -/
structure Platform (Payload Digest : Type) where
  accounts : AccountSite
  links : LinkHistory Payload Digest

inductive PlatformEvent (Payload : Type) where
  | account (event : AccountEvent)
  | issue (schema : String) (user : Pk) (purpose : LinkPurpose) (issuedBy : Option Pk)
      (secret : String) (clock : Clock)
  | request (method : Method) (binding : Binding) (payload : Payload) (clock : Clock)
  | recover (email : String) (halves : LoginTarget → RecoveryHalf)

/-- The links' tables with the accounts as they now are. -/
def LinkHistory.follow {Payload Digest : Type} (history : LinkHistory Payload Digest)
    (accounts : AccountSite) : LinkHistory Payload Digest :=
  { history with
    site := ⟨accounts.registry, fun schema =>
      (history.site.schemas schema).setUsers
        ((accounts.schemas schema).users.map (·.toUser))⟩ }

namespace Platform

variable {Payload Digest : Type} [DecidableEq Digest] (service : LinkService Payload Digest)
  (index : AddressIndex)

def step (platform : Platform Payload Digest) : PlatformEvent Payload → Platform Payload Digest
  | .account event =>
      let accounts := AccountSite.step index platform.accounts event
      ⟨accounts, platform.links.follow accounts⟩
  | .issue schema user purpose issuedBy secret clock =>
      { platform with
        links := service.happen platform.links (.issue schema user purpose issuedBy secret clock) }
  | .request method binding payload clock =>
      { platform with
        links := service.happen platform.links (.request method binding payload clock) }
  | .recover email halves =>
      { platform with
        links := platform.links.recovered
          (service.sendRecoveryLinks index platform.accounts halves email platform.links.site) }

def start (registry : List Registration) : Platform Payload Digest :=
  ⟨AccountSite.start registry, .start ⟨registry, fun _ => ⟨[], [], .nil⟩⟩⟩

/-- What a run takes for granted: what is posted was signed here, no two churches of the registry
share a schema, and the addresses typed in are among those that folding and hashing keep apart. -/
def Allows (addresses : List String) (platform : Platform Payload Digest) :
    PlatformEvent Payload → Prop
  | .account event => (∀ address ∈ event.entered index, address ∈ addresses) ∧
      ∀ registry, event = .setRegistry registry → (registry.map (·.schemaName)).Nodup
  | .request _ _ payload _ => service.Unforged platform.links payload
  | _ => True

/-- The secrets of a request are new to their churches. -/
def DrawsNew (platform : Platform Payload Digest) (halves : LoginTarget → RecoveryHalf) : Prop :=
  ∀ target secret clock, halves target = .mints secret clock →
    service.hash secret ∉ (platform.links.site.schemas target.schemaName).links.map (·.tokenHash)

/-- What a request for recovery leaves. -/
structure Recovers (email : String) (halves : LoginTarget → RecoveryHalf)
    (platform : Platform Payload Digest) (minted : List (Issuance Payload)) : Prop where
  noted : (step service index platform (.recover email halves)).links.issued =
    platform.links.issued ++ minted
  owned : ∀ issuance ∈ minted, ∃ target, platform.accounts.Holds index email target ∧
    issuance.schema = target.schemaName ∧ issuance.user = target.userPk
  reached : ∀ target, platform.accounts.Holds index email target →
    (halves target).isMinted = true →
    ∃ issuance ∈ minted, issuance.schema = target.schemaName ∧ issuance.user = target.userPk
  once : (minted.map (·.schema)).Nodup
  usable : ∀ issuance ∈ (step service index platform (.recover email halves)).links.issued,
    issuance.payload ∉ platform.links.spent →
      service.Usable (step service index platform (.recover email halves)).links issuance
  unspent : ∀ issuance ∈ minted, issuance.payload ∉ platform.links.spent

/-- The accounts are in step, the links' tables have them, and the ledger is kept. -/
structure Sound (addresses : List String) (platform : Platform Payload Digest) : Prop where
  inStep : ∀ schema, (platform.accounts.schemas schema).InStep index addresses schema
  apart : (platform.accounts.registry.map (·.schemaName)).Nodup
  users : ∀ schema, (platform.links.site.schemas schema).users =
    (platform.accounts.schemas schema).users.map (·.toUser)
  kept : service.Kept platform.links

section Keeping

variable {service} {index} {addresses : List String} {platform : Platform Payload Digest}

theorem issueLink_users {site : Site Digest} {schema : String} {user : Pk}
    {purpose : LinkPurpose} {issuedBy : Option Pk} {secret : String} {clock : Clock}
    {made : Issued Payload Digest}
    (issued : service.issueLink site schema user purpose issuedBy secret clock = some made)
    (name : String) : (made.site.schemas name).users = (site.schemas name).users := by
  obtain ⟨_, stored, _⟩ := LinkService.of_issueLink issued
  rw [stored, Site.setTables_schemas]
  split
  · next same => rw [same, LinkTables.addLink]
  · rfl

theorem recoverTargets_users {halves : LoginTarget → RecoveryHalf} (targets : List LoginTarget)
    (site : Site Digest) (name : String) :
    ((service.recoverTargets halves targets site).1.schemas name).users =
      (site.schemas name).users := by
  induction targets generalizing site with
  | nil => rfl
  | cons target rest inductionHypothesis =>
      dsimp only [LinkService.recoverTargets]
      split
      · exact inductionHypothesis site
      · next issued minted =>
          obtain ⟨_, _, _, made⟩ := LinkService.of_recoverTarget minted
          exact (inductionHypothesis issued.site).trans (issueLink_users made name)

/-- Issuing a link and posting one leave the accounts alone. -/
theorem happen_users {history : LinkHistory Payload Digest} {event : LinkEvent Payload}
    (ofLinks : (∃ schema user purpose issuedBy secret clock,
        event = .issue schema user purpose issuedBy secret clock) ∨
      ∃ method binding payload clock, event = .request method binding payload clock)
    (name : String) :
    ((service.happen history event).site.schemas name).users =
      (history.site.schemas name).users := by
  obtain ⟨schema, user, purpose, issuedBy, secret, clock, rfl⟩ |
    ⟨method, binding, payload, clock, rfl⟩ := ofLinks
  · dsimp only [LinkService.happen]
    split
    · rfl
    · next made issued => exact issueLink_users issued name
  · obtain same | ⟨signIn, _, spent⟩ := service.happen_request history method binding payload clock
    · rw [same]
    · rw [spent]
      dsimp only [Site.consume]
      rw [Site.setTables_schemas]
      split
      · next same => rw [same, LinkTables.consume]
      · rfl

theorem step_registry (site : AccountSite) (event : AccountEvent) :
    (AccountSite.step index site event).registry = site.registry ∨
      ∃ registry, event = .setRegistry registry ∧
        (AccountSite.step index site event).registry = registry := by
  cases event with
  | createUser schema firstName lastName email => exact .inl rfl
  | saveProfile schema pk firstName lastName email =>
      dsimp only [AccountSite.step]
      split <;> exact .inl rfl
  | setActive schema pk isActive =>
      dsimp only [AccountSite.step]
      split <;> exact .inl rfl
  | setRegistry registry => exact .inr ⟨registry, rfl, rfl⟩

omit [DecidableEq Digest] in
theorem sound_start {registry : List Registration}
    (apart : (registry.map (·.schemaName)).Nodup) :
    Sound service index addresses (start registry : Platform Payload Digest) where
  inStep := nofun
  apart := apart
  users _ := rfl
  kept := LinkService.kept_start _

theorem sound_step (documented : index.Documented addresses) (platform : Platform Payload Digest)
    (event : PlatformEvent Payload) (sound : Sound service index addresses platform)
    (allowed : Allows service index addresses platform event) :
    Sound service index addresses (step service index platform event) := by
  cases event with
  | account event =>
      refine ⟨AccountSite.step_inStep documented _ event sound.inStep allowed.1, ?_, fun _ => rfl,
        sound.kept.of_same rfl rfl fun _ => rfl⟩
      dsimp only [step]
      obtain same | ⟨registry, isRegistry, replaced⟩ := step_registry platform.accounts event
      · rw [same]
        exact sound.apart
      · rw [replaced]
        exact allowed.2 registry isRegistry
  | issue schema user purpose issuedBy secret clock =>
      have kept : service.Kept (service.happen platform.links
          (.issue schema user purpose issuedBy secret clock)) :=
        LinkService.kept_happen sound.kept nofun
      refine ⟨sound.inStep, sound.apart, fun name => ?_, kept⟩
      exact (happen_users (.inl ⟨_, _, _, _, _, _, rfl⟩) name).trans (sound.users name)
  | request method binding payload clock =>
      have kept : service.Kept (service.happen platform.links
          (.request method binding payload clock)) := by
        refine LinkService.kept_happen sound.kept ?_
        rintro _ _ _ _ ⟨⟩
        exact allowed
      refine ⟨sound.inStep, sound.apart, fun name => ?_, kept⟩
      exact (happen_users (.inr ⟨_, _, _, _, rfl⟩) name).trans (sound.users name)
  | recover email halves =>
      exact ⟨sound.inStep, sound.apart,
        fun name => (recoverTargets_users _ _ name).trans (sound.users name),
        (sound.kept.recoverTargets halves _).1⟩

theorem targets_apart {email : String} {site : AccountSite} (finds : site.Finds index email)
    (apart : (site.registry.map (·.schemaName)).Nodup) :
    ((site.findLoginTargets index email).map (·.schemaName)).Nodup := by
  let nameOf : Option Registration → String := fun tenant =>
    (tenant.map (·.schemaName)).getD publicSchemaName
  have named : (site.findLoginTargets index email).map (·.schemaName) =
      ((site.findLoginTargets index email).map (·.tenant)).map nameOf := by
    rw [List.map_map]
    refine List.map_congr_left fun target listed => ?_
    obtain ⟨⟨console, same⟩ | ⟨tenant, _, church, same⟩, _⟩ := (finds.exact target).mp listed
    · simp [nameOf, console, same]
    · simp [nameOf, church, same]
  rw [named]
  refine (finds.ordered.map nameOf).nodup ?_
  rw [List.map_cons, List.nodup_cons, List.map_map]
  constructor
  · intro listed
    obtain ⟨tenant, church, same⟩ := List.mem_map.mp listed
    exact (mem_searchedChurches.mp church).2.2 same
  · exact (List.filter_sublist.map _).nodup apart

theorem recovers_of_sound (documented : index.Documented addresses)
    (sound : Sound service index addresses platform) {email : String}
    (searched : index.normaliseEmail email ∈ addresses) {halves : LoginTarget → RecoveryHalf}
    (drawn : DrawsNew service platform halves) :
    ∃ minted, Recovers service index email halves platform minted := by
  have finds := AccountSite.finds_of_inStep documented sound.inStep searched
  have apart := targets_apart finds sound.apart
  obtain ⟨kept, unspent⟩ := sound.kept.recoverTargets halves
    (platform.accounts.findLoginTargets index email)
  have active : ∀ target ∈ platform.accounts.findLoginTargets index email, ∃ user : User,
      (platform.links.site.schemas target.schemaName).users[target.userPk]? = some user ∧
        user.isActive = true := by
    intro target listed
    obtain ⟨_, user, found, isActive, _⟩ := (finds.exact target).mp listed
    refine ⟨user.toUser, ?_, isActive⟩
    rw [sound.users, List.getElem?_map, found]
    rfl
  have sent := LinkService.recoverTargets_targets _ apart active
    fun target _ secret clock half => drawn target secret clock half
  have places : ((service.sendRecoveryLinks index platform.accounts halves email
        platform.links.site).2.map fun sent => (sent.1, sent.2.row.user)) =
      ((platform.accounts.findLoginTargets index email).filter fun target =>
        (halves target).isMinted).map fun target => (target, target.userPk) := sent
  refine ⟨_, rfl, ?_, ?_, ?_, fun issuance listed fresh => kept.usable listed fresh, ?_⟩
  · intro issuance listed
    obtain ⟨link, minted, rfl⟩ := List.mem_map.mp listed
    have place := List.mem_map_of_mem (f := fun sent => (sent.1, sent.2.row.user)) minted
    rw [places] at place
    obtain ⟨target, wanted, same⟩ := List.mem_map.mp place
    obtain ⟨rfl, user⟩ := Prod.mk.inj same
    exact ⟨_, (finds.exact _).mp (List.mem_filter.mp wanted).1, rfl, user.symm⟩
  · intro target holds goesThrough
    have chosen : target ∈ (platform.accounts.findLoginTargets index email).filter fun target =>
        (halves target).isMinted :=
      List.mem_filter.mpr ⟨(finds.exact target).mpr holds, goesThrough⟩
    have wanted := List.mem_map_of_mem (f := fun target => (target, target.userPk)) chosen
    rw [← places] at wanted
    obtain ⟨link, minted, same⟩ := List.mem_map.mp wanted
    obtain ⟨rfl, user⟩ := Prod.mk.inj same
    exact ⟨_, List.mem_map_of_mem minted, rfl, user⟩
  · have schemas := congrArg (List.map fun place => place.1.schemaName) places
    rw [List.map_map, List.map_map] at schemas
    rw [List.map_map]
    refine schemas.symm ▸ ?_
    exact (List.filter_sublist.map _).nodup apart
  · intro issuance listed
    obtain ⟨link, minted, rfl⟩ := List.mem_map.mp listed
    exact unspent link minted

end Keeping

/-- Over any run, a request for recovery mints exactly one link for each active account of the
console and of the active churches that has the address and whose own church can mint one.  Each is
usable until it is posted or expires, while its account is active and its church in force, and no
earlier link is spoiled. -/
theorem recovery_links_exact {registry : List Registration}
    (apart : (registry.map (·.schemaName)).Nodup) (email : String) {addresses : List String}
    (searched : index.normaliseEmail email ∈ addresses) (documented : index.Documented addresses)
    {events : List (PlatformEvent Payload)}
    (allowed : Machine.Guarded (step service index) (Allows service index addresses)
      (start registry) events) :
    Machine.Always (step service index)
      (fun platform => ∀ halves, DrawsNew service platform halves →
        ∃ minted, Recovers service index email halves platform minted)
      (start registry) events := by
  have always := Machine.always_of_guarded (step service index) (Allows service index addresses)
    (Sound service index addresses) (sound_step documented) (sound_start apart) allowed
  exact always.imp fun platform sound halves drawn =>
    recovers_of_sound documented sound searched drawn

end Platform

/-! ## One person at two churches -/

namespace SampleRecovery

def halves (target : LoginTarget) : RecoveryHalf :=
  if target.schemaName = "grace" then .mints "again" SampleLinks.clock else .fails

def events : List (PlatformEvent (LinkData × Nat × Bool)) :=
  [.account (.createUser "grace" "Ann" "Berg" " Ann@Example.org"),
    .account (.createUser "hope" "Ann" "Berg" "ann@example.org"),
    .issue "grace" 0 .invite none "secret" SampleLinks.clock,
    .recover "ANN@example.org" halves,
    .request .post .publicSchema SampleLinks.invitation SampleLinks.clock]

def recovery : LinkData × Nat × Bool := (⟨some "grace", some "again"⟩, 1, true)

/-- The invitation and then the one recovery link that goes through. -/
theorem issued : (Machine.run (Platform.step SampleLinks.service SampleAddresses.index)
    (Platform.start SampleAddresses.registry) (events.take 4)).links.issued.map (·.payload) =
      [SampleLinks.invitation, recovery] := by
  decide +kernel

def addresses : List String := [SampleAddresses.index.normaliseEmail "ann@example.org"]

theorem allowed : Machine.Guarded (Platform.step SampleLinks.service SampleAddresses.index)
    (Platform.Allows SampleLinks.service SampleAddresses.index addresses)
    (Platform.start SampleAddresses.registry) events := by
  refine ⟨⟨by decide +kernel, nofun⟩, ⟨by decide +kernel, nofun⟩, trivial, trivial, ?_, trivial⟩
  intro _
  have listed : SampleLinks.invitation ∈
      (Machine.run (Platform.step SampleLinks.service SampleAddresses.index)
        (Platform.start SampleAddresses.registry) (events.take 4)).links.issued.map
          (·.payload) := by
    rw [issued]
    exact List.mem_cons_self
  obtain ⟨issuance, present, same⟩ := List.mem_map.mp listed
  exact ⟨issuance, present, same⟩

end SampleRecovery

theorem recovery_links_exact_ann :
    Machine.Always (Platform.step SampleLinks.service SampleAddresses.index)
      (fun platform => ∀ halves, Platform.DrawsNew SampleLinks.service platform halves →
        ∃ minted, Platform.Recovers SampleLinks.service SampleAddresses.index "ann@example.org"
          halves platform minted)
      (Platform.start SampleAddresses.registry) SampleRecovery.events :=
  Platform.recovery_links_exact SampleLinks.service SampleAddresses.index (by decide)
    "ann@example.org" (List.mem_singleton.mpr rfl) (SampleAddresses.documented _)
    SampleRecovery.allowed

end VolunteerScreening.Accounts
