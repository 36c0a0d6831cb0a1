import VolunteerScreening.Accounts.Lookup

/-!
# Who an address signs in

Over any run of changes to the accounts, every account's index is the one of its
address in its schema, and a search for an address finds exactly the active
accounts that have it, each church's in its place.
-/

namespace VolunteerScreening.Accounts

open Tenants

/-- What is documented of folding and hashing, for the addresses that are in use: folding settles,
and no two of them share a hash in one schema. -/
structure AddressIndex.Documented (index : AddressIndex) (addresses : List String) : Prop where
  settled : ∀ email, index.normaliseEmail (index.normaliseEmail email) = index.normaliseEmail email
  apart : ∀ schema, ∀ email ∈ addresses, ∀ other ∈ addresses,
    index.blindIndex schema email = index.blindIndex schema other → email = other

def AccountEvent.entered (index : AddressIndex) : AccountEvent → List String
  | .createUser _ _ _ email => [index.normaliseEmail email]
  | .saveProfile _ _ _ _ email => [index.normaliseEmail email]
  | .setActive .. => []
  | .setRegistry _ => []

/-- The account's address is a canonical one of these, and its index follows it. -/
structure IndexedUser.InStep (index : AddressIndex) (addresses : List String) (schema : String)
    (user : IndexedUser) : Prop where
  named : user.email ≠ ""
  canonical : index.normaliseEmail user.email = user.email
  entered : user.email ∈ addresses
  indexed : user.emailIndex = index.blindIndex schema user.email

def AccountTable.InStep (index : AddressIndex) (addresses : List String) (schema : String)
    (table : AccountTable) : Prop :=
  ∀ user ∈ table.users, user.InStep index addresses schema

namespace AccountSite

/-- No two accounts of a church have one address. -/
def Apart (site : AccountSite) : Prop :=
  ∀ schema, ((site.schemas schema).users.map (·.email)).Nodup

def Holds (index : AddressIndex) (email : String) (site : AccountSite) (target : LoginTarget) :
    Prop :=
  (target.tenant = none ∧ target.schemaName = publicSchemaName ∨
    ∃ tenant ∈ searchedChurches site.registry,
      target.tenant = some tenant ∧ target.schemaName = tenant.schemaName) ∧
  ∃ user : IndexedUser, (site.schemas target.schemaName).users[target.userPk]? = some user ∧
    user.isActive = true ∧ user.email = index.normaliseEmail email

/-- A search finds the accounts with an address and no others, the console's first and then the
churches' in the order of their names. -/
structure Finds (index : AddressIndex) (email : String) (site : AccountSite) : Prop where
  exact : ∀ target, target ∈ site.findLoginTargets index email ↔ site.Holds index email target
  ordered : List.Sublist ((site.findLoginTargets index email).map (·.tenant))
    (none :: (searchedChurches site.registry).map some)

end AccountSite

theorem map_filterMap_sublist {Item Found Name : Type} {find : Item → Option Found}
    {itemName : Item → Name} {name : Found → Name}
    (named : ∀ item found, find item = some found → name found = itemName item)
    (items : List Item) :
    List.Sublist ((items.filterMap find).map name) (items.map itemName) := by
  induction items with
  | nil => exact List.Sublist.refl _
  | cons item rest inductionHypothesis =>
      cases looked : find item with
      | none =>
          rw [List.filterMap_cons_none looked]
          exact inductionHypothesis.cons _
      | some found =>
          rw [List.filterMap_cons_some looked, List.map_cons, List.map_cons,
            named item found looked]
          exact inductionHypothesis.cons_cons _

section Keeping

variable {index : AddressIndex} {addresses : List String} {schema : String}

theorem emailIndex_of_canonical {email : String} (named : email ≠ "")
    (canonical : index.normaliseEmail email = email) :
    index.emailIndex schema email = index.blindIndex schema email := by
  dsimp only [AddressIndex.emailIndex]
  rw [canonical, if_neg named]

theorem save_inStep (documented : index.Documented addresses) {user : IndexedUser} {email : String}
    (folded : user.email = index.normaliseEmail email) (named : user.email ≠ "")
    (entered : user.email ∈ addresses) :
    (user.save index schema true).InStep index addresses schema := by
  have canonical : index.normaliseEmail user.email = user.email := by
    rw [folded, documented.settled]
  have saved : user.save index schema true =
      { user with emailIndex := index.blindIndex schema user.email } := by
    simp only [IndexedUser.save, if_true, if_pos named, canonical]
    rw [emailIndex_of_canonical named canonical]
  rw [saved]
  exact ⟨named, canonical, entered, rfl⟩

namespace AccountTable

variable {table after : AccountTable}

theorem InStep.set {pk : Pk} {user : IndexedUser} (inStep : table.InStep index addresses schema)
    (ofUser : user.InStep index addresses schema)
    (updated : after.users = table.users.set pk user) :
    after.InStep index addresses schema := by
  intro row listed
  rw [updated] at listed
  rcases List.mem_or_eq_of_mem_set listed with before | rfl
  · exact inStep row before
  · exact ofUser

theorem createUser_inStep (documented : index.Documented addresses)
    {firstName lastName email : String} (entered : index.normaliseEmail email ∈ addresses)
    (inStep : table.InStep index addresses schema)
    (created : table.createUser index schema firstName lastName email = .ok after) :
    after.InStep index addresses schema := by
  simp only [createUser, Fallible.bind_eq_ok_iff, Fallible.refuseIf_eq_ok_iff] at created
  obtain ⟨_, named, _, _, inserted⟩ := created
  intro row listed
  rw [insert_eq_ok inserted, List.mem_append, List.mem_singleton] at listed
  rcases listed with before | rfl
  · exact inStep row before
  · exact save_inStep documented rfl named entered

theorem saveProfile_inStep (documented : index.Documented addresses) {pk : Pk} {user : IndexedUser}
    {firstName lastName email : String} (entered : index.normaliseEmail email ∈ addresses)
    (inStep : table.InStep index addresses schema)
    (saved : table.saveProfile index schema pk user firstName lastName email = .ok after) :
    after.InStep index addresses schema := by
  simp only [saveProfile, fullClean, Fallible.bind_eq_ok_iff, Fallible.refuseIf_eq_ok_iff] at saved
  obtain ⟨_, _, _, ⟨_, _, _, _, named⟩, updated⟩ := saved
  rw [documented.settled] at named
  exact inStep.set (save_inStep documented rfl named entered) (update_eq_ok updated)

/-- Whether an account is active is no part of its address, so its index stays the right one. -/
theorem setActive_inStep {pk : Pk} {user : IndexedUser} {isActive : Bool}
    (inStep : table.InStep index addresses schema) (found : table.users[pk]? = some user)
    (saved : table.setActive index schema pk user isActive = .ok after) :
    after.InStep index addresses schema := by
  have before := inStep user (List.mem_of_getElem? found)
  have written : after.users = table.users.set pk { user with isActive := isActive } :=
    update_eq_ok saved
  have ofUser : ({ user with isActive := isActive } : IndexedUser).InStep index addresses schema :=
    ⟨before.named, before.canonical, before.entered, before.indexed⟩
  exact inStep.set ofUser written

end AccountTable

namespace AccountSite

variable {site : AccountSite}

theorem attempt_inStep {changed : String} {change : AccountTable → Except SaveFailure AccountTable}
    (inStep : ∀ schema, (site.schemas schema).InStep index addresses schema)
    (kept : ∀ after, change (site.schemas changed) = .ok after →
      after.InStep index addresses changed) :
    ∀ schema, ((site.attempt changed change).schemas schema).InStep index addresses schema := by
  intro schema
  by_cases same : schema = changed
  · subst same
    simp only [attempt, Function.update_self]
    exact Machine.attempt_induction (inStep schema) kept
  · simp only [attempt, Function.update_of_ne same]
    exact inStep schema

theorem step_inStep (documented : index.Documented addresses) (site : AccountSite)
    (event : AccountEvent) (inStep : ∀ schema, (site.schemas schema).InStep index addresses schema)
    (entered : ∀ address ∈ event.entered index, address ∈ addresses) :
    ∀ schema, ((step index site event).schemas schema).InStep index addresses schema := by
  cases event with
  | createUser changed firstName lastName email =>
      exact attempt_inStep inStep fun _ created =>
        AccountTable.createUser_inStep documented (entered _ List.mem_cons_self) (inStep changed)
          created
  | saveProfile changed pk firstName lastName email =>
      simp only [step]
      split
      · exact inStep
      · exact attempt_inStep inStep fun _ saved =>
          AccountTable.saveProfile_inStep documented (entered _ List.mem_cons_self)
            (inStep changed) saved
  | setActive changed pk isActive =>
      simp only [step]
      split
      · exact inStep
      · rename_i user found
        exact attempt_inStep inStep fun _ saved =>
          AccountTable.setActive_inStep (inStep changed) found saved
  | setRegistry registry => exact inStep

/-- Where each index follows its address, the unique index keeps the addresses apart. -/
theorem apart_of_inStep (inStep : ∀ schema, (site.schemas schema).InStep index addresses schema) :
    site.Apart := by
  intro schema
  have indexes : (site.schemas schema).users.map (·.emailIndex) =
      ((site.schemas schema).users.map (·.email)).map (index.blindIndex schema) := by
    rw [List.map_map]
    exact List.map_congr_left fun user listed => (inStep schema user listed).indexed
  have unique := (site.schemas schema).emailIndex_unique
  rw [indexes] at unique
  exact List.Nodup.of_map _ unique

theorem found_iff (documented : index.Documented addresses)
    (inStep : ∀ schema, (site.schemas schema).InStep index addresses schema) {email : String}
    (searched : index.normaliseEmail email ∈ addresses) (named : index.normaliseEmail email ≠ "")
    {pk : Pk} :
    (site.schemas schema).findUserPk index schema (index.normaliseEmail email) = some pk ↔
      ∃ user : IndexedUser, (site.schemas schema).users[pk]? = some user ∧ user.isActive = true ∧
        user.email = index.normaliseEmail email := by
  rw [AccountTable.findUserPk_eq_some_iff]
  apply exists_congr
  intro user
  rw [emailIndex_of_canonical named (documented.settled email)]
  constructor
  · rintro ⟨found, active, same⟩
    have kept := inStep schema user (List.mem_of_getElem? found)
    rw [kept.indexed] at same
    exact ⟨found, active, documented.apart schema _ kept.entered _ searched same⟩
  · rintro ⟨found, active, same⟩
    have kept := inStep schema user (List.mem_of_getElem? found)
    exact ⟨found, active, by rw [kept.indexed, same]⟩

theorem findLoginTargets_of_named {email : String} (named : index.normaliseEmail email ≠ "") :
    site.findLoginTargets index email =
      (((site.schemas publicSchemaName).findUserPk index publicSchemaName
          (index.normaliseEmail email)).map
        fun pk => (⟨publicSchemaName, none, pk⟩ : LoginTarget)).toList ++
      (searchedChurches site.registry).filterMap fun tenant =>
        ((site.schemas tenant.schemaName).findUserPk index tenant.schemaName
          (index.normaliseEmail email)).map
          fun pk => ⟨tenant.schemaName, some tenant, pk⟩ :=
  if_neg named

theorem finds_of_inStep (documented : index.Documented addresses)
    (inStep : ∀ schema, (site.schemas schema).InStep index addresses schema) {email : String}
    (searched : index.normaliseEmail email ∈ addresses) : site.Finds index email := by
  by_cases blank : index.normaliseEmail email = ""
  · have nothing : site.findLoginTargets index email = [] := if_pos blank
    constructor
    · intro target
      rw [nothing]
      refine ⟨fun listed => absurd listed List.not_mem_nil, ?_⟩
      rintro ⟨_, user, found, _, same⟩
      have kept := inStep target.schemaName user (List.mem_of_getElem? found)
      exact absurd (same.trans blank) kept.named
    · rw [nothing]
      exact List.nil_sublist _
  · have found : ∀ schema pk, _ := fun schema pk =>
      @found_iff index addresses schema site documented inStep email searched blank pk
    rw [← Ne] at blank
    constructor
    · intro target
      rw [findLoginTargets_of_named blank, List.mem_append, Option.mem_toList,
        Option.map_eq_some_iff, List.mem_filterMap]
      constructor
      · rintro (⟨pk, looked, rfl⟩ | ⟨tenant, listed, looked⟩)
        · exact ⟨.inl ⟨rfl, rfl⟩, (found _ pk).mp looked⟩
        · obtain ⟨pk, here, rfl⟩ := Option.map_eq_some_iff.mp looked
          exact ⟨.inr ⟨tenant, listed, rfl, rfl⟩, (found _ pk).mp here⟩
      · obtain ⟨schemaName, tenant, pk⟩ := target
        rintro ⟨⟨rfl, rfl⟩ | ⟨tenant, listed, rfl, rfl⟩, present⟩
        · exact .inl ⟨pk, (found _ pk).mpr present, rfl⟩
        · refine .inr ⟨tenant, listed, ?_⟩
          exact Option.map_eq_some_iff.mpr ⟨pk, (found _ pk).mpr present, rfl⟩
    · rw [findLoginTargets_of_named blank, List.map_append]
      apply @List.Sublist.append _ _ [none]
      · cases (site.schemas publicSchemaName).findUserPk index publicSchemaName
          (index.normaliseEmail email) with
        | none => exact List.nil_sublist _
        | some pk => exact List.Sublist.refl _
      · apply map_filterMap_sublist
        intro tenant target looked
        obtain ⟨pk, _, rfl⟩ := Option.map_eq_some_iff.mp looked
        rfl

end AccountSite

end Keeping

/-- Over any run, no two accounts of a church have one address, and a search for an address finds
exactly the active accounts that have it. -/
theorem login_targets_exact (index : AddressIndex) (registry : List Registration)
    (events : List AccountEvent) (email : String)
    (documented : index.Documented
      (index.normaliseEmail email :: events.flatMap fun event => event.entered index)) :
    Machine.Always (AccountSite.step index) (fun site => site.Apart ∧ site.Finds index email)
      (AccountSite.start registry) events := by
  let addresses := index.normaliseEmail email :: events.flatMap fun event => event.entered index
  have nobody : ∀ schema,
      ((AccountSite.start registry).schemas schema).InStep index addresses schema :=
    nofun
  have always := Machine.always_of_guarded (AccountSite.step index)
    (fun _ event => ∀ address ∈ event.entered index, address ∈ addresses)
    (fun site => ∀ schema, (site.schemas schema).InStep index addresses schema)
    (AccountSite.step_inStep documented) nobody
    (Machine.guarded_of_forall (fun event listed address entered =>
      List.mem_cons_of_mem _ (List.mem_flatMap.mpr ⟨event, listed, entered⟩)) _)
  exact always.imp fun site inStep => ⟨AccountSite.apart_of_inStep inStep,
    AccountSite.finds_of_inStep documented inStep List.mem_cons_self⟩

namespace SampleAddresses

/-- Addresses of plain letters, each hashed with the name of its schema. -/
def index : AddressIndex :=
  ⟨fun text => String.ofList (text.toList.map Char.toLower), fun schema value => schema ++ value⟩

theorem documented (addresses : List String) : index.Documented addresses where
  settled email := by
    have mapped : ∀ text : String, String.ofList (text.toList.map Char.toLower) =
        text.map Char.toLower := by
      intro text
      rw [← String.toList_inj, String.toList_ofList, String.toList_map]
    have folded : ∀ text : String,
        (text.map Char.toLower).map Char.toLower = text.map Char.toLower := by
      intro text
      rw [← String.toList_inj]
      simp only [String.toList_map, List.map_map]
      exact List.map_congr_left fun character _ => Text.toLower_toLower character
    simp only [AddressIndex.normaliseEmail, index, mapped]
    rw [Text.strip_map Text.isSpace_toLower, Text.strip_strip, folded]
  apart schema email _ other _ same := String.append_right_inj schema |>.mp same

def registry : List Registration := [⟨"grace", true⟩, ⟨"hope", true⟩]

/-- One person at two churches, of which the second then lets her account rest. -/
def events : List AccountEvent :=
  [.createUser "grace" "Ann" "Berg" " Ann@Example.org",
    .createUser "hope" "Ann" "Berg" "ann@example.org",
    .createUser "grace" "Anna" "Berg" "ANN@example.org", .setActive "hope" 0 false]

end SampleAddresses

theorem login_targets_exact_ann :
    Machine.Always (AccountSite.step SampleAddresses.index)
      (fun site => site.Apart ∧ site.Finds SampleAddresses.index "Ann@example.org ")
      (AccountSite.start SampleAddresses.registry) SampleAddresses.events :=
  login_targets_exact SampleAddresses.index SampleAddresses.registry SampleAddresses.events
    "Ann@example.org " (SampleAddresses.documented _)

end VolunteerScreening.Accounts
