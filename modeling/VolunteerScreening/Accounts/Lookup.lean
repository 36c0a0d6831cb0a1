import VolunteerScreening.Accounts.Models
import VolunteerScreening.Tenants.Routing
import VolunteerScreening.Library.Fallible
import VolunteerScreening.Library.Machine
import Mathlib.Data.List.Nodup
import Mathlib.Logic.Function.Basic

/-!
# Finding an account by its address

An address is stored encrypted, so beside it stands a keyed hash of its
canonical form, which is looked up and is unique.  The key of the hash is of the
schema.  The hash and the lower case of a text are parameters.
-/

namespace VolunteerScreening.Accounts

open Tenants

structure AddressIndex where
  lower : String → String
  blindIndex : (schema value : String) → String

namespace AddressIndex

variable (index : AddressIndex)

def normaliseEmail (email : String) : String := index.lower (Text.strip email)

def emailIndex (schema email : String) : String :=
  let normalised := index.normaliseEmail email
  if normalised = "" then "" else index.blindIndex schema normalised

end AddressIndex

structure IndexedUser extends User where
  emailIndex : String
  deriving DecidableEq

/-- What is written when an account is saved: its index follows its address when the address is
among what is saved. -/
def IndexedUser.save (index : AddressIndex) (schema : String) (user : IndexedUser)
    (touchingEmail : Bool) : IndexedUser :=
  if touchingEmail then
    let email := if user.email ≠ "" then index.normaliseEmail user.email else user.email
    { user with email := email, emailIndex := index.emailIndex schema email }
  else user

/-- The accounts of one schema.  No two share an index. -/
structure AccountTable where
  users : List IndexedUser
  emailIndex_unique : (users.map (·.emailIndex)).Nodup

inductive SaveFailure where
  | valueError (message : String)
  | validation (field : String)
  | integrity
  deriving DecidableEq

namespace AccountTable

variable (table : AccountTable)

/-- Insert an account, which the database refuses if its index is taken. -/
def insert (user : IndexedUser) : Except SaveFailure AccountTable :=
  if fresh : user.emailIndex ∉ table.users.map (·.emailIndex) then
    .ok ⟨table.users ++ [user], by
      rw [List.map_append, List.map_singleton, ← List.concat_eq_append]
      exact List.Nodup.concat fresh table.emailIndex_unique⟩
  else .error .integrity

def update (pk : Pk) (user : IndexedUser) : Except SaveFailure AccountTable :=
  if fresh : ((table.users.set pk user).map (·.emailIndex)).Nodup then
    .ok ⟨table.users.set pk user, fresh⟩
  else .error .integrity

def fullClean (index : AddressIndex) (firstName lastName email : String) :
    Except SaveFailure Unit := do
  Fallible.refuseIf (100 < firstName.length) (.validation "first_name")
  Fallible.refuseIf (100 < lastName.length) (.validation "last_name")
  Fallible.refuseIf (index.normaliseEmail email = "") (.validation "email")

/-- Create an account.  There is no password to give it. -/
def createUser (index : AddressIndex) (schema firstName lastName email : String) :
    Except SaveFailure AccountTable := do
  let email := index.normaliseEmail email
  Fallible.refuseIf (email = "") (.valueError "An email address is required.")
  let user : IndexedUser :=
    ⟨⟨firstName, lastName, email, true, none⟩, index.emailIndex schema email⟩
  fullClean index firstName lastName email
  table.insert (user.save index schema true)

def saveProfile (index : AddressIndex) (schema : String) (pk : Pk) (user : IndexedUser)
    (firstName lastName email : String) : Except SaveFailure AccountTable := do
  let email := index.normaliseEmail email
  Fallible.refuseIf (table.users.zipIdx.any fun entry =>
    decide (entry.1.emailIndex = index.emailIndex schema email ∧ entry.2 ≠ pk))
    (.validation "email")
  fullClean index firstName lastName email
  let changed : IndexedUser :=
    { user with firstName := firstName, lastName := lastName, email := email }
  table.update pk (changed.save index schema true)

def setActive (index : AddressIndex) (schema : String) (pk : Pk) (user : IndexedUser)
    (isActive : Bool) : Except SaveFailure AccountTable :=
  let changed : IndexedUser := { user with isActive := isActive }
  table.update pk (changed.save index schema false)

def findUserPk (index : AddressIndex) (schema normalisedEmail : String) : Option Pk :=
  table.users.findIdx? fun user =>
    decide (user.emailIndex = index.emailIndex schema normalisedEmail) && user.isActive

section

variable {table}

/-- No two accounts have one index, so a lookup has one answer. -/
theorem position_unique {first second : Pk} {user other : IndexedUser}
    (found : table.users[first]? = some user) (present : table.users[second]? = some other)
    (same : user.emailIndex = other.emailIndex) : first = second := by
  obtain ⟨within, rfl⟩ := List.getElem?_eq_some_iff.mp found
  obtain ⟨inside, rfl⟩ := List.getElem?_eq_some_iff.mp present
  have within' : first < (table.users.map (·.emailIndex)).length := by simpa using within
  have inside' : second < (table.users.map (·.emailIndex)).length := by simpa using inside
  apply (@List.Nodup.getElem_inj_iff _ _ table.emailIndex_unique first within' second inside').mp
  rw [List.getElem_map, List.getElem_map]
  exact same

theorem findUserPk_eq_some_iff {index : AddressIndex} {schema email : String} {pk : Pk} :
    table.findUserPk index schema email = some pk ↔
      ∃ user : IndexedUser, table.users[pk]? = some user ∧ user.isActive = true ∧
        user.emailIndex = index.emailIndex schema email := by
  constructor
  · intro looked
    obtain ⟨within, matched, _⟩ := List.findIdx?_eq_some_iff_getElem.mp looked
    simp only [Bool.and_eq_true, decide_eq_true_eq] at matched
    exact ⟨_, List.getElem?_eq_getElem within, matched.2, matched.1⟩
  · rintro ⟨user, found, active, same⟩
    have isSome : (table.findUserPk index schema email).isSome := by
      rw [findUserPk, List.findIdx?_isSome, List.any_eq_true]
      exact ⟨user, List.mem_of_getElem? found, by simp [same, active]⟩
    obtain ⟨first, looked⟩ := Option.isSome_iff_exists.mp isSome
    obtain ⟨within, matched, _⟩ := List.findIdx?_eq_some_iff_getElem.mp looked
    simp only [Bool.and_eq_true, decide_eq_true_eq] at matched
    rw [looked, position_unique (List.getElem?_eq_getElem within) found (matched.1.trans same.symm)]

theorem insert_eq_ok {user : IndexedUser} {after : AccountTable}
    (inserted : table.insert user = .ok after) : after.users = table.users ++ [user] := by
  unfold insert at inserted
  split at inserted
  · cases inserted
    rfl
  · cases inserted

theorem update_eq_ok {pk : Pk} {user : IndexedUser} {after : AccountTable}
    (updated : table.update pk user = .ok after) : after.users = table.users.set pk user := by
  unfold update at updated
  split at updated
  · cases updated
    rfl
  · cases updated

end

end AccountTable

/-- The registry, in the order of the churches' names, and each schema's accounts. -/
structure AccountSite where
  registry : List Registration
  schemas : String → AccountTable

namespace AccountSite

variable (site : AccountSite)

def findLoginTargets (index : AddressIndex) (email : String) : List LoginTarget :=
  let normalised := index.normaliseEmail email
  if normalised = "" then []
  else
    (((site.schemas publicSchemaName).findUserPk index publicSchemaName normalised).map
        fun pk => (⟨publicSchemaName, none, pk⟩ : LoginTarget)).toList ++
      (searchedChurches site.registry).filterMap fun tenant =>
        ((site.schemas tenant.schemaName).findUserPk index tenant.schemaName normalised).map
          fun pk => ⟨tenant.schemaName, some tenant, pk⟩

def attempt (schema : String) (change : AccountTable → Except SaveFailure AccountTable) :
    AccountSite :=
  { site with
    schemas := Function.update site.schemas schema (Machine.attempt change (site.schemas schema)) }

end AccountSite

inductive AccountEvent where
  | createUser (schema firstName lastName email : String)
  | saveProfile (schema : String) (pk : Pk) (firstName lastName email : String)
  | setActive (schema : String) (pk : Pk) (isActive : Bool)
  | setRegistry (registry : List Registration)

namespace AccountSite

variable (index : AddressIndex) (site : AccountSite)

def step : AccountEvent → AccountSite
  | .createUser schema firstName lastName email =>
      site.attempt schema fun table => table.createUser index schema firstName lastName email
  | .saveProfile schema pk firstName lastName email =>
      match (site.schemas schema).users[pk]? with
      | none => site
      | some user =>
          site.attempt schema fun table =>
            table.saveProfile index schema pk user firstName lastName email
  | .setActive schema pk isActive =>
      match (site.schemas schema).users[pk]? with
      | none => site
      | some user =>
          site.attempt schema fun table => table.setActive index schema pk user isActive
  | .setRegistry registry => { site with registry := registry }

def start (registry : List Registration) : AccountSite := ⟨registry, fun _ => ⟨[], .nil⟩⟩

end AccountSite

end VolunteerScreening.Accounts
