import VolunteerScreening.Accounts.Links
import VolunteerScreening.Library.Machine
import VolunteerScreening.Tenants.Cookies

/-!
# Signing in where every church shares one hostname

Every schema reaches the one table of sessions.  A session says which account is
signed in by its number alone, and carries a hash over that account's password
column, a marker that nobody can sign in with.  Browsers keep the cookies they
are given; anybody may send any others.
-/

namespace VolunteerScreening.Accounts

open Tenants

structure HostAccount where
  password : String
  isActive : Bool
  deriving DecidableEq

structure SessionData where
  userId : Pk
  authHash : String
  deriving DecidableEq

/-- What leads to a schema, every schema's accounts, and by its key each session that was started;
nothing is left of one that was flushed. -/
structure SharedHost extends RoutingTables where
  accounts : String → List HostAccount
  sessions : List (Option SessionData)

structure HostRequest extends TenantRequest where
  sessionKey : Option Nat

/-- What a visitor asks for.  Which account a passkey or a link stands for, and at which church a
passkey was found that its own schema does not have, is for the ceremonies to say. -/
inductive HostAction where
  | browse
  | logout
  | passkey (found : Option Registration) (user : Pk)
  | link (schemaName : String) (user : Option Pk)

structure HostResponse where
  routed : Routed
  user : Option Pk
  signedIn : Option (String × Pk)
  tenantCookie : Option TenantCookie
  sessionKey : Option Nat

namespace SharedHost

variable (secret : SiteSecret) (site : SharedHost)

def session (key : Nat) : Option SessionData := (site.sessions[key]?).join

def signInAccount (schemaName : String) (user : Pk) : Option HostAccount :=
  ((site.accounts schemaName)[user]?).filter (·.isActive)

def flush : Option Nat → SharedHost
  | none => site
  | some key => { site with sessions := site.sessions.set key none }

/-- The framework's `get_user`: the account of this number in the schema the request is bound to, if
the session's hash is that account's.  A session that belongs to another account is flushed. -/
def getUser (schemaName : String) (key : Option Nat) : SharedHost × Option Nat × Option Pk :=
  match key.bind site.session with
  | none => (site, key, none)
  | some data =>
      match site.signInAccount schemaName data.userId with
      | none => (site, key, none)
      | some account =>
          if data.authHash = secret.sessionAuthHash account.password then
            (site, key, some data.userId)
          else (site.flush key, none, none)

/-- The framework's `login`: in the session itself where the same account is signed in with it, and
under a new key otherwise. -/
def authLogin (user : Pk) (account : HostAccount) (key : Option Nat) :
    SharedHost × Option Nat :=
  let data : SessionData := ⟨user, secret.sessionAuthHash account.password⟩
  if key.bind site.session = some data then (site, key)
  else
    let flushed := site.flush key
    ({ flushed with sessions := flushed.sessions ++ [some data] }, some flushed.sessions.length)

/-- Where a passkey binds the request: nowhere else when its own schema has it, and from the public
schema at the church that has it. -/
def passkeyBinding (binding : Binding) : Option Registration → Option Binding
  | none => some binding
  | some tenant =>
      if binding.schemaName = publicSchemaName ∧ tenant ∈ searchedChurches site.registry then
        some (.church tenant)
      else none

/-- What a view does about signing in and out: the site, who signed in, what becomes of the cookie,
and the session the browser holds. -/
def act (binding : Binding) (key : Option Nat) (user : Option Pk) :
    HostAction → SharedHost × Option (String × Pk) × Option TenantCookie × Option Nat
  | .browse => (site, none, none, key)
  | .logout => (site.flush key, none, some .cleared, none)
  | .passkey found owner =>
      match site.passkeyBinding binding found with
      | none => (site, none, none, key)
      | some bound =>
          match site.signInAccount bound.schemaName owner with
          | none => (site, none, none, key)
          | some account =>
              let (after, started) := site.authLogin secret owner account key
              (after, some (bound.schemaName, owner), found.map fun tenant =>
                applyTenantCookie ⟨tenant.schemaName, some tenant, owner⟩, started)
  | .link schemaName owner =>
      let (site, key) := if user.isSome then (site.flush key, none) else (site, key)
      match bind site.registry schemaName with
      | .error _ => (site, none, none, key)
      | .ok target =>
          match owner.bind fun user => (site.signInAccount schemaName user).map (user, ·) with
          | none => (site, none, none, key)
          | some (user, account) =>
              let (after, started) :=
                (site.flush key).authLogin secret user account none
              (after, some (schemaName, user), some (applyTenantCookie target), started)

/-- What a request comes to.  A cookie that is dropped is dropped last. -/
def respond (request : HostRequest) (action : HostAction) : SharedHost × HostResponse :=
  let dropping (dropCookie : Bool) (cookie : Option TenantCookie) : Option TenantCookie :=
    if dropCookie then some .cleared else cookie
  let routed := site.processRequest secret request.toTenantRequest
  match routed with
  | .notFound => (site, ⟨routed, none, none, none, request.sessionKey⟩)
  | .healthz dropCookie =>
      (site, ⟨routed, none, none, dropping dropCookie none, request.sessionKey⟩)
  | .bound binding dropCookie =>
      let (loaded, key, user) := site.getUser secret binding.schemaName request.sessionKey
      let (after, signedIn, cookie, started) := loaded.act secret binding key user action
      (after, ⟨routed, user, signedIn, dropping dropCookie cookie, started⟩)

end SharedHost

structure CookieJar where
  hostname : String
  tenantCookie : Option String
  sessionKey : Option Nat

namespace CookieJar

variable (jar : CookieJar)

def request (path : String) : HostRequest :=
  ⟨⟨path, jar.hostname, jar.tenantCookie⟩, jar.sessionKey⟩

def store (secret : SiteSecret) (response : HostResponse) : CookieJar where
  hostname := jar.hostname
  tenantCookie :=
    match response.tenantCookie with
    | none => jar.tenantCookie
    | some .cleared => none
    | some (.pinned schemaName) => some (secret.signSchemaName schemaName)
  sessionKey := response.sessionKey

end CookieJar

inductive HostEvent where
  | register (schemaName password : String)
  | setActive (schemaName : String) (user : Pk) (isActive : Bool)
  | provision (tenant : Registration) (hostname : Option String)
  | setChurchActive (schemaName : String) (isActive : Bool)
  /-- A browser comes with the cookies it keeps. -/
  | visit (browser : Nat) (path : String) (action : HostAction)
  /-- Somebody comes with any cookies. -/
  | forge (request : HostRequest) (action : HostAction)

/-- The site and the browsers, and beside them who signed in with which session and did not sign out
with it, whom each browser last signed in as, and the markers that were drawn. -/
structure HostHistory where
  site : SharedHost
  jars : Nat → CookieJar
  signedInAs : Nat → Option (String × Pk)
  browserAs : Nat → Option (String × Pk)
  markers : List String

namespace HostHistory

variable (secret : SiteSecret) (history : HostHistory)

def signedOut (request : HostRequest) (response : HostResponse) :
    HostAction → Nat → Option (String × Pk)
  | .logout =>
      match request.sessionKey, response.sessionKey with
      | some key, none => Function.update history.signedInAs key none
      | _, _ => history.signedInAs
  | _ => history.signedInAs

def noted (request : HostRequest) (action : HostAction) (response : HostResponse) :
    Nat → Option (String × Pk) :=
  match response.signedIn, response.sessionKey with
  | some who, some key => Function.update (history.signedOut request response action) key (some who)
  | _, _ => history.signedOut request response action

def serve (request : HostRequest) (action : HostAction) : HostHistory × HostResponse :=
  let (after, response) := history.site.respond secret request action
  ({ history with site := after, signedInAs := history.noted request action response }, response)

def step : HostEvent → HostHistory
  | .register schemaName password =>
      { history with
        site := { history.site with
          accounts := Function.update history.site.accounts schemaName
            (history.site.accounts schemaName ++ [⟨password, true⟩]) }
        markers := password :: history.markers }
  | .setActive schemaName user isActive =>
      { history with
        site := { history.site with
          accounts := Function.update history.site.accounts schemaName
            ((history.site.accounts schemaName).modify user ({ · with isActive := isActive })) } }
  | .provision tenant hostname =>
      let tables := history.site.toRoutingTables
      if tenant.schemaName = "" ∨ tenant.schemaName = publicSchemaName ∨
          (tables.registry.any (·.schemaName == tenant.schemaName)) ∨
          (hostname.any fun name => tables.domains.any (·.1 == name)) then history
      else
        { history with
          site := { history.site with
            registry := tables.registry ++ [tenant]
            domains := tables.domains ++ (hostname.map (·, tenant.schemaName)).toList } }
  | .setChurchActive schemaName isActive =>
      { history with
        site := { history.site with
          registry := history.site.registry.map fun tenant =>
            if tenant.schemaName = schemaName then { tenant with isActive := isActive }
            else tenant } }
  | .visit browser path action =>
      let jar := history.jars browser
      let (after, response) := history.serve secret (jar.request path) action
      { after with
        jars := Function.update history.jars browser (jar.store secret response)
        browserAs := Function.update history.browserAs browser
          (response.signedIn.or (history.browserAs browser)) }
  | .forge request action => (history.serve secret request action).1

def start (hostname : String) : HostHistory :=
  ⟨⟨⟨[], [(hostname, publicSchemaName)]⟩, fun _ => [], []⟩, fun _ => ⟨hostname, none, none⟩,
    fun _ => none, fun _ => none, []⟩

end HostHistory

end VolunteerScreening.Accounts
