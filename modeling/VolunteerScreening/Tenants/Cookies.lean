import VolunteerScreening.Tenants.Routing
import VolunteerScreening.Library.Text

/-!
# The cookie that names a church

Every request is bound to a schema before anything else runs: to the church that
a signed cookie names, and to what its hostname leads to when there is no such
cookie.  A cookie that is there but of no use is dropped.
-/

namespace VolunteerScreening.Tenants

/-- What is keyed with the site's secret: the signature of a cookie, which never has the separator
in it, and the hash over a password column that a session carries. -/
structure SiteSecret where
  signature : String → String
  sessionAuthHash : String → String
  bare : ∀ value, ':' ∉ (signature value).toList

namespace SiteSecret

variable (secret : SiteSecret)

def signSchemaName (schemaName : String) : String :=
  schemaName ++ ":" ++ secret.signature schemaName

def unsign (signed : String) : Option String :=
  match Text.rsplit ':' signed with
  | none => none
  | some (value, signature) => if signature = secret.signature value then some value else none

def readTenantCookie (raw : String) : Option String :=
  if raw = "" then none else secret.unsign raw

end SiteSecret

structure TenantRequest where
  path : String
  hostname : String
  tenantCookie : Option String

/-- What leads to a schema: the registry, and the hostnames of the operator's console and of
churches that have their own. -/
structure RoutingTables where
  registry : List Registration
  domains : List (String × String)

/-- What a request is bound to, and whether its cookie is dropped. -/
inductive Routed where
  | bound (binding : Binding) (dropCookie : Bool)
  | healthz (dropCookie : Bool)
  | notFound
  deriving DecidableEq

namespace RoutingTables

variable (secret : SiteSecret) (tables : RoutingTables)

def healthPath : String := "/healthz/"

/-- What a hostname leads to.  A suspended church is still found by its own. -/
def hostBinding (hostname : String) : Option Binding :=
  match tables.domains.find? (·.1 == hostname) with
  | none => none
  | some (_, schemaName) =>
      if schemaName = publicSchemaName then some .publicSchema
      else (tables.registry.find? (·.schemaName == schemaName)).map .church

def cookieTenant (raw : String) : Option Registration :=
  (secret.readTenantCookie raw).bind (resolveTenant tables.registry)

def routeByHostname (request : TenantRequest) (dropCookie : Bool) : Routed :=
  match tables.hostBinding request.hostname with
  | some binding => .bound binding dropCookie
  | none => if request.path = healthPath then .healthz dropCookie else .notFound

/-- `VMSTenantMiddleware.process_request`: the cookie first, the hostname second. -/
def processRequest (request : TenantRequest) : Routed :=
  match request.tenantCookie with
  | none => tables.routeByHostname request false
  | some raw =>
      match tables.cookieTenant secret raw with
      | some tenant => .bound (.church tenant) false
      | none => tables.routeByHostname request true

end RoutingTables

end VolunteerScreening.Tenants
