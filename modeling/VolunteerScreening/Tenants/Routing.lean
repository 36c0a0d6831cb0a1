import Mathlib.Data.List.Basic

/-!
# Choosing a church when every church shares one hostname

A request points at the public schema until something names the church it is
for, and only a church that the registry has and that is active is pointed at.
-/

namespace VolunteerScreening.Tenants

/-- The schema of the registry and of the operator's console. -/
def publicSchemaName : String := "public"

structure Registration where
  schemaName : String
  isActive : Bool
  deriving DecidableEq

/-- What a request points at: its connection, its tenant and its URLconf. -/
inductive Binding where
  | publicSchema
  | church (tenant : Registration)
  deriving DecidableEq

def Binding.schemaName : Binding → String
  | .publicSchema => publicSchemaName
  | .church tenant => tenant.schemaName

/-- One place an account was found.  No church means the operator's console. -/
structure LoginTarget where
  schemaName : String
  tenant : Option Registration
  userPk : Nat
  deriving DecidableEq

namespace LoginTarget

variable (target : LoginTarget)

def isPublic : Bool := target.tenant.isNone

def binding : Binding :=
  match target.tenant with
  | none => .publicSchema
  | some tenant => .church tenant

end LoginTarget

/-- An active church by its schema's name.  The public schema is not a church. -/
def resolveTenant (registry : List Registration) (schemaName : String) : Option Registration :=
  if schemaName = "" ∨ schemaName = publicSchemaName then none
  else registry.find? fun tenant => decide (tenant.schemaName = schemaName) && tenant.isActive

/-- The churches that are searched for somebody who has not said which is theirs, of a registry in
the order of their names. -/
def searchedChurches (registry : List Registration) : List Registration :=
  registry.filter fun tenant => tenant.isActive && decide (tenant.schemaName ≠ publicSchemaName)

theorem mem_searchedChurches {registry : List Registration} {tenant : Registration} :
    tenant ∈ searchedChurches registry ↔
      tenant ∈ registry ∧ tenant.isActive = true ∧ tenant.schemaName ≠ publicSchemaName := by
  simp [searchedChurches]

theorem of_resolveTenant {registry : List Registration} {schemaName : String}
    {tenant : Registration} (resolved : resolveTenant registry schemaName = some tenant) :
    tenant ∈ registry ∧ tenant.schemaName = schemaName ∧ tenant.isActive = true := by
  unfold resolveTenant at resolved
  split at resolved
  · cases resolved
  · have matches_ := List.find?_some resolved
    simp only [Bool.and_eq_true, decide_eq_true_eq] at matches_
    exact ⟨List.mem_of_find?_eq_some resolved, matches_⟩

end VolunteerScreening.Tenants
