import VolunteerScreening.Church

/-!
# Forms for access levels and the grants that assign them

Nobody may grant access wider than their own.  The forms offer only what the
granter holds, and `applyGrant` refuses the rest once more.
-/

namespace VolunteerScreening.Accounts

open Calendar Fallible Org

structure AccessLevelForm where
  name : String
  isScoped : Bool
  isActive : Bool
  can : Capability → Bool

namespace AccessLevelForm

variable (form : AccessLevelForm)

/-- The posted values on a level's row.  A built-in level stays in force or out of it, whatever
is posted. -/
def applied (level : AccessLevel) : AccessLevel where
  isScoped := form.isScoped
  isActive := if level.isBuiltin then level.isActive else form.isActive
  name := Text.strip form.name
  isBuiltin := level.isBuiltin
  can := form.can

def created : AccessLevel := ⟨⟨form.isScoped, form.isActive⟩, Text.strip form.name, false, form.can⟩

def nameErrors (taken : List String) : Errors :=
  Errors.uniqueName "Access level" taken (Text.strip form.name)

/-- `AccessLevel.clean`: the audit trail cannot be limited to a department. -/
def auditErrors : Errors :=
  if form.isScoped && form.can .viewAudit then
    [("can_view_audit", "The audit trail cannot be limited to a department, because an " ++
      "audit entry does not record one. Either remove the department " ++
      "limit or leave the audit trail unticked.")]
  else []

/-- Nobody may build a level wider than their own. -/
def wideningErrors (granting proposed : AccessLevel) : Errors :=
  let overReach := granting.overReach proposed
  (if overReach = [] then []
    else
      [("__all__", "You cannot grant a capability you do not hold yourself: " ++
        ", ".intercalate (overReach.map Capability.label) ++ ".")]) ++
    if granting.isScoped && !proposed.isScoped then
      [("is_scoped", "Your own access is limited to particular departments, so you cannot " ++
        "create a level that covers the whole church.")]
    else []

def errors (granting proposed : AccessLevel) (taken : List String) : Errors :=
  form.nameErrors taken ++ form.auditErrors ++ wideningErrors granting proposed

theorem covers_of_errors_eq_nil {granting proposed : AccessLevel} {taken : List String}
    (accepted : form.errors granting proposed taken = []) :
    granting.covers proposed = true := by
  unfold errors wideningErrors at accepted
  simp only [List.append_eq_nil_iff] at accepted
  obtain ⟨_, within, limited⟩ := accepted
  have covered : granting.overReach proposed = [] := by
    by_contra beyond
    rw [if_neg beyond] at within
    cases within
  unfold AccessLevel.covers
  rw [covered]
  by_cases wider : (granting.isScoped && !proposed.isScoped) = true
  · rw [if_pos wider] at limited
    cases limited
  · rw [Bool.not_eq_true] at wider
    simp [wider]

end AccessLevelForm

structure AccessGrantForm where
  accessLevel : Pk
  departments : List Pk

namespace AccessGrantForm

variable (form : AccessGrantForm) (church : Church) (acting : Directory.Administrator)

def offersLevel : Bool :=
  match church.directory.levels[form.accessLevel]? with
  | some level => level.isActive && acting.level.covers level
  | none => false

def offered : List Department :=
  church.departments.filter fun department =>
    department.isActive && acting.administers department.pk

def chosen : List Department :=
  (offered church acting).filter fun department => form.departments.contains department.pk

def errors : Errors :=
  (if form.offersLevel church acting then []
    else
      [("access_level",
        "Select a valid choice. That choice is not one of the available choices.")]) ++
    match form.departments.find? fun pk => !(offered church acting).any (·.pk == pk) with
    | some pk =>
        [("departments", s!"Select a valid choice. {pk} is not one of the available choices.")]
    | none => []

theorem offersLevel_of_errors_eq_nil (accepted : form.errors church acting = []) :
    form.offersLevel church acting = true := by
  unfold errors at accepted
  by_contra refused
  rw [if_neg refused] at accepted
  cases accepted

end AccessGrantForm

def applyGrant (acting : Directory.Administrator) (subject level : Pk)
    (departments : List Department) (directory : Directory) : Except Refusal Directory :=
  if listed : level < directory.levels.length then do
    let accessLevel := directory.levels[level]
    refuseIf (acting.level.covers accessLevel = false)
      (Refusal.invalid
        s!"'{accessLevel.name}' is wider than {acting.user.str acting.pk}'s own access.")
    let outside := departments.filter fun department => !acting.administers department.pk
    refuseIf (outside ≠ [])
      (Refusal.invalid ("Cannot grant departments the granter does not administer: " ++
        ", ".intercalate (outside.map (·.name))))
    return directory.setGrant subject
      ⟨level, if accessLevel.isScoped then departments.map (·.pk) else []⟩ listed
  else .error .notFound

theorem applyGrant_ok {acting : Directory.Administrator} {subject level : Pk}
    {departments : List Department} {directory after : Directory}
    (success : applyGrant acting subject level departments directory = .ok after) :
    ∃ (accessLevel : AccessLevel) (listed : level < directory.levels.length),
      directory.levels[level]? = some accessLevel ∧ acting.level.covers accessLevel = true ∧
        (∀ department ∈ departments, acting.administers department.pk = true) ∧
        after = directory.setGrant subject
          ⟨level, if accessLevel.isScoped then departments.map (·.pk) else []⟩ listed := by
  unfold applyGrant at success
  split at success
  · next listed =>
      obtain ⟨_, covered, success⟩ := bind_eq_ok_iff.mp success
      obtain ⟨_, inside, success⟩ := bind_eq_ok_iff.mp success
      refine ⟨directory.levels[level], listed, List.getElem?_eq_getElem listed, ?_, ?_,
        (pure_eq_ok_iff.mp success).symm⟩
      · simpa using refuseIf_eq_ok_iff.mp covered
      · simpa using refuseIf_eq_ok_iff.mp inside
  · cases success

end VolunteerScreening.Accounts
