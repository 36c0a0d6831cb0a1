import VolunteerScreening.Requirements.Models
import VolunteerScreening.Library.Chains

/-!
# What a requirement depends on

A definition may follow one other.  Saving it looks along the chain it would
join for a loop; its form leaves out whatever depends on it already.
-/

namespace VolunteerScreening.Requirements

open Calendar Chains Org

def maxDependencyHops : Nat := 20

namespace Catalogue

variable (catalogue : Catalogue)

def follows (pk : Pk) : Option Pk := (catalogue.get pk).bind (·.mustFollow)

def Acyclic : Prop := Chains.Acyclic catalogue.follows

def ClosesLoop (pk choice : Pk) : Prop :=
  ¬Chains.Acyclic (Function.update catalogue.follows pk (some choice))

def dependentPks (pk : Pk) : List Pk :=
  gather catalogue.follows (catalogue.definitions.map (·.pk)) maxDependencyHops [pk] [pk]

def mustFollowChoices : Option Pk → List RequirementDefinition
  | none => catalogue.active
  | some pk => catalogue.active.filter fun choice => choice.pk ∉ catalogue.dependentPks pk

end Catalogue

namespace RequirementDefinition

variable (definition : RequirementDefinition) (catalogue : Catalogue) (key : Option Pk)

/-- `_dependency_cycle`: whether following `must_follow` leads back here, or too far. -/
def dependencyCycle : Bool :=
  comesBack catalogue.follows maxDependencyHops key.toList definition.mustFollow

def mustFollowErrors : Errors :=
  if definition.mustFollow.isSome ∧ definition.mustFollow = key then
    [("must_follow", "A requirement cannot depend on itself.")]
  else if definition.mustFollow.isSome ∧ definition.dependencyCycle catalogue key then
    [("must_follow", "That would create a loop — the requirement you picked already depends " ++
      "on this one, directly or through another.")]
  else []

def cleanErrors : Errors :=
  let cadence : Errors :=
    if definition.cadence = .customMonths ∧ nonzeroMonths definition.cadenceMonths = none then
      [("cadence_months", "Enter the number of months between renewals.")]
    else []
  let mode : Errors :=
    if definition.dependencyMode = .gate ∧ definition.mustFollow = none then
      [("dependency_mode",
        "Choose the requirement this one depends on, or leave the rule as a warning.")]
    else []
  let offset : Errors :=
    if nonzeroMonths definition.dueMonthsAfterPrerequisite ≠ none ∧
        definition.mustFollow = none then
      [("due_months_after_prerequisite",
        "Only used when this requirement depends on another one.")]
    else []
  cadence ++ definition.mustFollowErrors catalogue key ++ mode ++ offset

/-- `clean`: months that another cadence ignores are taken out. -/
def clean : Except Refusal RequirementDefinition := do
  (definition.cleanErrors catalogue key).raise
  return { definition with
    cadenceMonths :=
      if definition.cadence ≠ .customMonths ∧ nonzeroMonths definition.cadenceMonths ≠ none then
        none
      else definition.cadenceMonths }

theorem mustFollowErrors_eq_nil_iff :
    definition.mustFollowErrors catalogue key = [] ↔
      ∀ choice, definition.mustFollow = some choice →
        key ≠ some choice ∧
          comesBack catalogue.follows maxDependencyHops key.toList (some choice) = false := by
  constructor
  · intro clear choice follows
    have chosen : definition.mustFollow.isSome = true := by rw [follows]; rfl
    unfold mustFollowErrors at clear
    split_ifs at clear with own back
    refine ⟨fun same => own ⟨chosen, follows.trans same.symm⟩, ?_⟩
    rw [← follows]
    exact Bool.eq_false_iff.mpr fun loop => back ⟨chosen, loop⟩
  · intro clear
    unfold mustFollowErrors
    cases follows : definition.mustFollow with
    | none => rfl
    | some choice =>
        obtain ⟨other, onward⟩ := clear choice follows
        have ends : definition.dependencyCycle catalogue key = false := by
          unfold dependencyCycle
          rw [follows, onward]
        rw [if_neg fun own => other own.2.symm, ends]
        rfl

theorem field_of_found {condition : Prop} [Decidable condition] {field message name : String}
    (found : name ∈ (if condition then [(field, message)] else [] : Errors).map (·.1)) :
    name = field := by
  split at found
  · exact List.mem_singleton.mp found
  · cases found

theorem mem_cleanErrors_iff :
    "must_follow" ∈ (definition.cleanErrors catalogue key).map (·.1) ↔
      definition.mustFollowErrors catalogue key ≠ [] := by
  unfold cleanErrors
  rw [List.map_append, List.map_append, List.map_append]
  constructor
  · rintro found clear
    rw [clear] at found
    rcases List.mem_append.mp found with found | offset
    · rcases List.mem_append.mp found with found | mode
      · rcases List.mem_append.mp found with cadence | none
        · exact absurd (field_of_found cadence) (by decide)
        · cases none
      · exact absurd (field_of_found mode) (by decide)
    · exact absurd (field_of_found offset) (by decide)
  · intro wrong
    have named : (definition.mustFollowErrors catalogue key).map (·.1) = ["must_follow"] := by
      unfold mustFollowErrors at wrong ⊢
      split_ifs at wrong ⊢
      · rfl
      · rfl
      · exact absurd rfl wrong
    rw [named]
    exact List.mem_append_left _ (List.mem_append_left _ (List.mem_append_right _
      (List.mem_singleton.mpr rfl)))

theorem clean_eq_ok {definition cleaned : RequirementDefinition} {catalogue : Catalogue}
    {key : Option Pk} (passes : definition.clean catalogue key = .ok cleaned) :
    cleaned.pk = definition.pk ∧ cleaned.mustFollow = definition.mustFollow ∧
      definition.mustFollowErrors catalogue key = [] := by
  obtain ⟨_, clear, passes⟩ := Fallible.bind_eq_ok_iff.mp passes
  cases passes
  refine ⟨rfl, rfl, ?_⟩
  have empty := Errors.raise_eq_ok_iff.mp clear
  by_contra wrong
  have listed := (definition.mem_cleanErrors_iff catalogue key).mpr wrong
  rw [empty] at listed
  cases listed

theorem clean_eq_error {definition : RequirementDefinition} {catalogue : Catalogue}
    {key : Option Pk} {errors : Errors}
    (refused : definition.clean catalogue key = .error (.validation errors)) :
    definition.cleanErrors catalogue key = errors := by
  unfold clean Errors.raise at refused
  split at refused
  · cases refused
  · cases refused
    rfl

end RequirementDefinition

/-- The definitions as the database keeps them: what one depends on is a row of the table. -/
structure DefinitionTable where
  catalogue : Catalogue
  references : ∀ definition ∈ catalogue.definitions, ∀ pk ∈ definition.mustFollow,
    (catalogue.get pk).isSome = true

/-- One definition saved once it has passed `clean`: a new row under a key not given before, or
over the row that has its key. -/
inductive Saves (before after : DefinitionTable) : Prop
  | create (definition cleaned : RequirementDefinition)
      (fresh : before.catalogue.get definition.pk = none)
      (offered : ∀ pk ∈ definition.mustFollow, (before.catalogue.get pk).isSome = true)
      (passes : definition.clean before.catalogue none = .ok cleaned)
      (written : after.catalogue.get =
        Function.update before.catalogue.get cleaned.pk (some cleaned))
  | edit (definition cleaned : RequirementDefinition)
      (present : (before.catalogue.get definition.pk).isSome = true)
      (passes : definition.clean before.catalogue (some definition.pk) = .ok cleaned)
      (written : after.catalogue.get =
        Function.update before.catalogue.get cleaned.pk (some cleaned))

end VolunteerScreening.Requirements
