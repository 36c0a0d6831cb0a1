import VolunteerScreening.Requirements.Dependencies
import VolunteerScreening.File

/-!
# Gates stay acyclic

The search along the chain refuses every choice that would close a loop, and
otherwise only one whose chain it cannot walk to the end.  The search over the
dependents finds nothing that could be chosen without closing one.
-/

namespace VolunteerScreening.Requirements

open Chains Relation

namespace Catalogue

theorem closesLoop_of_leads {catalogue : Catalogue} (acyclic : catalogue.Acyclic)
    {pk choice : Pk} (leads : Leads catalogue.follows choice pk) :
    catalogue.ClosesLoop pk choice := by
  intro still
  exact (Acyclic.update_iff acyclic).mp still choice rfl leads

theorem follows_of_written {before after : Catalogue} {definition : RequirementDefinition}
    (written : after.get = Function.update before.get definition.pk (some definition)) :
    after.follows = Function.update before.follows definition.pk definition.mustFollow := by
  funext pk
  unfold follows
  rw [written]
  by_cases same : pk = definition.pk
  · subst same
    simp
  · simp [same]

theorem leads_unlisted {catalogue : Catalogue} {pk start : Pk}
    (unlisted : ∀ other, catalogue.follows other ≠ some pk)
    (leads : Leads catalogue.follows start pk) : start = pk := by
  obtain same | ⟨other, _, step⟩ := ReflTransGen.cases_tail leads
  · exact same.symm
  · exact absurd step (unlisted other)

end Catalogue

namespace DefinitionTable

theorem isSome_of_follows (table : DefinitionTable) {pk target : Pk}
    (step : Points table.catalogue.follows pk target) :
    (table.catalogue.get target).isSome = true := by
  obtain ⟨definition, found, follows⟩ := Option.bind_eq_some_iff.mp step
  exact table.references definition (table.catalogue.get_some found).1 target follows

end DefinitionTable

theorem Saves.acyclic {before after : DefinitionTable} (saves : Saves before after)
    (acyclic : before.catalogue.Acyclic) : after.catalogue.Acyclic := by
  cases saves with
  | create definition cleaned fresh offered passes written =>
      obtain ⟨samePk, sameFollows, _⟩ := RequirementDefinition.clean_eq_ok passes
      unfold Catalogue.Acyclic
      rw [Catalogue.follows_of_written written, samePk, sameFollows]
      refine (Acyclic.update_iff acyclic).mpr fun choice follows leads => ?_
      have unlisted (other : Pk) : before.catalogue.follows other ≠ some definition.pk := by
        intro step
        have listed := before.isSome_of_follows step
        rw [fresh] at listed
        cases listed
      have same := Catalogue.leads_unlisted unlisted leads
      have listed := offered choice follows
      rw [same, fresh] at listed
      cases listed
  | edit definition cleaned present passes written =>
      obtain ⟨samePk, sameFollows, clear⟩ := RequirementDefinition.clean_eq_ok passes
      unfold Catalogue.Acyclic
      rw [Catalogue.follows_of_written written, samePk, sameFollows]
      refine (Acyclic.update_iff acyclic).mpr fun choice follows => ?_
      obtain ⟨_, onward⟩ :=
        (definition.mustFollowErrors_eq_nil_iff before.catalogue _).mp clear choice follows
      exact not_leads_of_comesBack onward List.mem_cons_self

theorem acyclic_of_saves {before after : DefinitionTable}
    (saves : ReflTransGen Saves before after) (acyclic : before.catalogue.Acyclic) :
    after.catalogue.Acyclic := by
  induction saves with
  | refl => exact acyclic
  | tail _ saved inductionHypothesis => exact saved.acyclic inductionHypothesis

theorem DefinitionTable.isSome_of_mem_chain (table : DefinitionTable) {start pk : Pk}
    (listed : (table.catalogue.get start).isSome = true) {bound : Nat}
    (met : pk ∈ chain table.catalogue.follows bound (some start)) :
    (table.catalogue.get pk).isSome = true := by
  obtain same | ⟨_, _, step⟩ := ReflTransGen.cases_tail (leads_of_mem_chain met)
  · rwa [same]
  · exact table.isSome_of_follows step

/-- A choice that is refused, though it closes no loop, is at the head of a chain too long to
walk. -/
theorem length_chain_of_refused {catalogue : Catalogue} (acyclic : catalogue.Acyclic)
    {definition : RequirementDefinition} {key : Option Pk} {choice : Pk}
    (saved : ∀ pk ∈ key, pk = definition.pk) (follows : definition.mustFollow = some choice)
    (opens : ¬catalogue.ClosesLoop definition.pk choice)
    (refused : definition.mustFollowErrors catalogue key ≠ []) :
    maxDependencyHops ≤ (chain catalogue.follows maxDependencyHops (some choice)).length := by
  have apart : ¬Leads catalogue.follows choice definition.pk := fun leads =>
    opens (Catalogue.closesLoop_of_leads acyclic leads)
  have other : key ≠ some choice := by
    rintro rfl
    rw [saved choice rfl] at apart
    exact apart .refl
  have back : comesBack catalogue.follows maxDependencyHops key.toList (some choice) = true := by
    by_contra onward
    refine refused ((definition.mustFollowErrors_eq_nil_iff catalogue key).mpr ?_)
    rintro chosen same
    rw [follows] at same
    cases same
    exact ⟨other, Bool.eq_false_iff.mpr onward⟩
  obtain ⟨pk, met, seen⟩ | long := Acyclic.comesBack_eq_true acyclic back
  · rw [saved pk (Option.mem_toList.mp seen)] at met
    exact absurd (leads_of_mem_chain met) apart
  · exact long

/-- Saves that pass `clean` keep the definitions acyclic.  A choice that closes no loop is refused
only when the chain it starts is as long as the search looks, and the form leaves none out. -/
theorem gates_stay_acyclic (table : DefinitionTable) (acyclic : table.catalogue.Acyclic) :
    (∀ after, ReflTransGen Saves table after → after.catalogue.Acyclic) ∧
      (∀ (definition : RequirementDefinition) (key : Option Pk) (choice : Pk)
          (errors : List (String × String)),
        key = none ∨ key = some definition.pk → definition.mustFollow = some choice →
        (table.catalogue.get choice).isSome = true →
        ¬table.catalogue.ClosesLoop definition.pk choice →
        definition.clean table.catalogue key = .error (.validation errors) →
        "must_follow" ∈ errors.map (·.1) →
        ∃ keys : List Pk, maxDependencyHops ≤ keys.length ∧ keys.Nodup ∧
          keys.head? = some choice ∧ keys.IsChain (Points table.catalogue.follows) ∧
          ∀ pk ∈ keys, (table.catalogue.get pk).isSome = true) ∧
      ∀ pk, ∀ choice ∈ table.catalogue.active,
        ¬table.catalogue.ClosesLoop pk choice.pk →
        choice ∈ table.catalogue.mustFollowChoices (some pk) := by
  refine ⟨fun after saves => acyclic_of_saves saves acyclic, ?_, ?_⟩
  · intro definition key choice errors saved follows listed opens refused named
    rw [← RequirementDefinition.clean_eq_error refused] at named
    have wrong := (definition.mem_cleanErrors_iff table.catalogue key).mp named
    have same : ∀ pk ∈ key, pk = definition.pk := by
      rintro pk rfl
      rcases saved with none | some
      · cases none
      · exact Option.some.inj some
    refine ⟨chain table.catalogue.follows maxDependencyHops (some choice),
      length_chain_of_refused acyclic same follows opens wrong, acyclic.chain_nodup _ _, rfl,
      chain_isChain _ _, fun pk met => table.isSome_of_mem_chain listed met⟩
  · intro pk choice active opens
    refine List.mem_filter.mpr ⟨active, ?_⟩
    refine decide_eq_true fun gathered => ?_
    refine opens (Catalogue.closesLoop_of_leads acyclic (leads_of_mem_gather ?_ ?_ gathered))
    all_goals
      intro other listed
      rw [List.mem_singleton.mp listed]

/-! ## Training and its refresher -/

section Training

open Sample

def refresher : RequirementDefinition :=
  { requirement 2 "Refresher training" 110 with
    mustFollow := some 1
    dependencyMode := .gate }

def orientationTable : DefinitionTable where
  catalogue := orientationOnly
  references := by
    intro definition listed
    rw [List.mem_singleton.mp listed]
    rintro pk none
    cases none

def refresherTable : DefinitionTable where
  catalogue :=
    { definitions := [orientation, refresher]
      uniquePk := by decide
      uniqueName := by decide
      ordered := by decide }
  references := by decide

theorem orientationTable_acyclic : orientationTable.catalogue.Acyclic := by
  intro pk path
  obtain ⟨target, step, _⟩ := TransGen.head'_iff.mp path
  obtain ⟨definition, found, follows⟩ := Option.bind_eq_some_iff.mp step
  rw [List.mem_singleton.mp (Catalogue.get_some _ found).1] at follows
  cases follows

theorem orientationTable_saves_refresher : Saves orientationTable refresherTable := by
  refine .create refresher refresher (by decide) (by decide) (by decide) ?_
  funext pk
  by_cases same : pk = 2
  · subst same
    rfl
  · have other : (refresher.pk == pk) = false := beq_false_of_ne (Ne.symm same)
    rw [Function.update_of_ne (show pk ≠ refresher.pk from same)]
    change [orientation, refresher].find? _ = [orientation].find? _
    rw [List.find?_cons, List.find?_cons, List.find?_cons]
    simp only [other]

theorem gates_stay_acyclic_training :
    ∃ after, Saves orientationTable after ∧ after.catalogue.follows 2 = some 1 ∧
      after.catalogue.Acyclic :=
  ⟨refresherTable, orientationTable_saves_refresher, by decide,
    (gates_stay_acyclic orientationTable orientationTable_acyclic).1 _
      (.single orientationTable_saves_refresher)⟩

end Training

end VolunteerScreening.Requirements
