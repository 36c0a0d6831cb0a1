import VolunteerScreening.Results.SyncSettled

/-!
# Where a gate does not fail open

A prerequisite that is not this volunteer's to complete should hold nothing up.
Whether its parked instance waits on a gate of its own is read off its
definition alone, so a gated prerequisite parked for its role or for the age
holds what follows it for good.
-/

namespace VolunteerScreening.Requirements

open Calendar Org

/-- Why a prerequisite is not this volunteer's to complete. -/
inductive NotOwed (settings : Settings) (asOf : Date) (file : VolunteerFile)
    (prerequisite : RequirementDefinition) : Prop where
  | retired (inactive : prerequisite.isActive = false)
  | unrequired (noRole : prerequisite.appliesToVolunteer (file.activeRoles settings) = false)
  | absent (none : file.requirementInstances prerequisite.pk = none)
  | exempt (young : prerequisite.isAgeExempt file.volunteer asOf = true)

/-- A prerequisite in force that was never completed, parked while its definition has a gate, or
complete by its status alone. -/
structure HoldsOn (file : VolunteerFile) (prerequisite : RequirementDefinition) : Prop where
  inForce : prerequisite.isActive = true
  undone : ∃ prior, file.requirementInstances prerequisite.pk = some prior ∧
    prior.completedOn = none ∧
    (prior.status = .notApplicable ∧ prerequisite.isGated = true ∨ prior.status = .complete)

variable {settings : Settings} {asOf : Date} {file : VolunteerFile}
  {definition prerequisite : RequirementDefinition}

/-- An instance in force that the volunteer does not owe is not outstanding in a settled file. -/
theorem not_outstanding_of_notOwed
    (still : (syncSubject settings asOf file).result.1 = file.requirementInstances)
    (listed : prerequisite ∈ settings.catalogue.active)
    (notOwed : NotOwed settings asOf file prerequisite) {prior : RequirementInstance}
    (present : file.requirementInstances prerequisite.pk = some prior) :
    prior.status.isOutstanding = false := by
  have specified := asSpecified_of_still still listed
  cases applies : prerequisite.appliesToVolunteer (file.activeRoles settings)
  · exact specified.unrequired applies prior present
  · obtain ⟨row, found, held, _⟩ := specified.required applies
    obtain rfl : row = prior := Option.some.inj (found.symm.trans present)
    cases notOwed with
    | retired inactive =>
        rw [(settings.catalogue.mem_active.mp listed).2] at inactive
        cases inactive
    | unrequired noRole =>
        rw [applies] at noRole
        cases noRole
    | absent none =>
        rw [present] at none
        cases none
    | exempt young => exact held (.inl young)

/-- A prerequisite that is not owed blocks, in a settled file, exactly while it holds on. -/
theorem blocks_iff_of_notOwed
    (still : (syncSubject settings asOf file).result.1 = file.requirementInstances)
    (listed : prerequisite ∈ settings.catalogue.active)
    (notOwed : NotOwed settings asOf file prerequisite) :
    (file.requirementInstances prerequisite.pk).any (blocks prerequisite) = true ↔
      HoldsOn file prerequisite := by
  have inForce := (settings.catalogue.mem_active.mp listed).2
  cases present : file.requirementInstances prerequisite.pk with
  | none =>
      refine ⟨fun blocking => by simp at blocking, ?_⟩
      rintro ⟨_, prior, found, _⟩
      rw [present] at found
      cases found
  | some prior =>
      have settled := not_outstanding_of_notOwed still listed notOwed present
      rw [Option.any_some, blocks_eq]
      constructor
      · intro blocking
        simp only [Bool.and_eq_true, Option.isNone_iff_eq_none, Bool.or_eq_true, bne_iff_ne]
          at blocking
        obtain ⟨⟨undone, unwaived⟩, waiting⟩ := blocking
        refine ⟨inForce, prior, present, undone, ?_⟩
        cases status : prior.status <;>
          simp_all [RequirementStatus.isOutstanding, RequirementStatus.outstandingValues]
      · rintro ⟨_, row, found, undone, kind⟩
        obtain rfl : prior = row := Option.some.inj (present.symm.trans found)
        rcases kind with ⟨parked, gated⟩ | complete
        · simp [undone, parked, gated]
        · simp [undone, complete]

/-- In a settled file a gated requirement whose prerequisite is not the volunteer's to complete is
unblocked and in play exactly when that prerequisite does not hold on. -/
theorem gate_fails_open_iff
    (still : (syncSubject settings asOf file).result.1 = file.requirementInstances)
    (listed : definition ∈ settings.catalogue.active) (gated : definition.isGated = true)
    (applies : definition.appliesToVolunteer (file.activeRoles settings) = true)
    (notExempt : definition.isAgeExempt file.volunteer asOf = false)
    (follows : definition.mustFollow.bind settings.catalogue.get = some prerequisite)
    (notOwed : NotOwed settings asOf file prerequisite) :
    (unmetPrerequisite settings.catalogue file.requirementInstances definition = none ∧
        ∃ row, file.requirementInstances definition.pk = some row ∧
          row.status ≠ .notApplicable) ↔
      ¬HoldsOn file prerequisite := by
  have unmet : unmetPrerequisite settings.catalogue file.requirementInstances definition = none ↔
      ¬HoldsOn file prerequisite := by
    rw [unmetPrerequisite_eq, gatePrerequisite, if_pos gated, follows]
    cases inForce : prerequisite.isActive
    · simp only [Option.filter, inForce, Bool.false_eq_true, if_false, true_iff]
      intro holds
      rw [holds.inForce] at inForce
      cases inForce
    · obtain ⟨pk, _, found⟩ := Option.bind_eq_some_iff.mp follows
      have prerequisiteListed : prerequisite ∈ settings.catalogue.active :=
        settings.catalogue.mem_active.mpr ⟨(settings.catalogue.get_some found).1, inForce⟩
      rw [← blocks_iff_of_notOwed still prerequisiteListed notOwed]
      simp [Option.filter, inForce]
  obtain ⟨row, present, _, inPlay⟩ := (asSpecified_of_still still listed).required applies
  rw [unmet]
  refine ⟨fun opened => opened.1, ?_⟩
  intro released
  exact ⟨released, row, present, inPlay notExempt (unmet.mpr released)⟩

def placement : RequirementDefinition :=
  { Sample.requirement 2 "Nursery placement" 110 with
    appliesTo := .specificRoles
    roles := [1]
    mustFollow := some 1
    dependencyMode := .gate }

def placementReview : RequirementDefinition :=
  { Sample.requirement 3 "Placement review" 120 with
    mustFollow := some 2
    dependencyMode := .gate }

def interviewPlacementReview : Catalogue where
  definitions := [Sample.requirement 1 "Interview" 100, placement, placementReview]
  uniquePk := by decide
  uniqueName := by decide
  ordered := by decide

def nurseryAndKitchen : Settings :=
  { Sample.settings interviewPlacementReview with
    roles := [⟨1, 1, "Nursery helper", false, true⟩, ⟨2, 1, "Kitchen helper", false, true⟩] }

/-- A volunteer who moved from the nursery to the kitchen, before or after the nursery placement
was completed; it was parked behind the interview until then. -/
def movedToKitchen (placedOn : Option Date) : VolunteerFile :=
  { VolunteerFile.opened Sample.adult with
    assignments := [⟨1, Sample.january 3, some (Sample.january 9), false⟩,
      ⟨2, Sample.january 9, none, true⟩]
    requirementInstances := fun pk =>
      if pk = 2 then
        some { RequirementInstance.fresh with
          status := if placedOn.isSome then .complete else .notApplicable
          notApplicableReason :=
            if placedOn.isSome then "" else "Not required until Interview is complete"
          completedOn := placedOn }
      else none }

def settledInKitchen (placedOn : Option Date) : VolunteerFile :=
  synced nurseryAndKitchen (Sample.january 12)
    (synced nurseryAndKitchen (Sample.january 12) (movedToKitchen placedOn))

theorem result_of_settled_in_two (settings : Settings) (asOf : Date) (file : VolunteerFile) :
    (syncSubject settings asOf (synced settings asOf (synced settings asOf file))).result.1 =
      (synced settings asOf (synced settings asOf file)).requirementInstances :=
  congrArg (fun outcome => outcome.1.requirementInstances)
    (sync_settles_in_two settings asOf file).1

theorem settledInKitchen_still (placedOn : Option Date) :
    (syncSubject nurseryAndKitchen (Sample.january 12) (settledInKitchen placedOn)).result.1 =
      (settledInKitchen placedOn).requirementInstances :=
  result_of_settled_in_two nurseryAndKitchen (Sample.january 12) (movedToKitchen placedOn)

/-- Of a volunteer placed before moving on the review is owed. -/
theorem gate_open_of_placed :
    unmetPrerequisite nurseryAndKitchen.catalogue
        (settledInKitchen (some (Sample.january 5))).requirementInstances placementReview = none ∧
      ∃ row, (settledInKitchen (some (Sample.january 5))).requirementInstances 3 = some row ∧
        row.status ≠ .notApplicable := by
  refine (@gate_fails_open_iff nurseryAndKitchen (Sample.january 12) _ placementReview placement
    (settledInKitchen_still _) (by decide) (by decide) (by decide) (by decide) (by decide)
    (.unrequired (by decide))).mpr ?_
  rintro ⟨_, prior, present, undone, _⟩
  have done : (settledInKitchen (some (Sample.january 5))).requirementInstances 2 =
      some { RequirementInstance.fresh with
        status := .complete
        completedOn := some (Sample.january 5) } := by decide
  rw [show placement.pk = 2 from rfl, done] at present
  obtain rfl := Option.some.inj present
  cases undone

/-- No role asks for the placement any more, nothing is left to sync, and yet it holds the review
up. -/
theorem gate_held_by_parked_placement :
    (syncSubject nurseryAndKitchen (Sample.january 12) (settledInKitchen none)).result.1 =
        (settledInKitchen none).requirementInstances ∧
      placementReview ∈ nurseryAndKitchen.catalogue.active ∧
      placementReview.isGated = true ∧
      placementReview.appliesToVolunteer
        ((settledInKitchen none).activeRoles nurseryAndKitchen) = true ∧
      placementReview.isAgeExempt (settledInKitchen none).volunteer (Sample.january 12) = false ∧
      placementReview.mustFollow.bind nurseryAndKitchen.catalogue.get = some placement ∧
      placement.appliesToVolunteer
        ((settledInKitchen none).activeRoles nurseryAndKitchen) = false ∧
      unmetPrerequisite nurseryAndKitchen.catalogue (settledInKitchen none).requirementInstances
        placementReview = some placement ∧
      ((settledInKitchen none).requirementInstances 3).map (·.status) = some .notApplicable :=
  ⟨settledInKitchen_still none, by decide, by decide, by decide, by decide, by decide, by decide,
    by decide, by decide⟩

end VolunteerScreening.Requirements
