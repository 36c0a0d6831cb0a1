import VolunteerScreening.Requirements.Settling

/-!
# Running a sync twice

A second sync finds nothing to do exactly when no gated requirement met one of
three situations in the first: it was created with a deadline still to derive,
it was switched on with a turning-18 deadline later than the derived one, or its
prerequisite, visited after it, changed sides.
-/

namespace VolunteerScreening.Requirements

open Calendar Org

/-- An existing row keeps still in a turn when it is on the right side of its parking, and has
no deadline to re-derive. -/
theorem SyncSubject.reconciled_eq_self_iff (subject : SyncSubject) (rows : Instances)
    (definition : RequirementDefinition) (row : RequirementInstance) :
    subject.reconciled rows definition row = row ↔
      (row.status.isOutstanding = true → subject.parkingReason rows definition = none ∧
        (definition.isGated = true → row.completedOn = none →
          refreshPrerequisiteDeadline subject.catalogue rows definition row = none)) ∧
      (row.status = .notApplicable → subject.parkingReason rows definition ≠ none) := by
  by_cases decided : row.status = .complete ∨ row.status = .waived
  · rw [subject.reconciled_of_decided rows definition decided]
    rcases decided with status | status <;>
      simp [status, RequirementStatus.isOutstanding, RequirementStatus.outstandingValues]
  · by_cases parkedRow : row.status = .notApplicable
    · have settled : row.status.isOutstanding = false := by rw [parkedRow]; rfl
      cases parking : subject.parkingReason rows definition with
      | some reason =>
          rw [subject.reconciled_of_parked_notApplicable rows definition parking parkedRow]
          simp [settled]
      | none =>
          rw [subject.reconciled_of_released_notApplicable rows definition parking parkedRow]
          simp [activate_ne parkedRow, parkedRow]
    · have outstanding := RequirementStatus.isOutstanding_of_undecided decided parkedRow
      cases parking : subject.parkingReason rows definition with
      | some reason =>
          rw [subject.reconciled_of_parked rows definition parking outstanding]
          simp [holdNotApplicable_ne outstanding, outstanding]
      | none =>
          rw [subject.reconciled_of_released_outstanding rows definition parking outstanding]
          cases gated : definition.isGated <;> cases done : row.completedOn <;>
            cases refreshed :
              refreshPrerequisiteDeadline subject.catalogue rows definition row <;>
            simp [outstanding, parkedRow]
          exact refreshPrerequisiteDeadline_ne refreshed

theorem refreshPrerequisiteDeadline_refreshed {catalogue : Catalogue} {rows rows' : Instances}
    {definition : RequirementDefinition} (row : RequirementInstance)
    (sameDeadline : prerequisiteDeadline catalogue rows' definition =
      prerequisiteDeadline catalogue rows definition) :
    refreshPrerequisiteDeadline catalogue rows' definition
      ((refreshPrerequisiteDeadline catalogue rows definition row).getD row) = none := by
  cases refreshed : refreshPrerequisiteDeadline catalogue rows definition row with
  | none =>
      unfold refreshPrerequisiteDeadline at refreshed ⊢
      rw [sameDeadline]
      exact refreshed
  | some changed =>
      obtain ⟨deadline, reason, found, _, _, rfl⟩ := refreshPrerequisiteDeadline_some refreshed
      simp [refreshPrerequisiteDeadline, sameDeadline, found]

/-- The turning-18 deadline an activation attaches, when it attaches one. -/
def turning18Deadline (volunteer : Volunteer) (definition : RequirementDefinition) :
    Option Date :=
  if definition.isCrc && definition.ageRule == .adultsOnly then
    volunteer.eighteenthBirthdayTriggerDate.map (·.addMonths turning18CrcDeadlineMonths)
  else none

theorem trigger_of_not_exempt {volunteer : Volunteer} {definition : RequirementDefinition}
    {asOf : Date} (adultsOnly : definition.ageRule = .adultsOnly)
    (notExempt : definition.isAgeExempt volunteer asOf = false) :
    volunteer.eighteenthBirthdayTriggerDate.isSome := by
  unfold Volunteer.eighteenthBirthdayTriggerDate
  simp only [RequirementDefinition.isAgeExempt, adultsOnly, Volunteer.isAdultOn,
    Volunteer.ageOn] at notExempt
  cases year : volunteer.birthYear <;> cases month : volunteer.birthMonth <;>
    simp [year, month] at notExempt ⊢

/-- Just after a gated requirement is switched on, its deadline needs re-deriving only if the
turning-18 deadline it was given is later than the derived one. -/
theorem refresh_activate_eq_none_iff {catalogue : Catalogue} {rows rows' : Instances}
    {volunteer : Volunteer} {definition : RequirementDefinition} {asOf : Date}
    (row : RequirementInstance)
    (sameDeadline : prerequisiteDeadline catalogue rows' definition =
      prerequisiteDeadline catalogue rows definition)
    (notExempt : definition.isAgeExempt volunteer asOf = false)
    (gated : definition.isGated = true) :
    refreshPrerequisiteDeadline catalogue rows' definition
        (activate catalogue rows volunteer definition row) = none ↔
      ∀ deadline reason birthday,
        prerequisiteDeadline catalogue rows definition = some (deadline, reason) →
        turning18Deadline volunteer definition = some birthday → birthday ≤ deadline := by
  unfold refreshPrerequisiteDeadline activate turning18Deadline
  rw [sameDeadline]
  cases onAge : definition.isCrc && definition.ageRule == .adultsOnly
  · cases prerequisiteDeadline catalogue rows definition <;> simp [gated]
  · have adultsOnly : definition.ageRule = .adultsOnly := by simp_all
    obtain ⟨trigger, known⟩ :=
      Option.isSome_iff_exists.mp (trigger_of_not_exempt adultsOnly notExempt)
    cases found : prerequisiteDeadline catalogue rows definition with
    | none => simp
    | some derived =>
        obtain ⟨deadline, reason⟩ := derived
        simp only [known, Option.map_some, if_true, Option.some.injEq, Prod.mk.injEq,
          RequirementInstance.isBefore, decide_eq_true_eq]
        constructor
        · intro kept other _ birthday same sameBirthday
          obtain ⟨rfl, rfl⟩ := same
          subst sameBirthday
          by_contra later
          have notSame : trigger.addMonths turning18CrcDeadlineMonths ≠ deadline := by
            rintro rfl
            exact later (le_refl _)
          have notBefore : ¬trigger.addMonths turning18CrcDeadlineMonths < deadline :=
            fun before => later (le_of_lt before)
          simp [notSame, notBefore] at kept
        · intro early
          have bounded := early deadline reason _ ⟨rfl, rfl⟩ rfl
          rcases lt_or_eq_of_le bounded with before | same
          · simp [before]
          · simp [same]

namespace SyncSubject

variable (subject : SyncSubject)

def again : SyncSubject := { subject with existing := subject.result.1 }

/-- A prerequisite whose own turn changes whether it blocks: an instance not yet completed that
the roles or the age newly ask for, or no longer do. -/
def changesSides (prerequisite : RequirementDefinition) : Bool :=
  let wanted := subject.applies prerequisite && !subject.exempt prerequisite
  match subject.existing prerequisite.pk with
  | none => wanted || (subject.applies prerequisite && prerequisite.isGated)
  | some prior =>
      prior.completedOn.isNone && !prerequisite.isGated &&
        ((prior.status.isOutstanding && !wanted) || (prior.status == .notApplicable && wanted))

theorem changesSides_eq (prerequisite : RequirementDefinition) :
    subject.changesSides prerequisite =
      ((subject.existing prerequisite.pk).any (blocks prerequisite) !=
        subject.stillBlocks prerequisite (subject.existing prerequisite.pk)) := by
  unfold changesSides stillBlocks
  cases subject.existing prerequisite.pk with
  | none =>
      cases subject.applies prerequisite <;> cases subject.exempt prerequisite <;>
        cases prerequisite.isGated <;> simp
  | some prior =>
      simp only [Option.any_some, blocks_eq]
      cases prior.completedOn.isNone <;> cases prior.status <;>
        cases subject.applies prerequisite <;> cases subject.exempt prerequisite <;>
        cases prerequisite.isGated <;> decide

/-- When a gated requirement that the volunteer owes is settled by one sync. -/
structure SettlesAtOnce (definition : RequirementDefinition) : Prop where
  /-- One that has no instance yet has no deadline to derive. -/
  created : subject.existing definition.pk = none →
    prerequisiteDeadline subject.catalogue subject.existing definition = none
  /-- One about to be switched on has no derived deadline before its turning-18 one. -/
  activated : ∀ row, subject.existing definition.pk = some row → row.status = .notApplicable →
    row.completedOn = none → ∀ deadline reason birthday,
      prerequisiteDeadline subject.catalogue subject.existing definition =
        some (deadline, reason) →
      turning18Deadline subject.volunteer definition = some birthday → birthday ≤ deadline
  /-- A prerequisite that has its turn later does not change sides. -/
  prerequisite : ∀ prerequisite,
    gatePrerequisite subject.catalogue definition = some prerequisite →
    subject.catalogue.precedes prerequisite definition = false →
    (∀ row, subject.existing definition.pk = some row →
      row.status ≠ .complete ∧ row.status ≠ .waived) →
    subject.changesSides prerequisite = false

theorem again_blocksAtTurn (definition : RequirementDefinition)
    {prerequisite : RequirementDefinition} (inForce : prerequisite ∈ subject.catalogue.active) :
    subject.again.blocksAtTurn definition prerequisite =
      subject.stillBlocks prerequisite (subject.existing prerequisite.pk) := by
  have left := subject.result_of_mem prerequisite inForce
  unfold blocksAtTurn
  split
  · show subject.stillBlocks prerequisite (subject.result.1 prerequisite.pk) = _
    rw [left, stillBlocks_turn]
  · show (subject.result.1 prerequisite.pk).any (blocks prerequisite) = _
    rw [left, turn_blocks]

/-- The two syncs park a requirement alike exactly when a prerequisite that has its turn later
does not change sides. -/
theorem parkingReason_again_iff {definition : RequirementDefinition}
    (listed : definition ∈ subject.catalogue.active) :
    (subject.again.parkingReason (subject.again.rowsAt definition) definition).isSome =
        (subject.parkingReason (subject.rowsAt definition) definition).isSome ↔
      (subject.applies definition = true → subject.exempt definition = false →
        ∀ prerequisite, gatePrerequisite subject.catalogue definition = some prerequisite →
          subject.catalogue.precedes prerequisite definition = false →
          subject.changesSides prerequisite = false) := by
  have first := subject.unmetPrerequisite_rowsAt definition listed
  have second := subject.again.unmetPrerequisite_rowsAt definition listed
  have sameApplies : subject.again.applies definition = subject.applies definition := rfl
  have sameExempt : subject.again.exempt definition = subject.exempt definition := rfl
  unfold parkingReason
  rw [first, second, sameApplies, sameExempt]
  cases subject.applies definition
  · simp
  · cases subject.exempt definition
    · show ((Option.filter _ (gatePrerequisite subject.catalogue definition)).map _).isSome = _ ↔ _
      cases gate : gatePrerequisite subject.catalogue definition with
      | none => simp
      | some prerequisite =>
          have inForce := (gatePrerequisite_some gate).2.2
          have later := subject.again_blocksAtTurn definition inForce
          have earlier : subject.blocksAtTurn definition prerequisite =
              if subject.catalogue.precedes prerequisite definition then
                subject.stillBlocks prerequisite (subject.existing prerequisite.pk)
              else (subject.existing prerequisite.pk).any (blocks prerequisite) := rfl
          simp only [Option.filter, later, earlier, Option.some.injEq, forall_eq',
            subject.changesSides_eq]
          cases subject.catalogue.precedes prerequisite definition
          · cases (subject.existing prerequisite.pk).any (blocks prerequisite) <;>
              cases subject.stillBlocks prerequisite (subject.existing prerequisite.pk) <;> simp
          · simp
    · simp

theorem prerequisiteDeadline_again {definition : RequirementDefinition}
    (listed : definition ∈ subject.catalogue.active) :
    prerequisiteDeadline subject.catalogue (subject.again.rowsAt definition) definition =
      prerequisiteDeadline subject.catalogue subject.existing definition := by
  have second := subject.again.prerequisiteDeadline_rowsAt definition listed definition
  exact second.trans (prerequisiteDeadline_congr subject.result_completedOn definition)

theorem created_still_iff {definition : RequirementDefinition}
    (listed : definition ∈ subject.catalogue.active) :
    subject.again.reconciled (subject.again.rowsAt definition) definition
        (subject.createdRow (subject.rowsAt definition) definition) =
          subject.createdRow (subject.rowsAt definition) definition ↔
      (subject.again.parkingReason (subject.again.rowsAt definition) definition).isSome =
          (subject.parkingReason (subject.rowsAt definition) definition).isSome ∧
        (subject.parkingReason (subject.rowsAt definition) definition = none →
          definition.isGated = true →
          prerequisiteDeadline subject.catalogue subject.existing definition = none) := by
  have sameDeadline := subject.prerequisiteDeadline_again listed
  rw [reconciled_eq_self_iff]
  unfold createdRow
  cases subject.parkingReason (subject.rowsAt definition) definition with
  | some reason =>
      cases subject.again.parkingReason (subject.again.rowsAt definition) definition <;>
        simp [RequirementInstance.fresh, RequirementStatus.isOutstanding,
          RequirementStatus.outstandingValues]
  | none =>
      have refreshed : refreshPrerequisiteDeadline subject.again.catalogue
          (subject.again.rowsAt definition) definition .fresh = none ↔
          prerequisiteDeadline subject.catalogue subject.existing definition = none := by
        show refreshPrerequisiteDeadline subject.catalogue _ _ _ = none ↔ _
        unfold refreshPrerequisiteDeadline
        rw [sameDeadline]
        cases prerequisiteDeadline subject.catalogue subject.existing definition <;>
          simp [RequirementInstance.fresh, RequirementInstance.isBefore]
      rw [refreshed]
      cases subject.again.parkingReason (subject.again.rowsAt definition) definition <;>
        simp [RequirementInstance.fresh, RequirementStatus.isOutstanding,
          RequirementStatus.outstandingValues]

theorem reconciled_still_iff {definition : RequirementDefinition}
    (listed : definition ∈ subject.catalogue.active) (row : RequirementInstance) :
    subject.again.reconciled (subject.again.rowsAt definition) definition
        (subject.reconciled (subject.rowsAt definition) definition row) =
          subject.reconciled (subject.rowsAt definition) definition row ↔
      (row.status ≠ .complete → row.status ≠ .waived →
        (subject.again.parkingReason (subject.again.rowsAt definition) definition).isSome =
          (subject.parkingReason (subject.rowsAt definition) definition).isSome) ∧
        (row.status = .notApplicable → row.completedOn = none →
          subject.parkingReason (subject.rowsAt definition) definition = none →
          definition.isGated = true → ∀ deadline reason birthday,
            prerequisiteDeadline subject.catalogue subject.existing definition =
              some (deadline, reason) →
            turning18Deadline subject.volunteer definition = some birthday →
            birthday ≤ deadline) := by
  have sameDeadline : prerequisiteDeadline subject.catalogue (subject.again.rowsAt definition)
      definition = prerequisiteDeadline subject.catalogue (subject.rowsAt definition) definition :=
    (subject.prerequisiteDeadline_again listed).trans
      (subject.prerequisiteDeadline_rowsAt definition listed definition).symm
  rw [reconciled_eq_self_iff]
  by_cases decided : row.status = .complete ∨ row.status = .waived
  · rw [subject.reconciled_of_decided _ definition decided]
    rcases decided with status | status <;>
      simp [status, RequirementStatus.isOutstanding, RequirementStatus.outstandingValues]
  · have undecided := not_or.mp decided
    by_cases parkedRow : row.status = .notApplicable
    · cases parking : subject.parkingReason (subject.rowsAt definition) definition with
      | some reason =>
          rw [subject.reconciled_of_parked_notApplicable _ definition parking parkedRow]
          cases subject.again.parkingReason (subject.again.rowsAt definition) definition <;>
            simp [parkedRow, RequirementStatus.isOutstanding, RequirementStatus.outstandingValues]
      | none =>
          obtain ⟨_, notExempt, _⟩ := (subject.parkingReason_none_iff _ definition).mp parking
          have switchedOn := fun gated => refresh_activate_eq_none_iff row sameDeadline notExempt
            gated
          rw [subject.reconciled_of_released_notApplicable _ definition parking parkedRow]
          rw [subject.prerequisiteDeadline_rowsAt definition listed] at switchedOn
          obtain ⟨dueOn, dueReason, written⟩ := activate_eq subject.catalogue
            (subject.rowsAt definition) subject.volunteer definition row
          have status := congrArg RequirementInstance.status written
          have completedOn := congrArg RequirementInstance.completedOn written
          rw [status, completedOn]
          show ((_ = true → subject.again.parkingReason _ _ = none ∧
            (_ → _ → refreshPrerequisiteDeadline subject.catalogue _ _ _ = none)) ∧ _) ↔ _
          cases subject.again.parkingReason (subject.again.rowsAt definition) definition with
          | some reason =>
              simp [parkedRow, RequirementStatus.isOutstanding,
                RequirementStatus.outstandingValues]
          | none =>
              simp only [RequirementStatus.isOutstanding, RequirementStatus.outstandingValues]
              constructor
              · rintro ⟨still, _⟩
                refine ⟨fun _ _ => trivial, ?_⟩
                intro _ undone _ gated
                exact (switchedOn gated).mp ((still rfl).2 gated undone)
              · rintro ⟨_, early⟩
                refine ⟨fun _ => ⟨trivial, ?_⟩, by simp⟩
                intro gated undone
                exact (switchedOn gated).mpr (early parkedRow undone trivial gated)
    · have outstanding := RequirementStatus.isOutstanding_of_undecided decided parkedRow
      cases parking : subject.parkingReason (subject.rowsAt definition) definition with
      | some reason =>
          rw [subject.reconciled_of_parked _ definition parking outstanding]
          cases subject.again.parkingReason (subject.again.rowsAt definition) definition <;>
            simp [holdNotApplicable, undecided, parkedRow, RequirementStatus.isOutstanding,
              RequirementStatus.outstandingValues]
      | none =>
          have sameStatus := subject.reconciled_status (subject.rowsAt definition) definition row
          rw [if_neg decided, parking, if_neg (by simp), if_neg parkedRow] at sameStatus
          have refreshed : definition.isGated = true → row.completedOn = none →
              refreshPrerequisiteDeadline subject.again.catalogue
                (subject.again.rowsAt definition) definition
                (subject.reconciled (subject.rowsAt definition) definition row) = none := by
            intro gated undone
            rw [subject.reconciled_of_released_outstanding _ definition parking outstanding,
              gated, undone]
            exact refreshPrerequisiteDeadline_refreshed row sameDeadline
          rw [sameStatus, reconciled_completedOn]
          cases subject.again.parkingReason (subject.again.rowsAt definition) definition <;>
            simp_all

theorem released_of_deadline {definition : RequirementDefinition}
    (listed : definition ∈ subject.catalogue.active)
    (applies : subject.applies definition = true) (notExempt : subject.exempt definition = false)
    (derived : (prerequisiteDeadline subject.catalogue subject.existing definition).isSome) :
    subject.parkingReason (subject.rowsAt definition) definition = none := by
  refine (subject.parkingReason_none_iff _ definition).mpr ⟨applies, notExempt, ?_⟩
  rw [← subject.prerequisiteDeadline_rowsAt definition listed] at derived
  exact unmetPrerequisite_of_deadline derived

/-- A definition's turn in the second sync finds nothing to do exactly when the volunteer does
not owe it, it has no gate, or the first sync settled it. -/
theorem again_turn_counts_zero_iff {definition : RequirementDefinition}
    (listed : definition ∈ subject.catalogue.active) :
    (subject.again.turn (subject.again.rowsAt definition) definition).2 = .zero ↔
      (subject.applies definition = true → subject.exempt definition = false →
        definition.isGated = true → subject.SettlesAtOnce definition) := by
  have parking := subject.parkingReason_again_iff listed
  have left : subject.again.existing definition.pk =
      (subject.turn (subject.rowsAt definition) definition).1 :=
    subject.result_of_mem definition listed
  cases current : subject.existing definition.pk with
  | none =>
      rw [subject.turn_of_none _ definition current] at left
      cases applies : subject.applies definition
      · rw [applies, if_neg (by simp)] at left
        rw [subject.again.turn_of_none _ definition left]
        have sameApplies : subject.again.applies definition = false := applies
        simp [sameApplies]
      · rw [applies, if_pos rfl] at left
        rw [(subject.again.turn_of_some _ definition left).2, subject.created_still_iff listed,
          parking]
        constructor
        · rintro ⟨sides, underived⟩ _ notExempt gated
          refine ⟨fun _ => ?_, fun row present => ?_, fun prerequisite gate later _ => ?_⟩
          · by_contra derived
            have released := subject.released_of_deadline listed applies notExempt
              (Option.isSome_iff_ne_none.mpr derived)
            exact derived (underived released gated)
          · rw [current] at present
            cases present
          · exact sides applies notExempt prerequisite gate later
        · intro settles
          refine ⟨fun _ notExempt prerequisite gate later => ?_, fun released gated => ?_⟩
          · refine (settles rfl notExempt (gatePrerequisite_some gate).1).prerequisite
              prerequisite gate later ?_
            intro row present
            rw [current] at present
            cases present
          · obtain ⟨_, notExempt, _⟩ := (subject.parkingReason_none_iff _ definition).mp released
            exact (settles rfl notExempt gated).created current
  | some row =>
      rw [(subject.turn_of_some _ definition current).1] at left
      rw [(subject.again.turn_of_some _ definition left).2, subject.reconciled_still_iff listed,
        parking]
      constructor
      · rintro ⟨sides, early⟩ applies notExempt gated
        refine ⟨fun absent => ?_, fun row' present parkedRow undone deadline reason birthday derived
          => ?_, fun prerequisite gate later undecided => ?_⟩
        · rw [current] at absent
          cases absent
        · rw [current] at present
          cases present
          have released := subject.released_of_deadline listed applies notExempt
            (by rw [derived]; rfl)
          exact early parkedRow undone released gated deadline reason birthday derived
        · obtain ⟨incomplete, unwaived⟩ := undecided row current
          exact sides incomplete unwaived applies notExempt prerequisite gate later
      · intro settles
        refine ⟨fun incomplete unwaived applies notExempt prerequisite gate later => ?_,
          fun parkedRow undone released gated => ?_⟩
        · refine (settles applies notExempt (gatePrerequisite_some gate).1).prerequisite
            prerequisite gate later ?_
          intro row' present
          rw [current] at present
          cases present
          exact ⟨incomplete, unwaived⟩
        · obtain ⟨applies, notExempt, _⟩ :=
            (subject.parkingReason_none_iff _ definition).mp released
          exact (settles applies notExempt gated).activated row current parkedRow undone

end SyncSubject

/-- A sync directly after a sync counts nothing and changes nothing exactly when the first one
settled every gated requirement in force that the volunteer owes. -/
theorem sync_twice_iff (settings : Settings) (asOf : Date) (file : VolunteerFile) :
    syncVolunteerRequirements settings asOf (synced settings asOf file) =
        (synced settings asOf file, .zero) ↔
      ∀ definition ∈ settings.catalogue.active,
        (syncSubject settings asOf file).applies definition = true →
        (syncSubject settings asOf file).exempt definition = false →
        definition.isGated = true →
        (syncSubject settings asOf file).SettlesAtOnce definition := by
  have counted := (syncSubject settings asOf file).again.result_counts_zero_iff
  have turns : ∀ definition ∈ settings.catalogue.active, _ ↔ _ := fun definition listed =>
    (syncSubject settings asOf file).again_turn_counts_zero_iff listed
  constructor
  · intro still definition listed
    exact (turns definition listed).mp (counted.mp (congrArg Prod.snd still) definition listed)
  · intro settles
    have zero : (syncSubject settings asOf file).again.result.2 = .zero :=
      counted.mpr fun definition listed =>
        (turns definition listed).mpr (settles definition listed)
    have unchanged : (syncSubject settings asOf file).again.result.1 =
        (syncSubject settings asOf file).result.1 := by
      funext pk
      obtain same | ⟨definition, listed, rfl⟩ :=
        (syncSubject settings asOf file).again.result_cases pk
      · exact same
      · rw [(syncSubject settings asOf file).again.result_of_mem definition listed]
        exact ((syncSubject settings asOf file).again.turn_counts_zero_iff _ definition).mp
          (counted.mp zero definition listed)
    refine Prod.ext ?_ zero
    show { synced settings asOf file with
      requirementInstances := (syncSubject settings asOf file).again.result.1 } = _
    rw [unchanged]
    rfl

def orientationAndRefresher : Catalogue where
  definitions :=
    [Sample.requirement 1 "Orientation training" 100,
      { Sample.requirement 2 "Refresher training" 110 with
        cadence := .annual
        mustFollow := some 1
        dependencyMode := .gate }]
  uniquePk := by decide
  uniqueName := by decide
  ordered := by decide

def orientedVolunteer : VolunteerFile :=
  { VolunteerFile.opened Sample.adult with
    assignments := [⟨1, Sample.january 3, none, true⟩]
    requirementInstances := fun pk =>
      if pk = 1 then
        some (RequirementInstance.fresh.markComplete
          (Sample.requirement 1 "Orientation training" 100) (Sample.january 9) "")
      else none }

/-- The second sync gives the refresher the deadline the first one created it without. -/
theorem sync_twice_updates :
    (syncVolunteerRequirements (Sample.settings orientationAndRefresher)
      (Sample.day ⟨3, by decide⟩ 0)
      (synced (Sample.settings orientationAndRefresher) (Sample.day ⟨3, by decide⟩ 0)
        orientedVolunteer)).2 = ⟨0, 1, 0⟩ := by
  decide

end VolunteerScreening.Requirements
