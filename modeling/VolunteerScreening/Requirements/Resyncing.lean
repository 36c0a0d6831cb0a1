import VolunteerScreening.Requirements.Settling

/-!
# Rewriting a row among synced ones

Once a sync has run, every prerequisite has had its turn.  A row that is written
afterwards is then resynced as the rows before the sync would have it: what
holds a requirement up and when it falls due do not depend on how many syncs
have run.
-/

namespace VolunteerScreening.Requirements

open Calendar Org

namespace SyncSubject

variable (subject : SyncSubject) (definition : RequirementDefinition)

/-- Whether what is gated behind this requirement is blocked now exactly as it will be once it
has had its turn. -/
def Settled (prerequisite : RequirementDefinition) : Prop :=
  (subject.existing prerequisite.pk).any (blocks prerequisite) =
    subject.stillBlocks prerequisite (subject.existing prerequisite.pk)

/-- Whether anything holds a requirement up: no role requires it, the age exempts, or its
prerequisite blocks once that has had its turn. -/
def held : Bool :=
  !subject.applies definition || subject.exempt definition ||
    (gatePrerequisite subject.catalogue definition).any fun prerequisite =>
      subject.stillBlocks prerequisite (subject.existing prerequisite.pk)

/-- Behind a settled prerequisite it does not matter which of the two has its turn first. -/
theorem parkingReason_isSome_of_settled (listed : definition ∈ subject.catalogue.active)
    (settled : ∀ prerequisite, gatePrerequisite subject.catalogue definition = some prerequisite →
      subject.Settled prerequisite) :
    (subject.parkingReason (subject.rowsAt definition) definition).isSome =
      subject.held definition := by
  have gate : (unmetPrerequisite subject.catalogue (subject.rowsAt definition)
      definition).isSome = (gatePrerequisite subject.catalogue definition).any
        fun prerequisite => subject.stillBlocks prerequisite
          (subject.existing prerequisite.pk) := by
    rw [subject.unmetPrerequisite_rowsAt definition listed]
    cases found : gatePrerequisite subject.catalogue definition with
    | none => rfl
    | some prerequisite =>
        have here : subject.blocksAtTurn definition prerequisite =
            subject.stillBlocks prerequisite (subject.existing prerequisite.pk) := by
          unfold blocksAtTurn
          rw [settled prerequisite found, ite_self]
        simp only [Option.filter, here, Option.any_some]
        split <;> simp_all
  unfold parkingReason held
  rw [← gate]
  cases subject.applies definition <;> cases subject.exempt definition <;> simp

theorem result_settled (listed : definition ∈ subject.catalogue.active) :
    (subject.result.1 definition.pk).any (blocks definition) =
        subject.stillBlocks definition (subject.result.1 definition.pk) ∧
      subject.stillBlocks definition (subject.result.1 definition.pk) =
        subject.stillBlocks definition (subject.existing definition.pk) := by
  have kept : subject.stillBlocks definition (subject.result.1 definition.pk) =
      subject.stillBlocks definition (subject.existing definition.pk) := by
    rw [subject.result_of_mem definition listed]
    exact subject.stillBlocks_turn _ definition
  exact ⟨(subject.result_blocks definition listed).trans kept.symm, kept⟩

theorem settled_of_gated (gated : definition.isGated = true) {row : RequirementInstance}
    (present : subject.existing definition.pk = some row) : subject.Settled definition := by
  unfold Settled stillBlocks
  rw [present, Option.any_some, blocks_eq, gated]
  simp

def on (rows : Instances) : SyncSubject := { subject with existing := rows }

@[simp]
theorem on_existing (rows : Instances) : (subject.on rows).existing = rows := rfl

@[simp]
theorem on_stillBlocks (rows : Instances) :
    (subject.on rows).stillBlocks definition = subject.stillBlocks definition := rfl

theorem held_on {rows : Instances}
    (alike : ∀ prerequisite, gatePrerequisite subject.catalogue definition = some prerequisite →
      subject.stillBlocks prerequisite (rows prerequisite.pk) =
        subject.stillBlocks prerequisite (subject.existing prerequisite.pk)) :
    (subject.on rows).held definition = subject.held definition := by
  have gate : (gatePrerequisite subject.catalogue definition).any (fun prerequisite =>
        subject.stillBlocks prerequisite (rows prerequisite.pk)) =
      (gatePrerequisite subject.catalogue definition).any fun prerequisite =>
        subject.stillBlocks prerequisite (subject.existing prerequisite.pk) := by
    cases found : gatePrerequisite subject.catalogue definition with
    | none => rfl
    | some prerequisite => exact alike prerequisite found
  exact congrArg (!subject.applies definition || subject.exempt definition || ·) gate

theorem stillBlocks_of_gated (gated : definition.isGated = true) (row : RequirementInstance) :
    subject.stillBlocks definition (some row) =
      (row.completedOn.isNone && row.status != .waived) := by
  simp [stillBlocks, gated]

theorem held_update {row other : RequirementInstance}
    (listed : definition ∈ subject.catalogue.active)
    (present : subject.existing definition.pk = some row)
    (completion : other.completedOn = row.completedOn) (unwaived : row.status ≠ .waived)
    (otherUnwaived : other.status ≠ .waived) :
    (subject.on (Function.update subject.existing definition.pk (some other))).held definition =
      subject.held definition := by
  refine subject.held_on definition ?_
  intro prerequisite gate
  obtain ⟨gated, _, inForce⟩ := gatePrerequisite_some gate
  by_cases self : prerequisite.pk = definition.pk
  · obtain rfl := subject.catalogue.eq_of_pk_eq (subject.catalogue.mem_active.mp inForce).1
      (subject.catalogue.mem_active.mp listed).1 self
    rw [Function.update_self, present, stillBlocks_of_gated _ _ gated,
      stillBlocks_of_gated _ _ gated, completion, bne_iff_ne.mpr unwaived,
      bne_iff_ne.mpr otherUnwaived]
  · rw [Function.update_of_ne self]

/-- A released row with its derived deadline brought up to date. -/
def redated (row : RequirementInstance) : RequirementInstance :=
  if definition.isGated && row.completedOn.isNone then
    (refreshPrerequisiteDeadline subject.catalogue subject.existing definition row).getD row
  else row

/-- What a sync makes of a row that is not parked without cause: a decided one stays, an
outstanding one is parked or redated. -/
structure Resynced (row after : RequirementInstance) : Prop where
  decided : row.status = .complete ∨ row.status = .waived → after = row
  stays : row.status = .notApplicable → subject.held definition = true → after = row
  parked : row.status.isOutstanding = true → subject.held definition = true →
    ∃ reason, after = holdNotApplicable row reason
  released : row.status.isOutstanding = true → subject.held definition = false →
    after = subject.redated definition row

/-- Rows that syncs may have made of a base, one requirement's own row aside: they block alike,
and nothing was completed. -/
structure Follows (base rows : Instances) : Prop where
  blocking : ∀ prerequisite ∈ subject.catalogue.active, prerequisite.pk ≠ definition.pk →
    subject.stillBlocks prerequisite (rows prerequisite.pk) =
      subject.stillBlocks prerequisite (base prerequisite.pk)
  completion : ∀ pk, pk ≠ definition.pk →
    (rows pk).bind (·.completedOn) = (base pk).bind (·.completedOn)

/-- Rows that a sync has settled, one requirement's own row aside. -/
def SettledApart (rows : Instances) : Prop :=
  ∀ prerequisite ∈ subject.catalogue.active, prerequisite.pk ≠ definition.pk →
    (subject.on rows).Settled prerequisite

variable {subject definition} {base rows : Instances}

theorem Follows.refl : subject.Follows definition rows rows := ⟨fun _ _ _ => rfl, fun _ _ => rfl⟩

theorem Follows.update (follows : subject.Follows definition base rows)
    (row : Option RequirementInstance) :
    subject.Follows definition base (Function.update rows definition.pk row) := by
  refine ⟨?_, ?_⟩
  · intro prerequisite inForce other
    rw [Function.update_of_ne other]
    exact follows.blocking prerequisite inForce other
  · intro pk other
    rw [Function.update_of_ne other]
    exact follows.completion pk other

theorem Follows.synced (follows : subject.Follows definition base rows) :
    subject.Follows definition base (subject.on rows).result.1 := by
  refine ⟨?_, ?_⟩
  · intro prerequisite inForce other
    rw [← follows.blocking prerequisite inForce other]
    exact ((subject.on rows).result_settled prerequisite inForce).2
  · intro pk other
    rw [← follows.completion pk other]
    exact (subject.on rows).result_completedOn pk

theorem SettledApart.synced (rows : Instances) :
    subject.SettledApart definition (subject.on rows).result.1 :=
  fun prerequisite inForce _ => ((subject.on rows).result_settled prerequisite inForce).1

theorem SettledApart.update (settled : subject.SettledApart definition rows)
    (row : Option RequirementInstance) :
    subject.SettledApart definition (Function.update rows definition.pk row) := by
  intro prerequisite inForce other
  unfold Settled
  rw [on_existing, Function.update_of_ne other]
  exact settled prerequisite inForce other

theorem parkingReason_of_settled (listed : definition ∈ subject.catalogue.active)
    (follows : subject.Follows definition base rows)
    (settled : subject.SettledApart definition rows) {row : RequirementInstance}
    (present : rows definition.pk = some row) :
    ((subject.on rows).parkingReason ((subject.on rows).rowsAt definition) definition).isSome =
      (subject.on (Function.update base definition.pk (some row))).held definition := by
  have each : ∀ prerequisite,
      gatePrerequisite subject.catalogue definition = some prerequisite →
        (subject.on rows).Settled prerequisite := by
    intro prerequisite gate
    obtain ⟨gated, _, inForce⟩ := gatePrerequisite_some gate
    by_cases self : prerequisite.pk = definition.pk
    · obtain rfl := subject.catalogue.eq_of_pk_eq (subject.catalogue.mem_active.mp inForce).1
        (subject.catalogue.mem_active.mp listed).1 self
      exact (subject.on rows).settled_of_gated _ gated present
    · exact settled prerequisite inForce self
  rw [(subject.on rows).parkingReason_isSome_of_settled definition listed each]
  refine ((subject.on (Function.update base definition.pk (some row))).held_on definition ?_)
  intro prerequisite gate
  rw [on_existing, on_stillBlocks]
  by_cases self : prerequisite.pk = definition.pk
  · rw [self, Function.update_self, present]
  · rw [Function.update_of_ne self]
    exact follows.blocking prerequisite (gatePrerequisite_some gate).2.2 self

/-- A row written among settled ones is resynced as it would have been at the start. -/
theorem resynced_of_settled (listed : definition ∈ subject.catalogue.active)
    (follows : subject.Follows definition base rows)
    (settled : subject.SettledApart definition rows) {row : RequirementInstance}
    (present : rows definition.pk = some row) :
    (subject.on (Function.update base definition.pk (some row))).Resynced definition row
      ((subject.on rows).reconciled ((subject.on rows).rowsAt definition) definition row) := by
  have parking := parkingReason_of_settled listed follows settled present
  refine ⟨?_, ?_, ?_, ?_⟩
  · intro decided
    exact reconciled_of_decided _ _ _ decided
  · intro notApplicable held
    rw [held, Option.isSome_iff_exists] at parking
    obtain ⟨reason, parking⟩ := parking
    exact reconciled_of_parked_notApplicable _ _ _ parking notApplicable
  · intro outstanding held
    rw [held, Option.isSome_iff_exists] at parking
    obtain ⟨reason, parking⟩ := parking
    exact ⟨reason, reconciled_of_parked _ _ _ parking outstanding⟩
  · intro outstanding free
    rw [free, Option.isSome_eq_false_iff, Option.isNone_iff_eq_none] at parking
    rw [reconciled_of_released_outstanding _ _ _ parking outstanding]
    have sameDeadline : refreshPrerequisiteDeadline (subject.on rows).catalogue
          ((subject.on rows).rowsAt definition) definition row =
        refreshPrerequisiteDeadline subject.catalogue
          (Function.update base definition.pk (some row)) definition row := by
      refine refreshPrerequisiteDeadline_congr ?_ definition row
      intro pk
      refine ((subject.on rows).rowsAt_completedOn definition listed pk).trans ?_
      rw [on_existing]
      by_cases self : pk = definition.pk
      · rw [self, Function.update_self, present]
      · rw [Function.update_of_ne self]
        exact follows.completion pk self
    rw [sameDeadline]
    rfl

theorem redated_eq (subject : SyncSubject) (definition : RequirementDefinition)
    (row : RequirementInstance) :
    ∃ dueOn dueReason, subject.redated definition row =
      { row with dueOn := dueOn, dueReason := dueReason } := by
  unfold redated
  split
  · cases refreshed : refreshPrerequisiteDeadline subject.catalogue subject.existing definition
        row with
    | none => exact ⟨_, _, rfl⟩
    | some changed =>
        obtain ⟨_, _, _, _, _, rfl⟩ := refreshPrerequisiteDeadline_some refreshed
        exact ⟨_, _, rfl⟩
  · exact ⟨_, _, rfl⟩

theorem redated_congr {other : Instances}
    (completions : ∀ pk, (rows pk).bind (·.completedOn) = (other pk).bind (·.completedOn))
    (row : RequirementInstance) :
    (subject.on rows).redated definition row = (subject.on other).redated definition row := by
  have same : refreshPrerequisiteDeadline subject.catalogue rows definition row =
      refreshPrerequisiteDeadline subject.catalogue other definition row :=
    refreshPrerequisiteDeadline_congr completions definition row
  exact congrArg (fun refreshed : Option RequirementInstance =>
    if definition.isGated && row.completedOn.isNone then refreshed.getD row else row) same

/-- A row a sync parked or redated is neither completed nor waived by it. -/
theorem Resynced.outstanding_next {row next : RequirementInstance}
    (resynced : subject.Resynced definition row next)
    (outstanding : row.status.isOutstanding = true) :
    next.completedOn = row.completedOn ∧ next.status ≠ .waived := by
  cases holds : subject.held definition
  · obtain ⟨dueOn, dueReason, redated⟩ := subject.redated_eq definition row
    rw [resynced.released outstanding holds, redated]
    refine ⟨rfl, ?_⟩
    intro waived
    rw [show row.status = .waived from waived] at outstanding
    cases outstanding
  · obtain ⟨reason, rfl⟩ := resynced.parked outstanding holds
    exact ⟨rfl, by simp [holdNotApplicable]⟩

theorem redated_redated (row : RequirementInstance) :
    subject.redated definition (subject.redated definition row) =
      subject.redated definition row := by
  unfold redated
  cases derives : definition.isGated && row.completedOn.isNone
  · simp [derives]
  · simp only [if_true]
    cases refreshed : refreshPrerequisiteDeadline subject.catalogue subject.existing definition
        row with
    | none => simp [derives, refreshed]
    | some changed =>
        obtain ⟨deadline, reason, derived, _, _, rfl⟩ :=
          refreshPrerequisiteDeadline_some refreshed
        simp [derives, refreshPrerequisiteDeadline, derived]

theorem Resynced.again (listed : definition ∈ subject.catalogue.active)
    {row next last : RequirementInstance} (unparked : row.status ≠ .notApplicable)
    (first : (subject.on (Function.update base definition.pk (some row))).Resynced definition row
      next)
    (second : (subject.on (Function.update base definition.pk (some next))).Resynced definition
      next last) :
    (subject.on (Function.update base definition.pk (some row))).Resynced definition row last := by
  by_cases decided : row.status = .complete ∨ row.status = .waived
  · obtain rfl := first.decided decided
    exact second
  · have outstanding : row.status.isOutstanding = true := by
      rw [RequirementStatus.isOutstanding_iff]
      simp only [RequirementStatus.satisfiedValues, List.mem_cons, List.not_mem_nil, or_false]
      rintro (complete | notApplicable | waived)
      · exact decided (.inl complete)
      · exact unparked notApplicable
      · exact decided (.inr waived)
    have unwaived : row.status ≠ .waived := fun waived => decided (.inr waived)
    obtain ⟨completion, nextUnwaived⟩ := first.outstanding_next outstanding
    have sameHeld := (subject.on (Function.update base definition.pk (some row))).held_update
      definition listed (Function.update_self _ _ _) completion unwaived nextUnwaived
    rw [on_existing, Function.update_idem] at sameHeld
    have alike : (subject.on (Function.update base definition.pk (some next))).held definition =
      (subject.on (Function.update base definition.pk (some row))).held definition := sameHeld
    have completions : ∀ pk, (Function.update base definition.pk (some next) pk).bind
          (·.completedOn) =
        (Function.update base definition.pk (some row) pk).bind (·.completedOn) := by
      intro pk
      by_cases self : pk = definition.pk
      · rw [self, Function.update_self, Function.update_self]
        exact completion
      · rw [Function.update_of_ne self, Function.update_of_ne self]
    refine ⟨fun now => absurd now decided, fun now => absurd now unparked, ?_, ?_⟩
    · intro _ holds
      obtain ⟨reason, rfl⟩ := first.parked outstanding holds
      exact ⟨reason, second.stays rfl (alike.trans holds)⟩
    · intro _ free
      obtain ⟨dueOn, dueReason, redated⟩ :=
        (subject.on (Function.update base definition.pk (some row))).redated_eq definition row
      have nextIs := first.released outstanding free
      have stillOutstanding : next.status.isOutstanding = true := by
        rw [nextIs, redated]
        exact outstanding
      rw [second.released stillOutstanding (alike.trans free), redated_congr completions, nextIs,
        redated_redated]

theorem result_of_some (listed : definition ∈ subject.catalogue.active)
    {row : RequirementInstance} (present : rows definition.pk = some row) :
    (subject.on rows).result.1 definition.pk =
      some ((subject.on rows).reconciled ((subject.on rows).rowsAt definition) definition row) := by
  rw [(subject.on rows).result_of_mem definition listed]
  exact ((subject.on rows).turn_of_some _ definition present).1

theorem Follows.iterate (follows : subject.Follows definition base rows) (count : Nat) :
    subject.Follows definition base ((fun rows => (subject.on rows).result.1)^[count] rows) := by
  induction count with
  | zero => exact follows
  | succ count inductionHypothesis =>
      rw [Function.iterate_succ_apply']
      exact inductionHypothesis.synced

theorem SettledApart.iterate (rows : Instances) (more : Nat) :
    subject.SettledApart definition
      ((fun rows => (subject.on rows).result.1)^[more + 1] rows) := by
  rw [Function.iterate_succ_apply']
  exact SettledApart.synced _

theorem started_iterate (listed : definition ∈ subject.catalogue.active)
    {row : RequirementInstance} (present : rows definition.pk = some row) (count : Nat) :
    ∃ next, (fun rows => (subject.on rows).result.1)^[count] rows definition.pk = some next ∧
      next.startedOn = row.startedOn := by
  induction count with
  | zero => exact ⟨row, present, rfl⟩
  | succ count inductionHypothesis =>
      obtain ⟨next, nextPresent, started⟩ := inductionHypothesis
      rw [Function.iterate_succ_apply']
      exact ⟨_, result_of_some listed nextPresent, (reconciled_startedOn _ _ _ _).trans started⟩

theorem resynced_iterate (listed : definition ∈ subject.catalogue.active)
    (follows : subject.Follows definition base rows)
    (settled : subject.SettledApart definition rows) {row : RequirementInstance}
    (present : rows definition.pk = some row) (unparked : row.status ≠ .notApplicable)
    (more : Nat) :
    ∃ next, (fun rows => (subject.on rows).result.1)^[more + 1] rows definition.pk = some next ∧
      (subject.on (Function.update base definition.pk (some row))).Resynced definition row
        next := by
  induction more with
  | zero =>
      exact ⟨_, result_of_some listed present, resynced_of_settled listed follows settled present⟩
  | succ more inductionHypothesis =>
      obtain ⟨next, nextPresent, first⟩ := inductionHypothesis
      rw [Function.iterate_succ_apply']
      exact ⟨_, result_of_some listed nextPresent, first.again listed unparked
        (resynced_of_settled listed (follows.iterate _) (SettledApart.iterate _ _) nextPresent)⟩

end SyncSubject

theorem synced_row {settings : Settings} {asOf : Date} {file : VolunteerFile}
    {definition : RequirementDefinition} (listed : definition ∈ settings.catalogue.definitions)
    {row : RequirementInstance} (present : file.requirementInstances definition.pk = some row) :
    (synced settings asOf file).requirementInstances definition.pk =
      some (if definition.isActive then
        (syncSubject settings asOf file).reconciled
          ((syncSubject settings asOf file).rowsAt definition) definition row
      else row) := by
  by_cases active : definition.isActive = true
  · have inForce : definition ∈ (syncSubject settings asOf file).catalogue.active :=
      settings.catalogue.mem_active.mpr ⟨listed, active⟩
    rw [if_pos active]
    exact ((syncSubject settings asOf file).result_of_mem definition inForce).trans
      ((syncSubject settings asOf file).turn_of_some _ definition present).1
  · rw [if_neg active]
    refine ((syncSubject settings asOf file).result_of_not_mem ?_).trans present
    intro visited
    obtain ⟨other, inForce, same⟩ := List.mem_map.mp visited
    obtain ⟨otherListed, otherActive⟩ := settings.catalogue.mem_active.mp inForce
    rw [settings.catalogue.eq_of_pk_eq otherListed listed same] at otherActive
    exact active otherActive

def refreshesItself (settings : Settings) (definition : RequirementDefinition) : Bool :=
  hasDependents settings definition.pk && definition.isActive

theorem refreshDependents_row {settings : Settings} {today : Date} {file : VolunteerFile}
    {definition : RequirementDefinition} (listed : definition ∈ settings.catalogue.definitions)
    {row : RequirementInstance} (present : file.requirementInstances definition.pk = some row) :
    (refreshDependents settings today definition.pk file).requirementInstances definition.pk =
      some (if refreshesItself settings definition then
        (syncSubject settings today file).reconciled
          ((syncSubject settings today file).rowsAt definition) definition row
      else row) := by
  unfold refreshDependents refreshesItself
  cases hasDependents settings definition.pk
  · simpa using present
  · simpa using synced_row listed present

structure SameSubject (base after : VolunteerFile) : Prop where
  birthYear : after.volunteer.birthYear = base.volunteer.birthYear
  birthMonth : after.volunteer.birthMonth = base.volunteer.birthMonth
  assignments : after.assignments = base.assignments

/-- A sync of a file is a sync of its rows, whatever else has been written since. -/
theorem synced_rows {base after : VolunteerFile} (same : SameSubject base after)
    (settings : Settings) (asOf : Date) :
    (synced settings asOf after).requirementInstances =
      ((syncSubject settings asOf base).on after.requirementInstances).result.1 := by
  obtain ⟨⟨_, _, _, _, _, _, _, _, _, _, _, _, _⟩, _, _, _, _, _, _, _⟩ := base
  obtain ⟨⟨_, _, _, _, _, _, _, _, _, _, _, _, _⟩, _, _, _, _, _, _, _⟩ := after
  obtain ⟨birthYear, birthMonth, assignments⟩ := same
  dsimp only at birthYear birthMonth assignments
  subst birthYear birthMonth assignments
  rfl

theorem iterate_synced_rows {base after : VolunteerFile} (same : SameSubject base after)
    (settings : Settings) (asOf : Date) (count : Nat) :
    ((synced settings asOf)^[count] after).requirementInstances =
      (fun rows => ((syncSubject settings asOf base).on rows).result.1)^[count]
        after.requirementInstances := by
  induction count generalizing after with
  | zero => rfl
  | succ count inductionHypothesis =>
      have still : SameSubject base (synced settings asOf after) :=
        ⟨same.birthYear, same.birthMonth, same.assignments⟩
      rw [Function.iterate_succ_apply, Function.iterate_succ_apply, inductionHypothesis still,
        synced_rows same]

theorem refreshDependents_rows {base after : VolunteerFile} (same : SameSubject base after)
    (settings : Settings) (today : Date) (pk : Pk) :
    (refreshDependents settings today pk after).requirementInstances =
      (fun rows => ((syncSubject settings today base).on rows).result.1)^[
        if hasDependents settings pk then 1 else 0] after.requirementInstances := by
  unfold refreshDependents
  split
  · exact synced_rows same settings today
  · rfl

theorem refreshDependents_saved {base after : VolunteerFile} (same : SameSubject base after)
    (settings : Settings) (today : Date) (pk : Pk) (row : RequirementInstance) :
    (refreshDependents settings today pk (after.saveInstance pk row)).requirementInstances =
      (fun rows => ((syncSubject settings today base).on rows).result.1)^[
        if hasDependents settings pk then 1 else 0]
          (Function.update after.requirementInstances pk (some row)) := by
  have saved : SameSubject base (after.saveInstance pk row) :=
    ⟨same.birthYear, same.birthMonth, same.assignments⟩
  exact refreshDependents_rows saved settings today pk

end VolunteerScreening.Requirements
