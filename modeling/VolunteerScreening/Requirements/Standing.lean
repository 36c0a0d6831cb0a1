import VolunteerScreening.Requirements.Nightly
import VolunteerScreening.Requirements.Settling
import Mathlib.Data.List.Induction

/-!
# What a sweep leaves does not depend on the day

An instance that is not parked when the scan is over stands as its row before
the sweep, the prerequisites' completions and the birth date make it stand: the
day of the sweep decides only whether it is parked.
-/

namespace VolunteerScreening.Requirements

open Calendar Org

theorem activate_congr {catalogue : Catalogue} {rows rows' : Instances}
    (completions : ∀ pk, (rows pk).bind (·.completedOn) = (rows' pk).bind (·.completedOn))
    (volunteer : Volunteer) (definition : RequirementDefinition) (row : RequirementInstance) :
    activate catalogue rows volunteer definition row =
      activate catalogue rows' volunteer definition row := by
  unfold activate
  rw [prerequisiteDeadline_congr completions]

theorem activate_reason (catalogue : Catalogue) (rows : Instances) (volunteer : Volunteer)
    (definition : RequirementDefinition) (row : RequirementInstance) (status : RequirementStatus)
    (reason : String) :
    activate catalogue rows volunteer definition
        { row with status := status, notApplicableReason := reason } =
      activate catalogue rows volunteer definition row := rfl

theorem activate_status (catalogue : Catalogue) (rows : Instances) (volunteer : Volunteer)
    (definition : RequirementDefinition) (row : RequirementInstance) :
    (activate catalogue rows volunteer definition row).status = .notStarted := by
  obtain ⟨dueOn, dueReason, written⟩ := activate_eq catalogue rows volunteer definition row
  rw [written]

theorem activate_completedOn (catalogue : Catalogue) (rows : Instances) (volunteer : Volunteer)
    (definition : RequirementDefinition) (row : RequirementInstance) :
    (activate catalogue rows volunteer definition row).completedOn = row.completedOn := by
  obtain ⟨dueOn, dueReason, written⟩ := activate_eq catalogue rows volunteer definition row
  rw [written]

/-! ## What the age scan switches on -/

/-- A row the scan switched on: it was parked, nothing blocks it, and it is a requirement of an
adult with a role. -/
structure Switched (settings : Settings) (asOf : Date) (file : VolunteerFile)
    (definition : RequirementDefinition) (row : RequirementInstance) : Prop where
  parked : row.status = .notApplicable
  adult : file.volunteer.isAdultOn asOf = true
  applies : definition.appliesToVolunteer (file.activeRoles settings) = true
  unblocked : unmetPrerequisite settings.catalogue file.requirementInstances definition = none

def ScannedAs (settings : Settings) (asOf : Date) (file : VolunteerFile) (rows : Instances) :
    Prop :=
  ∀ pk, rows pk = file.requirementInstances pk ∨
    ∃ definition row, definition ∈ settings.catalogue.active ∧ definition.pk = pk ∧
      file.requirementInstances pk = some row ∧ Switched settings asOf file definition row ∧
      rows pk = some (activate settings.catalogue file.requirementInstances file.volunteer
        definition row)

section Scan

variable {settings : Settings} {asOf : Date} {file : VolunteerFile} {rows : Instances}

theorem ScannedAs.completedOn (scanned : ScannedAs settings asOf file rows) (pk : Pk) :
    (rows pk).bind (·.completedOn) =
      (file.requirementInstances pk).bind (·.completedOn) := by
  rcases scanned pk with same | ⟨definition, row, _, _, present, _, written⟩
  · rw [same]
  · rw [present, written, Option.bind_some, Option.bind_some, activate_completedOn]

/-- What is switched on blocks no less than it did while it was parked. -/
theorem ScannedAs.unmetPrerequisite (scanned : ScannedAs settings asOf file rows)
    {definition : RequirementDefinition}
    (unblocked : unmetPrerequisite settings.catalogue rows definition = none) :
    unmetPrerequisite settings.catalogue file.requirementInstances definition = none := by
  rw [unmetPrerequisite_eq, Option.filter_eq_none_iff] at *
  intro prerequisite gate blocked
  refine unblocked prerequisite gate ?_
  rcases scanned prerequisite.pk with same | ⟨definition, row, _, _, present, _, written⟩
  · rwa [same]
  · rw [present, Option.any_some, blocks_eq] at blocked
    rw [written, Option.any_some, blocks_eq, activate_completedOn, activate_status]
    simp_all

def scannedUpTo (settings : Settings) (asOf : Date) (file : VolunteerFile)
    (definitions : List RequirementDefinition) : Instances :=
  definitions.foldl
    (fun rows definition =>
      match file.requirementInstances definition.pk with
      | some row =>
          if row.status = .notApplicable ∧ turns18 settings asOf file rows definition then
            Function.update rows definition.pk
              (some (activate settings.catalogue rows file.volunteer definition row))
          else rows
      | none => rows)
    file.requirementInstances

theorem scannedUpTo_concat (definitions : List RequirementDefinition)
    (definition : RequirementDefinition) :
    scannedUpTo settings asOf file (definitions ++ [definition]) =
      match file.requirementInstances definition.pk with
      | some row =>
          if row.status = .notApplicable ∧
              turns18 settings asOf file (scannedUpTo settings asOf file definitions)
                definition then
            Function.update (scannedUpTo settings asOf file definitions) definition.pk
              (some (activate settings.catalogue (scannedUpTo settings asOf file definitions)
                file.volunteer definition row))
          else scannedUpTo settings asOf file definitions
      | none => scannedUpTo settings asOf file definitions := by
  unfold scannedUpTo
  rw [List.foldl_append]
  rfl

theorem scannedUpTo_append {pk : Pk} (first : List RequirementDefinition)
    {rest : List RequirementDefinition} (elsewhere : pk ∉ rest.map (·.pk)) :
    scannedUpTo settings asOf file (first ++ rest) pk =
      scannedUpTo settings asOf file first pk := by
  induction rest using List.reverseRecOn with
  | nil => rw [List.append_nil]
  | append_singleton rest definition inductionHypothesis =>
      rw [List.map_append, List.mem_append, not_or] at elsewhere
      obtain ⟨notEarlier, notLast⟩ := elsewhere
      have other : pk ≠ definition.pk := by simpa using notLast
      rw [← List.append_assoc, scannedUpTo_concat, ← inductionHypothesis notEarlier]
      split
      · split
        · rw [Function.update_of_ne other]
        · rfl
      · rfl

theorem scannedUpTo_scanned {definitions : List RequirementDefinition}
    (inForce : definitions ⊆ settings.catalogue.active) :
    ScannedAs settings asOf file (scannedUpTo settings asOf file definitions) := by
  induction definitions using List.reverseRecOn with
  | nil => exact fun pk => .inl rfl
  | append_singleton definitions definition inductionHypothesis =>
      have scanned := inductionHypothesis fun _ listed =>
        inForce (List.mem_append_left _ listed)
      rw [scannedUpTo_concat]
      split
      · next row present =>
          split
          · next switches =>
              obtain ⟨parked, turned⟩ := switches
              simp only [turns18, Bool.and_eq_true, Option.isNone_iff_eq_none] at turned
              obtain ⟨⟨⟨⟨_, _⟩, adult⟩, applies⟩, unblocked⟩ := turned
              intro pk
              by_cases self : pk = definition.pk
              · subst self
                refine .inr ⟨definition, row, inForce (by simp), rfl, present,
                  ⟨parked, adult, applies, scanned.unmetPrerequisite unblocked⟩, ?_⟩
                rw [Function.update_self, activate_congr scanned.completedOn]
              · rw [Function.update_of_ne self]
                exact scanned pk
          · exact scanned
      · exact scanned

theorem activateTurning18Checks_scanned :
    ScannedAs settings asOf file
      (activateTurning18Checks settings asOf file).requirementInstances :=
  scannedUpTo_scanned (List.Subset.refl _)

/-- What the scan makes of an instance, by the rows its turn finds. -/
theorem activateTurning18Checks_turn {definition : RequirementDefinition}
    {row : RequirementInstance} (listed : definition ∈ settings.catalogue.active)
    (present : file.requirementInstances definition.pk = some row) :
    ∃ rows, ScannedAs settings asOf file rows ∧
      (activateTurning18Checks settings asOf file).requirementInstances definition.pk =
        some (if row.status = .notApplicable ∧ turns18 settings asOf file rows definition then
          activate settings.catalogue rows file.volunteer definition row
        else row) := by
  obtain ⟨rest, split, notLater⟩ := settings.catalogue.active_split listed
  have unique := settings.catalogue.active_uniquePk
  rw [split, List.map_append, List.map_cons, List.nodup_append] at unique
  have notEarlier : definition.pk ∉ (settings.catalogue.before definition).map (·.pk) :=
    fun earlier => unique.2.2 _ earlier _ List.mem_cons_self rfl
  have untouched : scannedUpTo settings asOf file (settings.catalogue.before definition)
      definition.pk = some row :=
    (scannedUpTo_append [] notEarlier).trans present
  have whole : (activateTurning18Checks settings asOf file).requirementInstances =
      scannedUpTo settings asOf file
        (settings.catalogue.before definition ++ [definition] ++ rest) := by
    rw [List.append_assoc, List.singleton_append, ← split]
    rfl
  refine ⟨scannedUpTo settings asOf file (settings.catalogue.before definition),
    scannedUpTo_scanned fun other earlier => ?_, ?_⟩
  · rw [split]
    exact List.mem_append_left _ earlier
  · rw [whole, scannedUpTo_append _ notLater, scannedUpTo_concat, present]
    dsimp only
    split
    · rw [Function.update_self]
    · exact untouched

end Scan

/-! ## How an instance stands -/

/-- Whether a requirement finds itself blocked at its turn by a prerequisite that has its own turn
later. -/
def heldByLater (catalogue : Catalogue) (existing : Instances)
    (definition : RequirementDefinition) : Bool :=
  (gatePrerequisite catalogue definition).any fun prerequisite =>
    !catalogue.precedes prerequisite definition &&
      (existing prerequisite.pk).any (blocks prerequisite)

def standing (catalogue : Catalogue) (volunteer : Volunteer) (existing : Instances)
    (definition : RequirementDefinition) : RequirementInstance :=
  let activated := activate catalogue existing volunteer definition
  let held := heldByLater catalogue existing definition
  match existing definition.pk with
  | none => if held then activated .fresh else .fresh
  | some row =>
      if row.status = .complete ∨ row.status = .waived then row
      else if row.status = .notApplicable then activated row
      else if held then activated (holdNotApplicable row "")
      else if definition.isGated && row.completedOn.isNone then
        (refreshPrerequisiteDeadline catalogue existing definition row).getD row
      else row

namespace SyncSubject

variable {subject : SyncSubject} {definition : RequirementDefinition}

theorem unmetPrerequisite_result (subject : SyncSubject) (definition : RequirementDefinition) :
    unmetPrerequisite subject.catalogue subject.result.1 definition =
      (gatePrerequisite subject.catalogue definition).filter fun prerequisite =>
        subject.stillBlocks prerequisite (subject.existing prerequisite.pk) := by
  rw [unmetPrerequisite_eq]
  cases gate : gatePrerequisite subject.catalogue definition with
  | none => rfl
  | some prerequisite =>
      have inForce := (gatePrerequisite_some gate).2.2
      simp only [Option.filter_some, subject.result_blocks prerequisite inForce]

theorem result_parked_iff (listed : definition ∈ subject.catalogue.active)
    {row : RequirementInstance} (present : subject.result.1 definition.pk = some row) :
    row.status = .notApplicable ↔
      subject.parkingReason (subject.rowsAt definition) definition ≠ none ∧
        (subject.existing definition.pk).any (fun before =>
          before.status == .complete || before.status == .waived) = false := by
  rw [subject.result_of_mem definition listed] at present
  cases current : subject.existing definition.pk with
  | none =>
      rw [subject.turn_of_none _ _ current] at present
      split at present
      · obtain rfl := Option.some.inj present
        unfold createdRow
        cases subject.parkingReason (subject.rowsAt definition) definition <;>
          simp [RequirementInstance.fresh]
      · cases present
  | some before =>
      rw [(subject.turn_of_some _ _ current).1, Option.some.injEq] at present
      rw [← present, subject.reconciled_status]
      cases subject.parkingReason (subject.rowsAt definition) definition <;>
        cases status : before.status <;> simp [status]

theorem parked_of_heldByLater (listed : definition ∈ subject.catalogue.active)
    (held : heldByLater subject.catalogue subject.existing definition = true) :
    subject.parkingReason (subject.rowsAt definition) definition ≠ none := by
  intro released
  have unblocked := ((subject.parkingReason_none_iff _ definition).mp released).2.2
  rw [subject.unmetPrerequisite_rowsAt definition listed, Option.filter_eq_none_iff] at unblocked
  obtain ⟨prerequisite, gate, later⟩ := (Option.any_eq_true _ _).mp held
  simp only [Bool.and_eq_true, Bool.not_eq_true'] at later
  refine unblocked prerequisite gate ?_
  unfold blocksAtTurn
  rw [later.1]
  exact later.2

/-- What parks an adult's requirement at its turn and no longer blocks it after the sync is a
prerequisite whose own turn came later. -/
theorem heldByLater_of_parked (listed : definition ∈ subject.catalogue.active)
    (applies : subject.applies definition = true) (included : subject.exempt definition = false)
    (parked : subject.parkingReason (subject.rowsAt definition) definition ≠ none)
    (unblocked : unmetPrerequisite subject.catalogue subject.result.1 definition = none) :
    heldByLater subject.catalogue subject.existing definition = true := by
  have blocked : unmetPrerequisite subject.catalogue (subject.rowsAt definition) definition ≠
      none := fun free =>
    parked ((subject.parkingReason_none_iff _ definition).mpr ⟨applies, included, free⟩)
  rw [subject.unmetPrerequisite_rowsAt definition listed] at blocked
  obtain ⟨prerequisite, found⟩ := Option.ne_none_iff_exists'.mp blocked
  obtain ⟨gate, atTurn⟩ := Option.filter_eq_some_iff.mp found
  have inForce := (gatePrerequisite_some gate).2.2
  rw [unmetPrerequisite_eq, Option.filter_eq_none_iff] at unblocked
  have after := unblocked prerequisite gate
  rw [subject.result_blocks prerequisite inForce] at after
  unfold blocksAtTurn at atTurn
  cases earlier : subject.catalogue.precedes prerequisite definition with
  | true =>
      rw [earlier] at atTurn
      exact absurd atTurn after
  | false =>
      rw [earlier] at atTurn
      simp only [heldByLater, gate, Option.any_some, earlier, Bool.not_false, Bool.true_and]
      exact atTurn

end SyncSubject

section Standing

variable {settings : Settings} {asOf : Date} {file : VolunteerFile}
  {definition : RequirementDefinition} {row : RequirementInstance}

/-- A turn that parks nothing leaves an instance as it stands. -/
theorem standing_of_released (listed : definition ∈ settings.catalogue.active)
    (released : (syncSubject settings asOf file).parkingReason
      ((syncSubject settings asOf file).rowsAt definition) definition = none) :
    standing settings.catalogue file.volunteer file.requirementInstances definition =
      match file.requirementInstances definition.pk with
      | none => .fresh
      | some row => (syncSubject settings asOf file).reconciled
          ((syncSubject settings asOf file).rowsAt definition) definition row := by
  have completions := (syncSubject settings asOf file).rowsAt_completedOn definition listed
  have free : heldByLater settings.catalogue file.requirementInstances definition = false := by
    by_contra held
    rw [Bool.not_eq_false] at held
    exact @SyncSubject.parked_of_heldByLater (syncSubject settings asOf file) definition listed
      held released
  unfold standing
  dsimp only
  rw [free]
  cases file.requirementInstances definition.pk with
  | none => rfl
  | some row =>
      dsimp only
      by_cases decided : row.status = .complete ∨ row.status = .waived
      · rw [if_pos decided, SyncSubject.reconciled_of_decided _ _ _ decided]
      · rw [if_neg decided]
        by_cases parked : row.status = .notApplicable
        · rw [if_pos parked, SyncSubject.reconciled_of_released_notApplicable _ _ _ released parked]
          exact activate_congr (fun pk => (completions pk).symm) _ _ _
        · have outstanding := RequirementStatus.isOutstanding_of_undecided decided parked
          rw [if_neg parked, if_neg Bool.false_ne_true,
            SyncSubject.reconciled_of_released_outstanding _ _ _ released outstanding,
            refreshPrerequisiteDeadline_congr completions]
          rfl

theorem synced_standing (listed : definition ∈ settings.catalogue.active)
    (present : (synced settings asOf file).requirementInstances definition.pk = some row)
    (unparked : row.status ≠ .notApplicable) :
    row = standing settings.catalogue file.volunteer file.requirementInstances definition := by
  have turned := synced_instance_of_mem listed present
  cases parking : (syncSubject settings asOf file).parkingReason
      ((syncSubject settings asOf file).rowsAt definition) definition with
  | none =>
      rw [standing_of_released listed parking]
      obtain ⟨absent, _, rfl⟩ | ⟨before, there, rfl⟩ := turned
      · simp [absent, SyncSubject.createdRow, parking]
      · rw [there]
  | some reason =>
      obtain ⟨_, _, created⟩ | ⟨before, there, reconciled⟩ := turned
      · rw [SyncSubject.createdRow, parking] at created
        exact absurd (created ▸ rfl) unparked
      · by_cases decided : before.status = .complete ∨ before.status = .waived
        · rw [SyncSubject.reconciled_of_decided _ _ _ decided] at reconciled
          subst reconciled
          unfold standing
          simp only [there]
          rw [if_pos decided]
        · have status := (syncSubject settings asOf file).reconciled_status
            ((syncSubject settings asOf file).rowsAt definition) definition before
          rw [← reconciled, if_neg decided, parking] at status
          exact absurd status unparked

theorem switched_standing (listed : definition ∈ settings.catalogue.active)
    (present : (synced settings asOf file).requirementInstances definition.pk = some row)
    (switched : Switched settings asOf (synced settings asOf file) definition row) :
    activate settings.catalogue (synced settings asOf file).requirementInstances file.volunteer
        definition row =
      standing settings.catalogue file.volunteer file.requirementInstances definition := by
  have turned := synced_instance_of_mem listed present
  have included : (syncSubject settings asOf file).exempt definition = false := by
    have adult : file.volunteer.isAdultOn asOf = true := switched.adult
    simp [SyncSubject.exempt, syncSubject, RequirementDefinition.isAgeExempt, adult]
  have unblocked : unmetPrerequisite settings.catalogue
      (syncSubject settings asOf file).result.1 definition = none := switched.unblocked
  have parkedRow := switched.parked
  have derived : ∀ before, activate settings.catalogue
      (synced settings asOf file).requirementInstances file.volunteer definition before =
        activate settings.catalogue file.requirementInstances file.volunteer definition before :=
    activate_congr (syncSubject settings asOf file).result_completedOn _ _
  cases parking : (syncSubject settings asOf file).parkingReason
      ((syncSubject settings asOf file).rowsAt definition) definition with
  | none =>
      -- A turn that parks nothing leaves nothing for the scan to switch on.
      have parked := (SyncSubject.result_parked_iff listed present).mp
        switched.parked
      exact absurd parking parked.1
  | some reason =>
      have held : heldByLater settings.catalogue file.requirementInstances definition = true :=
        @SyncSubject.heldByLater_of_parked (syncSubject settings asOf file) _ listed
          switched.applies included (by simp [parking]) unblocked
      rw [derived]
      unfold standing
      dsimp only
      obtain ⟨absent, _, created⟩ | ⟨before, there, reconciled⟩ := turned
      · rw [SyncSubject.createdRow, parking] at created
        rw [absent, created, activate_reason, held, if_pos rfl]
      · rw [there]
        dsimp only
        by_cases decided : before.status = .complete ∨ before.status = .waived
        · rw [SyncSubject.reconciled_of_decided _ _ _ decided] at reconciled
          rw [← reconciled, parkedRow] at decided
          rcases decided with status | status <;> cases status
        · rw [if_neg decided]
          by_cases parked : before.status = .notApplicable
          · rw [SyncSubject.reconciled_of_parked_notApplicable _ _ _ parking parked] at reconciled
            rw [if_pos parked, reconciled]
          · have outstanding := RequirementStatus.isOutstanding_of_undecided decided parked
            rw [SyncSubject.reconciled_of_parked _ _ _ parking outstanding] at reconciled
            rw [if_neg parked, held, if_pos rfl, reconciled]
            rfl

/-- After the sync and the scan of any day, an instance is parked or stands the same. -/
theorem scanned_standing (listed : definition ∈ settings.catalogue.active)
    (present : (activateTurning18Checks settings asOf (synced settings asOf
      file)).requirementInstances definition.pk = some row)
    (unparked : row.status ≠ .notApplicable) :
    row = standing settings.catalogue file.volunteer file.requirementInstances definition := by
  rcases @activateTurning18Checks_scanned settings asOf (synced settings asOf file)
      definition.pk with
    same | ⟨other, parked, inForce, samePk, found, switched, written⟩
  · rw [same] at present
    exact synced_standing listed present unparked
  · have same : other = definition :=
      settings.catalogue.eq_of_pk_eq (settings.catalogue.mem_active.mp inForce).1
        (settings.catalogue.mem_active.mp listed).1 samePk
    subst same
    rw [written, Option.some.injEq] at present
    rw [← present]
    exact switched_standing listed found switched

end Standing

/-! ## Whether an instance is parked -/

/-- Whether a sweep of the day leaves an instance unparked, from the rows before it: it is complete
or waived, or nothing parks it at its turn, or the scan switches it on. -/
def standsOn (settings : Settings) (asOf : Date) (file : VolunteerFile)
    (definition : RequirementDefinition) : Bool :=
  let subject := syncSubject settings asOf file
  let prerequisite := gatePrerequisite settings.catalogue definition
  (file.requirementInstances definition.pk).any
      (fun row => row.status == .complete || row.status == .waived) ||
    subject.applies definition && !subject.exempt definition &&
      (prerequisite.all (fun gate => !subject.blocksAtTurn definition gate) ||
        definition.ageRule == .adultsOnly &&
          prerequisite.all (fun gate =>
            !subject.stillBlocks gate (file.requirementInstances gate.pk)))

section Parked

variable {settings : Settings} {asOf : Date} {file : VolunteerFile}
  {definition : RequirementDefinition}

/-- What the scan switches on waits behind a gate: nothing else could have parked it. -/
theorem Switched.gated (listed : definition ∈ settings.catalogue.active)
    {row : RequirementInstance}
    (present : (synced settings asOf file).requirementInstances definition.pk = some row)
    (switched : Switched settings asOf (synced settings asOf file) definition row) :
    definition.isGated = true := by
  have adult : file.volunteer.isAdultOn asOf = true := switched.adult
  have applies : (syncSubject settings asOf file).applies definition = true := switched.applies
  have parked := (SyncSubject.result_parked_iff listed present).mp
    switched.parked
  by_contra ungated
  rw [Bool.not_eq_true] at ungated
  refine parked.1 (Option.isNone_iff_eq_none.mp (Option.isSome_eq_false_iff.mp ?_))
  rw [SyncSubject.parkingReason_isSome_of_ungated _ _ _ ungated, applies]
  simp [SyncSubject.exempt, syncSubject, RequirementDefinition.isAgeExempt, adult]

theorem scanned_unmetPrerequisite_iff {rows : Instances}
    (scanned : ScannedAs settings asOf (synced settings asOf file) rows) :
    unmetPrerequisite settings.catalogue rows definition = none ↔
      unmetPrerequisite settings.catalogue (synced settings asOf file).requirementInstances
        definition = none := by
  refine ⟨scanned.unmetPrerequisite, ?_⟩
  rw [unmetPrerequisite_eq, unmetPrerequisite_eq, Option.filter_eq_none_iff,
    Option.filter_eq_none_iff]
  intro unblocked prerequisite gate blocked
  refine unblocked prerequisite gate ?_
  rcases scanned prerequisite.pk with
    same | ⟨other, row, inForce, samePk, present, switched, written⟩
  · rwa [same] at blocked
  · have same : other = prerequisite :=
      settings.catalogue.eq_of_pk_eq (settings.catalogue.mem_active.mp inForce).1
        (settings.catalogue.mem_active.mp (gatePrerequisite_some gate).2.2).1 samePk
    subst same
    have gated := switched.gated inForce present
    rw [written, Option.any_some, blocks_eq, activate_completedOn] at blocked
    rw [present, Option.any_some, blocks_eq, gated, switched.parked]
    simp_all

/-- Whom the scan finds of age and unblocked, from the rows before the sweep. -/
theorem turns18_synced_iff {rows : Instances}
    (scanned : ScannedAs settings asOf (synced settings asOf file) rows) :
    turns18 settings asOf (synced settings asOf file) rows definition = true ↔
      (definition.ageRule == .adultsOnly) = true ∧
        (syncSubject settings asOf file).applies definition = true ∧
        (syncSubject settings asOf file).exempt definition = false ∧
        (gatePrerequisite settings.catalogue definition).all (fun gate =>
          !(syncSubject settings asOf file).stillBlocks gate
            (file.requirementInstances gate.pk)) = true := by
  have unblocked : unmetPrerequisite settings.catalogue rows definition = none ↔
      (gatePrerequisite settings.catalogue definition).all (fun gate =>
        !(syncSubject settings asOf file).stillBlocks gate
          (file.requirementInstances gate.pk)) = true := by
    rw [scanned_unmetPrerequisite_iff scanned]
    refine (Iff.of_eq (congrArg (· = none)
      ((syncSubject settings asOf file).unmetPrerequisite_result definition))).trans ?_
    rw [Option.filter_eq_none_iff, Option.all_eq_true]
    simp [syncSubject]
  unfold turns18
  simp only [Bool.and_eq_true, Option.isNone_iff_eq_none, unblocked]
  constructor
  · rintro ⟨⟨⟨⟨adultsOnly, _⟩, adult⟩, applies⟩, free⟩
    have included : definition.isAgeExempt file.volunteer asOf = false := by
      simp [RequirementDefinition.isAgeExempt, show file.volunteer.isAdultOn asOf = true from adult]
    exact ⟨adultsOnly, applies, included, free⟩
  · rintro ⟨adultsOnly, applies, included, free⟩
    have adult : file.volunteer.isAdultOn asOf = true := by
      simpa [SyncSubject.exempt, syncSubject, RequirementDefinition.isAgeExempt,
        eq_of_beq adultsOnly] using included
    exact ⟨⟨⟨⟨adultsOnly, file.volunteer.hasBirthDate_of_isAdultOn adult⟩, adult⟩, applies⟩, free⟩

/-- The sync and the scan of a day leave an instance unparked exactly when the rows before them say
that it stands. -/
theorem scanned_unparked_iff (listed : definition ∈ settings.catalogue.active) :
    (∃ row, (activateTurning18Checks settings asOf
          (synced settings asOf file)).requirementInstances definition.pk = some row ∧
        row.status ≠ .notApplicable) ↔
      standsOn settings asOf file definition = true := by
  have released : (syncSubject settings asOf file).parkingReason
      ((syncSubject settings asOf file).rowsAt definition) definition = none ↔
        (syncSubject settings asOf file).applies definition = true ∧
          (syncSubject settings asOf file).exempt definition = false ∧
          (gatePrerequisite settings.catalogue definition).all (fun gate =>
            !(syncSubject settings asOf file).blocksAtTurn definition gate) = true := by
    rw [SyncSubject.parkingReason_none_iff,
      (syncSubject settings asOf file).unmetPrerequisite_rowsAt definition listed,
      Option.filter_eq_none_iff, Option.all_eq_true]
    simp [syncSubject]
  have stands : standsOn settings asOf file definition = true ↔
      (file.requirementInstances definition.pk).any (fun row =>
          row.status == .complete || row.status == .waived) = true ∨
        (syncSubject settings asOf file).applies definition = true ∧
          (syncSubject settings asOf file).exempt definition = false ∧
          ((gatePrerequisite settings.catalogue definition).all (fun gate =>
              !(syncSubject settings asOf file).blocksAtTurn definition gate) = true ∨
            (definition.ageRule == .adultsOnly) = true ∧
              (gatePrerequisite settings.catalogue definition).all (fun gate =>
                !(syncSubject settings asOf file).stillBlocks gate
                  (file.requirementInstances gate.pk)) = true) := by
    simp only [standsOn, Bool.or_eq_true, Bool.and_eq_true, Bool.not_eq_true', and_assoc]
  rw [stands]
  cases there : (synced settings asOf file).requirementInstances definition.pk with
  | none =>
      have absent := (activateTurning18Checks_row settings asOf (synced settings asOf file)
        definition.pk).1
      rw [there, Option.isSome_none, Option.isSome_eq_false_iff, Option.isNone_iff_eq_none]
        at absent
      have turned := (syncSubject settings asOf file).result_of_mem definition listed
      cases current : file.requirementInstances definition.pk with
      | none =>
          rw [(syncSubject settings asOf file).turn_of_none _ _ current] at turned
          split at turned
          · cases there.symm.trans turned
          · next idle => simp [absent, idle]
      | some before =>
          rw [((syncSubject settings asOf file).turn_of_some _ _ current).1] at turned
          cases there.symm.trans turned
  | some row =>
      obtain ⟨rows, scanned, written⟩ :=
        @activateTurning18Checks_turn settings asOf _ _ _ listed there
      have parked := SyncSubject.result_parked_iff listed there
      rw [ne_eq, released] at parked
      have switched := @turns18_synced_iff settings asOf file definition rows scanned
      have left : (∃ row, (activateTurning18Checks settings asOf
            (synced settings asOf file)).requirementInstances definition.pk = some row ∧
          row.status ≠ .notApplicable) ↔
            row.status ≠ .notApplicable ∨
              turns18 settings asOf (synced settings asOf file) rows definition = true := by
        rw [written]
        split
        · next both => simp [both.2, activate_status]
        · next neither =>
            simp only [Option.some.injEq, exists_eq_left']
            exact ⟨.inl, fun either => either.elim id fun turned still => neither ⟨still, turned⟩⟩
      rw [left, switched, ne_eq, parked]
      have either : ∀ (decided : Bool) (free applies included adults late : Prop),
          ¬(¬(applies ∧ included ∧ free) ∧ decided = false) ∨ adults ∧ applies ∧ included ∧ late ↔
            decided = true ∨ applies ∧ included ∧ (free ∨ adults ∧ late) := by grind
      exact either _ _ _ _ _ _

end Parked

end VolunteerScreening.Requirements
