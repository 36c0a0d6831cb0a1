import VolunteerScreening.Requirements.Sync

/-!
# What one sync leaves

Each active definition gets one turn, and its turn depends on the others only
through its prerequisite: whether that still blocks, and when it was completed.
Once a prerequisite has had its turn, whether it blocks no longer depends on
what holds it up in its own right, so a definition's outcome has a closed form.
-/

namespace VolunteerScreening.Requirements

open Calendar Org Sweep

theorem blocks_eq (prerequisite : RequirementDefinition) (prior : RequirementInstance) :
    blocks prerequisite prior =
      (prior.completedOn.isNone && prior.status != .waived &&
        (prior.status != .notApplicable || prerequisite.isGated)) := by
  unfold blocks
  cases prior.completedOn <;> cases prior.status <;> cases prerequisite.isGated <;> simp

def gatePrerequisite (catalogue : Catalogue) (definition : RequirementDefinition) :
    Option RequirementDefinition :=
  if definition.isGated then (definition.mustFollow.bind catalogue.get).filter (·.isActive)
  else none

theorem gatePrerequisite_some {catalogue : Catalogue}
    {definition prerequisite : RequirementDefinition}
    (gate : gatePrerequisite catalogue definition = some prerequisite) :
    definition.isGated = true ∧ definition.mustFollow = some prerequisite.pk ∧
      prerequisite ∈ catalogue.active := by
  unfold gatePrerequisite at gate
  split at gate
  · next gated =>
      obtain ⟨found, isActive⟩ := Option.filter_eq_some_iff.mp gate
      obtain ⟨pk, follows, found⟩ := Option.bind_eq_some_iff.mp found
      obtain ⟨listed, rfl⟩ := catalogue.get_some found
      exact ⟨gated, follows, catalogue.mem_active.mpr ⟨listed, isActive⟩⟩
  · cases gate

theorem unmetPrerequisite_eq (catalogue : Catalogue) (rows : Instances)
    (definition : RequirementDefinition) :
    unmetPrerequisite catalogue rows definition =
      (gatePrerequisite catalogue definition).filter fun prerequisite =>
        (rows prerequisite.pk).any (blocks prerequisite) := by
  unfold unmetPrerequisite gatePrerequisite
  cases definition.isGated
  · rfl
  · cases definition.mustFollow.bind catalogue.get with
    | none => rfl
    | some prerequisite =>
        cases isActive : prerequisite.isActive
        · simp [isActive, Option.filter]
        · cases row : rows prerequisite.pk with
          | none => simp [isActive, Option.filter, row]
          | some prior => simp [isActive, Option.filter, row]

theorem prerequisiteDeadline_congr {catalogue : Catalogue} {rows rows' : Instances}
    (completions : ∀ pk, (rows pk).bind (·.completedOn) = (rows' pk).bind (·.completedOn))
    (definition : RequirementDefinition) :
    prerequisiteDeadline catalogue rows definition =
      prerequisiteDeadline catalogue rows' definition := by
  unfold prerequisiteDeadline
  simp only [completions]

theorem refreshPrerequisiteDeadline_congr {catalogue : Catalogue} {rows rows' : Instances}
    (completions : ∀ pk, (rows pk).bind (·.completedOn) = (rows' pk).bind (·.completedOn))
    (definition : RequirementDefinition) (row : RequirementInstance) :
    refreshPrerequisiteDeadline catalogue rows definition row =
      refreshPrerequisiteDeadline catalogue rows' definition row := by
  unfold refreshPrerequisiteDeadline
  rw [prerequisiteDeadline_congr completions]

/-- A deadline is counted from a completion, and a completed prerequisite blocks nothing. -/
theorem unmetPrerequisite_of_deadline {catalogue : Catalogue} {rows : Instances}
    {definition : RequirementDefinition}
    (deadline : (prerequisiteDeadline catalogue rows definition).isSome) :
    unmetPrerequisite catalogue rows definition = none := by
  unfold prerequisiteDeadline at deadline
  split at deadline
  · next months prerequisite _ follows =>
      cases row : rows prerequisite.pk with
      | none => simp [unmetPrerequisite, follows, row]
      | some prior =>
          cases done : prior.completedOn with
          | none => simp [row, done] at deadline
          | some completedOn => simp [unmetPrerequisite, follows, row, blocks, done]
  · cases deadline

theorem refreshPrerequisiteDeadline_some {catalogue : Catalogue} {rows : Instances}
    {definition : RequirementDefinition} {row changed : RequirementInstance}
    (refreshed : refreshPrerequisiteDeadline catalogue rows definition row = some changed) :
    ∃ deadline reason, prerequisiteDeadline catalogue rows definition = some (deadline, reason) ∧
      row.dueOn ≠ some deadline ∧ RequirementInstance.isBefore row.dueOn deadline = false ∧
      changed = { row with dueOn := some deadline, dueReason := reason } := by
  unfold refreshPrerequisiteDeadline at refreshed
  split at refreshed
  · cases refreshed
  · next deadline reason found =>
      split at refreshed
      · cases refreshed
      · next other =>
          split at refreshed
          · cases refreshed
          · next notBefore =>
              exact ⟨deadline, reason, found, other, by simpa using notBefore,
                (Option.some.inj refreshed).symm⟩

theorem activate_eq (catalogue : Catalogue) (rows : Instances) (volunteer : Volunteer)
    (definition : RequirementDefinition) (row : RequirementInstance) :
    ∃ dueOn dueReason, activate catalogue rows volunteer definition row =
      { row with
        status := .notStarted
        notApplicableReason := ""
        dueOn := dueOn
        dueReason := dueReason } := by
  unfold activate
  dsimp only
  split
  · split <;> exact ⟨_, _, rfl⟩
  · split
    · split <;> exact ⟨_, _, rfl⟩
    · exact ⟨_, _, rfl⟩

theorem holdNotApplicable_ne {row : RequirementInstance} {reason : String}
    (outstanding : row.status.isOutstanding = true) : holdNotApplicable row reason ≠ row := by
  intro same
  rw [← same] at outstanding
  cases outstanding

theorem activate_ne {catalogue : Catalogue} {rows : Instances} {volunteer : Volunteer}
    {definition : RequirementDefinition} {row : RequirementInstance}
    (parked : row.status = .notApplicable) :
    activate catalogue rows volunteer definition row ≠ row := by
  intro same
  obtain ⟨dueOn, dueReason, written⟩ := activate_eq catalogue rows volunteer definition row
  rw [same] at written
  rw [written] at parked
  cases parked

theorem refreshPrerequisiteDeadline_ne {catalogue : Catalogue} {rows : Instances}
    {definition : RequirementDefinition} {row changed : RequirementInstance}
    (refreshed : refreshPrerequisiteDeadline catalogue rows definition row = some changed) :
    changed ≠ row := by
  obtain ⟨deadline, reason, _, other, _, rfl⟩ := refreshPrerequisiteDeadline_some refreshed
  intro same
  exact other (by rw [← same])

namespace Catalogue

variable (catalogue : Catalogue)

def before (definition : RequirementDefinition) : List RequirementDefinition :=
  catalogue.active.takeWhile (·.pk != definition.pk)

def precedes (first second : RequirementDefinition) : Bool :=
  (catalogue.before second).any (·.pk == first.pk)

theorem active_split {definition : RequirementDefinition}
    (listed : definition ∈ catalogue.active) :
    ∃ rest, catalogue.active = catalogue.before definition ++ definition :: rest ∧
      definition.pk ∉ rest.map (·.pk) := by
  have unique := catalogue.active_uniquePk
  unfold before
  generalize catalogue.active = definitions at listed unique
  induction definitions with
  | nil => cases listed
  | cons head tail inductionHypothesis =>
      rw [List.map_cons, List.nodup_cons] at unique
      rcases List.mem_cons.mp listed with rfl | later
      · exact ⟨tail, by simp, unique.1⟩
      · have other : head.pk ≠ definition.pk := by
          intro same
          exact unique.1 (same ▸ List.mem_map_of_mem later)
        obtain ⟨rest, split, notLater⟩ := inductionHypothesis later unique.2
        refine ⟨rest, ?_, notLater⟩
        rw [List.takeWhile_cons_of_pos (by simpa using other), List.cons_append, ← split]

theorem before_of_split {definition : RequirementDefinition}
    {first rest : List RequirementDefinition}
    (split : catalogue.active = first ++ definition :: rest) :
    catalogue.before definition = first := by
  have unique := catalogue.active_uniquePk
  rw [split, List.map_append, List.map_cons, List.nodup_append] at unique
  have others : ∀ other ∈ first, (other.pk != definition.pk) = true := by
    intro other listed
    simpa using unique.2.2 other.pk (List.mem_map_of_mem listed) definition.pk (by simp)
  rw [before, split, List.takeWhile_append_of_pos others, List.takeWhile_cons_of_neg (by simp),
    List.append_nil]

theorem precedes_iff {first second : RequirementDefinition} :
    catalogue.precedes first second = true ↔
      first.pk ∈ (catalogue.before second).map (·.pk) := by
  simp [precedes]

end Catalogue

namespace SyncSubject

variable (subject : SyncSubject) (rows : Instances) (definition : RequirementDefinition)

/-- Why a sync parks this requirement, if it does: no role requires it, the volunteer's age
exempts them, or its prerequisite blocks. -/
def parkingReason : Option String :=
  if !subject.applies definition then some reasonNoRole
  else if subject.exempt definition then some (ageExemptReason subject.volunteer definition)
  else (unmetPrerequisite subject.catalogue rows definition).map prerequisiteReason

def reconciled (row : RequirementInstance) : RequirementInstance :=
  match subject.parkingReason rows definition with
  | some reason => if row.status.isOutstanding then holdNotApplicable row reason else row
  | none =>
      if row.status = .notApplicable then
        activate subject.catalogue rows subject.volunteer definition row
      else if definition.isGated && row.completedOn.isNone && row.status.isOutstanding then
        (refreshPrerequisiteDeadline subject.catalogue rows definition row).getD row
      else row

def createdRow : RequirementInstance :=
  match subject.parkingReason rows definition with
  | some reason => { RequirementInstance.fresh with
      status := .notApplicable
      notApplicableReason := reason }
  | none => .fresh

theorem turn_of_none (absent : subject.existing definition.pk = none) :
    subject.turn rows definition =
      if subject.applies definition then (some (subject.createdRow rows definition), ⟨1, 0, 0⟩)
      else (none, .zero) := by
  unfold turn createdRow parkingReason
  cases subject.applies definition
  · simp [absent]
  · cases subject.exempt definition
    · cases unmetPrerequisite subject.catalogue rows definition <;> simp [absent]
    · simp [absent]

theorem turn_of_some {row : RequirementInstance}
    (present : subject.existing definition.pk = some row) :
    (subject.turn rows definition).1 = some (subject.reconciled rows definition row) ∧
      ((subject.turn rows definition).2 = .zero ↔
        subject.reconciled rows definition row = row) := by
  unfold turn reconciled parkingReason reconcileExisting
  cases subject.applies definition
  · cases outstanding : row.status.isOutstanding
    · simp [present, outstanding]
    · simp [present, outstanding, SyncCounts.zero, holdNotApplicable_ne outstanding]
  · cases subject.exempt definition
    · cases unmetPrerequisite subject.catalogue rows definition with
      | some prerequisite =>
          cases outstanding : row.status.isOutstanding
          · simp [present, outstanding]
          · simp [present, outstanding, SyncCounts.zero, holdNotApplicable_ne outstanding]
      | none =>
          by_cases parked : row.status = .notApplicable
          · simp [present, parked, SyncCounts.zero, activate_ne parked]
          · cases active : definition.isGated && row.completedOn.isNone && row.status.isOutstanding
            · simp [present, parked, active]
            · cases refreshed :
                refreshPrerequisiteDeadline subject.catalogue rows definition row with
              | none => simp [present, parked, active, refreshed]
              | some changed =>
                  have moved := refreshPrerequisiteDeadline_ne refreshed
                  simp [present, parked, active, refreshed, SyncCounts.zero, moved]
    · cases outstanding : row.status.isOutstanding
      · simp [present, outstanding]
      · simp [present, outstanding, SyncCounts.zero, holdNotApplicable_ne outstanding]

theorem turn_counts_zero_iff :
    (subject.turn rows definition).2 = .zero ↔
      (subject.turn rows definition).1 = subject.existing definition.pk := by
  cases current : subject.existing definition.pk with
  | none =>
      rw [subject.turn_of_none rows definition current]
      cases subject.applies definition <;> simp [SyncCounts.zero]
  | some row =>
      obtain ⟨written, counted⟩ := subject.turn_of_some rows definition current
      rw [counted, written, Option.some.injEq]

/-- A turn on an existing row keeps everything but the status, the deadline and the parking
reason. -/
theorem reconciled_eq (row : RequirementInstance) :
    ∃ status dueOn dueReason notApplicableReason, subject.reconciled rows definition row =
      { row with
        status := status
        dueOn := dueOn
        dueReason := dueReason
        notApplicableReason := notApplicableReason } := by
  unfold reconciled
  split
  · split <;> exact ⟨_, _, _, _, rfl⟩
  · split
    · obtain ⟨dueOn, dueReason, written⟩ :=
        activate_eq subject.catalogue rows subject.volunteer definition row
      exact ⟨_, _, _, _, written⟩
    · split
      · cases refreshed : refreshPrerequisiteDeadline subject.catalogue rows definition row with
        | none => exact ⟨_, _, _, _, rfl⟩
        | some changed =>
            obtain ⟨deadline, reason, _, _, _, rfl⟩ := refreshPrerequisiteDeadline_some refreshed
            exact ⟨_, _, _, _, rfl⟩
      · exact ⟨_, _, _, _, rfl⟩

/-- A turn leaves a row alone, parks an outstanding one, switches a parked one on, or re-derives
the deadline of one that was never completed. -/
theorem reconciled_cases (row : RequirementInstance) :
    subject.reconciled rows definition row = row ∨
      (∃ reason, row.status.isOutstanding = true ∧
        subject.reconciled rows definition row = holdNotApplicable row reason) ∨
      (row.status = .notApplicable ∧ subject.parkingReason rows definition = none ∧
        subject.reconciled rows definition row =
          activate subject.catalogue rows subject.volunteer definition row) ∨
      ∃ deadline reason, row.completedOn = none ∧ row.status.isOutstanding = true ∧
        prerequisiteDeadline subject.catalogue rows definition = some (deadline, reason) ∧
        subject.reconciled rows definition row =
          { row with dueOn := some deadline, dueReason := reason } := by
  cases parking : subject.parkingReason rows definition with
  | some reason =>
      cases outstanding : row.status.isOutstanding with
      | false => exact .inl (by simp [reconciled, parking, outstanding])
      | true =>
          refine .inr (.inl ⟨reason, rfl, ?_⟩)
          simp [reconciled, parking, outstanding]
  | none =>
      by_cases parked : row.status = .notApplicable
      · refine .inr (.inr (.inl ⟨parked, rfl, ?_⟩))
        simp [reconciled, parking, parked]
      · by_cases derives :
            (definition.isGated && row.completedOn.isNone && row.status.isOutstanding) = true
        · cases refreshed :
              refreshPrerequisiteDeadline subject.catalogue rows definition row with
          | none => exact .inl (by simp [reconciled, parking, parked, refreshed])
          | some changed =>
              obtain ⟨deadline, reason, derived, _, _, rfl⟩ :=
                refreshPrerequisiteDeadline_some refreshed
              simp only [Bool.and_eq_true, Option.isNone_iff_eq_none] at derives
              refine .inr (.inr (.inr ⟨deadline, reason, derives.1.2, derives.2, derived, ?_⟩))
              simp [reconciled, parking, parked, derives, refreshed]
        · exact .inl (by simp [reconciled, parking, parked, derives])

@[simp]
theorem reconciled_completedOn (row : RequirementInstance) :
    (subject.reconciled rows definition row).completedOn = row.completedOn := by
  obtain ⟨_, _, _, _, written⟩ := subject.reconciled_eq rows definition row
  rw [written]

@[simp]
theorem reconciled_startedOn (row : RequirementInstance) :
    (subject.reconciled rows definition row).startedOn = row.startedOn := by
  obtain ⟨_, _, _, _, written⟩ := subject.reconciled_eq rows definition row
  rw [written]

theorem reconciled_of_decided {row : RequirementInstance}
    (decided : row.status = .complete ∨ row.status = .waived) :
    subject.reconciled rows definition row = row := by
  have settled : row.status.isOutstanding = false := by
    rcases decided with status | status <;> rw [status] <;> rfl
  have notParked : row.status ≠ .notApplicable := by
    rcases decided with status | status <;> rw [status] <;> decide
  unfold reconciled
  cases subject.parkingReason rows definition <;> simp [settled, notParked]

theorem reconciled_of_parked {row : RequirementInstance} {reason : String}
    (parked : subject.parkingReason rows definition = some reason)
    (outstanding : row.status.isOutstanding = true) :
    subject.reconciled rows definition row = holdNotApplicable row reason := by
  simp [reconciled, parked, outstanding]

theorem reconciled_of_parked_notApplicable {row : RequirementInstance} {reason : String}
    (parked : subject.parkingReason rows definition = some reason)
    (notApplicable : row.status = .notApplicable) :
    subject.reconciled rows definition row = row := by
  have settled : row.status.isOutstanding = false := by rw [notApplicable]; rfl
  simp [reconciled, parked, settled]

theorem reconciled_of_released_notApplicable {row : RequirementInstance}
    (released : subject.parkingReason rows definition = none)
    (notApplicable : row.status = .notApplicable) :
    subject.reconciled rows definition row =
      activate subject.catalogue rows subject.volunteer definition row := by
  simp [reconciled, released, notApplicable]

theorem reconciled_of_released_outstanding {row : RequirementInstance}
    (released : subject.parkingReason rows definition = none)
    (outstanding : row.status.isOutstanding = true) :
    subject.reconciled rows definition row =
      if definition.isGated && row.completedOn.isNone then
        (refreshPrerequisiteDeadline subject.catalogue rows definition row).getD row
      else row := by
  have notParked : row.status ≠ .notApplicable := by
    intro status
    rw [status] at outstanding
    cases outstanding
  simp [reconciled, released, notParked, outstanding]

theorem reconciled_status (row : RequirementInstance) :
    (subject.reconciled rows definition row).status =
      if row.status = .complete ∨ row.status = .waived then row.status
      else if (subject.parkingReason rows definition).isSome then .notApplicable
      else if row.status = .notApplicable then .notStarted
      else row.status := by
  by_cases decided : row.status = .complete ∨ row.status = .waived
  · rw [subject.reconciled_of_decided rows definition decided, if_pos decided]
  · rw [if_neg decided]
    by_cases parkedRow : row.status = .notApplicable
    · cases parking : subject.parkingReason rows definition with
      | some reason =>
          rw [subject.reconciled_of_parked_notApplicable rows definition parking parkedRow]
          simp [parkedRow]
      | none =>
          rw [subject.reconciled_of_released_notApplicable rows definition parking parkedRow]
          obtain ⟨_, _, written⟩ :=
            activate_eq subject.catalogue rows subject.volunteer definition row
          simp [written, parkedRow]
    · have outstanding := RequirementStatus.isOutstanding_of_undecided decided parkedRow
      cases parking : subject.parkingReason rows definition with
      | some reason =>
          rw [subject.reconciled_of_parked rows definition parking outstanding]
          rfl
      | none =>
          rw [subject.reconciled_of_released_outstanding rows definition parking outstanding]
          simp only [parkedRow, Option.isSome_none, Bool.false_eq_true, if_false]
          split
          · cases refreshed :
              refreshPrerequisiteDeadline subject.catalogue rows definition row with
            | none => rfl
            | some changed =>
                obtain ⟨_, _, _, _, _, rfl⟩ := refreshPrerequisiteDeadline_some refreshed
                rfl
          · rfl

/-- Whether a prerequisite blocks once it has had its own turn: what its row before the turn
says, whatever holds the prerequisite up in its own right. -/
def stillBlocks (prerequisite : RequirementDefinition) (row : Option RequirementInstance) :
    Bool :=
  match row with
  | none =>
      subject.applies prerequisite && (prerequisite.isGated || !subject.exempt prerequisite)
  | some prior =>
      prior.completedOn.isNone && prior.status != .waived &&
        (prerequisite.isGated || prior.status == .complete ||
          subject.applies prerequisite && !subject.exempt prerequisite)

theorem parkingReason_isSome_of_ungated (ungated : definition.isGated = false) :
    (subject.parkingReason rows definition).isSome =
      !(subject.applies definition && !subject.exempt definition) := by
  unfold parkingReason
  cases subject.applies definition <;> cases subject.exempt definition <;>
    simp [unmetPrerequisite, ungated]

theorem parkingReason_none_iff :
    subject.parkingReason rows definition = none ↔
      subject.applies definition = true ∧ subject.exempt definition = false ∧
        unmetPrerequisite subject.catalogue rows definition = none := by
  unfold parkingReason
  cases subject.applies definition <;> cases subject.exempt definition <;> simp

theorem turn_blocks :
    ((subject.turn rows definition).1).any (blocks definition) =
      subject.stillBlocks definition (subject.existing definition.pk) := by
  cases current : subject.existing definition.pk with
  | none =>
      rw [subject.turn_of_none rows definition current]
      cases applies : subject.applies definition
      · simp [stillBlocks, applies]
      · cases gated : definition.isGated
        · have ungated := subject.parkingReason_isSome_of_ungated rows definition gated
          cases parked : subject.parkingReason rows definition <;>
            simp_all [stillBlocks, createdRow, blocks_eq, RequirementInstance.fresh]
        · cases parked : subject.parkingReason rows definition <;>
            simp [stillBlocks, createdRow, blocks_eq, RequirementInstance.fresh, parked, applies,
              gated]
  | some row =>
      rw [(subject.turn_of_some rows definition current).1, Option.any_some, blocks_eq,
        reconciled_completedOn, reconciled_status]
      simp only [stillBlocks]
      cases gated : definition.isGated
      · rw [subject.parkingReason_isSome_of_ungated rows definition gated]
        cases row.completedOn.isNone <;> cases row.status <;> cases subject.applies definition <;>
          cases subject.exempt definition <;> rfl
      · cases row.completedOn.isNone <;> cases row.status <;>
          cases (subject.parkingReason rows definition).isSome <;> rfl

/-- A turn does not change whether the requirement will block what is behind it. -/
theorem stillBlocks_turn :
    subject.stillBlocks definition (subject.turn rows definition).1 =
      subject.stillBlocks definition (subject.existing definition.pk) := by
  cases current : subject.existing definition.pk with
  | none =>
      rw [subject.turn_of_none rows definition current]
      cases applies : subject.applies definition
      · rfl
      · cases gated : definition.isGated
        · have ungated := subject.parkingReason_isSome_of_ungated rows definition gated
          cases parked : subject.parkingReason rows definition <;>
            simp_all [stillBlocks, createdRow, RequirementInstance.fresh]
        · cases parked : subject.parkingReason rows definition <;>
            simp [stillBlocks, createdRow, RequirementInstance.fresh, parked, applies, gated]
  | some row =>
      rw [(subject.turn_of_some rows definition current).1]
      simp only [stillBlocks, reconciled_completedOn, reconciled_status]
      cases gated : definition.isGated
      · rw [subject.parkingReason_isSome_of_ungated rows definition gated]
        cases row.completedOn.isNone <;> cases row.status <;> cases subject.applies definition <;>
          cases subject.exempt definition <;> rfl
      · cases row.completedOn.isNone <;> cases row.status <;>
          cases (subject.parkingReason rows definition).isSome <;> rfl

def rowsAt : Instances :=
  sweep (·.pk) (fun rows definition => (subject.turn rows definition).1) subject.existing
    (subject.catalogue.before definition)

theorem loop_eq (definitions : List RequirementDefinition) (rows : Instances)
    (counts : SyncCounts) :
    let looped := definitions.foldl
      (fun (rows, counts) definition =>
        let (row, tally) := subject.turn rows definition
        (Function.update rows definition.pk row, counts.add tally)) (rows, counts)
    looped.1 = sweep (·.pk) (fun rows definition => (subject.turn rows definition).1) rows
        definitions ∧
      (looped.2 = .zero ↔ counts = .zero ∧ ∀ first definition rest,
        definitions = first ++ definition :: rest →
          (subject.turn (sweep (·.pk) (fun rows definition => (subject.turn rows definition).1)
            rows first) definition).2 = .zero) := by
  induction definitions generalizing rows counts with
  | nil => simp
  | cons head tail inductionHypothesis =>
      obtain ⟨sameRows, sameCounts⟩ := inductionHypothesis
        (Function.update rows head.pk (subject.turn rows head).1)
        (counts.add (subject.turn rows head).2)
      refine ⟨sameRows, sameCounts.trans ?_⟩
      constructor
      · rintro ⟨total, later⟩
        have parts : counts = .zero ∧ (subject.turn rows head).2 = .zero := by
          revert total
          generalize (subject.turn rows head).2 = tally
          rcases counts with ⟨_, _, _⟩
          rcases tally with ⟨_, _, _⟩
          simp only [SyncCounts.add, SyncCounts.zero, SyncCounts.mk.injEq]
          omega
        refine ⟨parts.1, ?_⟩
        intro first definition rest split
        cases first with
        | nil =>
            obtain ⟨rfl, rfl⟩ := List.cons.inj split
            exact parts.2
        | cons other first =>
            obtain ⟨rfl, splitTail⟩ := List.cons.inj split
            exact later first definition rest splitTail
      · rintro ⟨rfl, each⟩
        refine ⟨?_, ?_⟩
        · have here : (subject.turn rows head).2 = .zero := each [] head tail rfl
          rw [here]
          rfl
        · intro first definition rest split
          exact each (head :: first) definition rest (by rw [split, List.cons_append])

theorem result_of_mem (listed : definition ∈ subject.catalogue.active) :
    subject.result.1 definition.pk =
      (subject.turn (subject.rowsAt definition) definition).1 := by
  obtain ⟨rest, split, notLater⟩ := subject.catalogue.active_split listed
  have whole := (subject.loop_eq subject.catalogue.active subject.existing .zero).1
  rw [result, whole]
  conv_lhs => rw [split]
  exact sweep_at _ _ _ notLater

theorem result_of_not_mem {pk : Pk} (absent : pk ∉ subject.catalogue.active.map (·.pk)) :
    subject.result.1 pk = subject.existing pk := by
  have whole := (subject.loop_eq subject.catalogue.active subject.existing .zero).1
  rw [result, whole]
  exact sweep_of_not_mem _ _ _ absent

theorem result_cases (pk : Pk) :
    subject.result.1 pk = subject.existing pk ∨
      ∃ definition ∈ subject.catalogue.active, definition.pk = pk := by
  by_cases visited : pk ∈ subject.catalogue.active.map (·.pk)
  · exact .inr (List.mem_map.mp visited)
  · exact .inl (subject.result_of_not_mem visited)

theorem result_counts_zero_iff :
    subject.result.2 = .zero ↔ ∀ definition ∈ subject.catalogue.active,
      (subject.turn (subject.rowsAt definition) definition).2 = .zero := by
  rw [result, (subject.loop_eq subject.catalogue.active subject.existing .zero).2]
  constructor
  · rintro ⟨_, each⟩ definition listed
    obtain ⟨rest, split, _⟩ := subject.catalogue.active_split listed
    exact each _ definition rest split
  · intro each
    refine ⟨rfl, ?_⟩
    intro first definition rest split
    have here := each definition (by rw [split]; simp)
    rwa [rowsAt, subject.catalogue.before_of_split split] at here

theorem turn_completedOn :
    (subject.turn rows definition).1.bind (·.completedOn) =
      (subject.existing definition.pk).bind (·.completedOn) := by
  cases current : subject.existing definition.pk with
  | none =>
      rw [subject.turn_of_none rows definition current]
      cases subject.applies definition
      · rfl
      · unfold createdRow
        cases subject.parkingReason rows definition <;> rfl
  | some row =>
      rw [(subject.turn_of_some rows definition current).1]
      simp

theorem rowsAt_of_not_precedes {first : RequirementDefinition}
    (notBefore : subject.catalogue.precedes first definition = false) :
    subject.rowsAt definition first.pk = subject.existing first.pk := by
  refine sweep_of_not_mem _ _ _ ?_
  intro visited
  rw [← subject.catalogue.precedes_iff] at visited
  rw [visited] at notBefore
  cases notBefore

theorem rowsAt_of_precedes {first : RequirementDefinition}
    (listed : definition ∈ subject.catalogue.active)
    (earlier : subject.catalogue.precedes first definition = true) :
    subject.rowsAt definition first.pk = subject.result.1 first.pk := by
  obtain ⟨rest, split, _⟩ := subject.catalogue.active_split listed
  have whole := (subject.loop_eq subject.catalogue.active subject.existing .zero).1
  have visited := subject.catalogue.precedes_iff.mp earlier
  have unique := subject.catalogue.active_uniquePk
  rw [split, List.map_append, List.nodup_append] at unique
  have notLater : first.pk ∉ (definition :: rest).map (·.pk) := by
    intro later
    exact unique.2.2 _ visited _ later rfl
  rw [result, whole]
  conv_rhs => rw [split]
  exact (sweep_earlier _ _ _ notLater).symm

/-- What a definition's turn finds of a prerequisite in force. -/
def blocksAtTurn (definition prerequisite : RequirementDefinition) : Bool :=
  if subject.catalogue.precedes prerequisite definition then
    subject.stillBlocks prerequisite (subject.existing prerequisite.pk)
  else (subject.existing prerequisite.pk).any (blocks prerequisite)

theorem result_blocks (listed : definition ∈ subject.catalogue.active) :
    (subject.result.1 definition.pk).any (blocks definition) =
      subject.stillBlocks definition (subject.existing definition.pk) := by
  rw [subject.result_of_mem definition listed]
  exact subject.turn_blocks _ definition

theorem unmetPrerequisite_rowsAt (listed : definition ∈ subject.catalogue.active) :
    unmetPrerequisite subject.catalogue (subject.rowsAt definition) definition =
      (gatePrerequisite subject.catalogue definition).filter
        (subject.blocksAtTurn definition) := by
  rw [unmetPrerequisite_eq]
  cases gate : gatePrerequisite subject.catalogue definition with
  | none => rfl
  | some prerequisite =>
      have inForce := (gatePrerequisite_some gate).2.2
      have sameTest : (subject.rowsAt definition prerequisite.pk).any (blocks prerequisite) =
          subject.blocksAtTurn definition prerequisite := by
        unfold blocksAtTurn
        cases earlier : subject.catalogue.precedes prerequisite definition
        · rw [subject.rowsAt_of_not_precedes definition earlier]
          rfl
        · rw [subject.rowsAt_of_precedes definition listed earlier,
            subject.result_blocks prerequisite inForce]
          rfl
      simp only [Option.filter, sameTest]

theorem result_completedOn (pk : Pk) :
    (subject.result.1 pk).bind (·.completedOn) = (subject.existing pk).bind (·.completedOn) := by
  obtain same | ⟨definition, listed, rfl⟩ := subject.result_cases pk
  · rw [same]
  · rw [subject.result_of_mem definition listed]
    exact subject.turn_completedOn _ definition

theorem rowsAt_completedOn (listed : definition ∈ subject.catalogue.active) (pk : Pk) :
    (subject.rowsAt definition pk).bind (·.completedOn) =
      (subject.existing pk).bind (·.completedOn) := by
  by_cases visited : pk ∈ (subject.catalogue.before definition).map (·.pk)
  · obtain ⟨first, _, rfl⟩ := List.mem_map.mp visited
    rw [subject.rowsAt_of_precedes definition listed
      (subject.catalogue.precedes_iff.mpr visited)]
    exact subject.result_completedOn first.pk
  · rw [rowsAt, sweep_of_not_mem _ _ _ visited]

/-- Every turn derives the deadline from the rows the sync started from. -/
theorem prerequisiteDeadline_rowsAt (listed : definition ∈ subject.catalogue.active)
    (other : RequirementDefinition) :
    prerequisiteDeadline subject.catalogue (subject.rowsAt definition) other =
      prerequisiteDeadline subject.catalogue subject.existing other :=
  prerequisiteDeadline_congr (subject.rowsAt_completedOn definition listed) other

end SyncSubject

section Synced

variable {settings : Settings} {asOf : Date} {file : VolunteerFile} {row : RequirementInstance}

theorem synced_instance_of_mem {definition : RequirementDefinition}
    (listed : definition ∈ settings.catalogue.active)
    (present : (synced settings asOf file).requirementInstances definition.pk = some row) :
    let subject := syncSubject settings asOf file
    file.requirementInstances definition.pk = none ∧ subject.applies definition = true ∧
        row = subject.createdRow (subject.rowsAt definition) definition ∨
      ∃ before, file.requirementInstances definition.pk = some before ∧
        row = subject.reconciled (subject.rowsAt definition) definition before := by
  intro subject
  have written := (subject.result_of_mem definition listed).symm.trans present
  cases existing : file.requirementInstances definition.pk with
  | none =>
      rw [subject.turn_of_none _ definition existing] at written
      split at written
      · next applies => exact .inl ⟨rfl, applies, (Option.some.inj written).symm⟩
      · cases written
  | some before =>
      rw [(subject.turn_of_some _ definition existing).1] at written
      exact .inr ⟨before, rfl, (Option.some.inj written).symm⟩

theorem synced_instance {pk : Pk}
    (present : (synced settings asOf file).requirementInstances pk = some row) :
    let subject := syncSubject settings asOf file
    file.requirementInstances pk = some row ∨
      ∃ definition ∈ settings.catalogue.active, definition.pk = pk ∧
        (file.requirementInstances pk = none ∧
            row = subject.createdRow (subject.rowsAt definition) definition ∨
          ∃ before, file.requirementInstances pk = some before ∧
            row = subject.reconciled (subject.rowsAt definition) definition before) := by
  intro subject
  obtain same | ⟨definition, listed, rfl⟩ := subject.result_cases pk
  · exact .inl (same.symm.trans present)
  · refine .inr ⟨definition, listed, rfl, ?_⟩
    exact (synced_instance_of_mem listed present).imp_left fun created => ⟨created.1, created.2.2⟩

/-- What a sync switches on in the file it finds: a parked instance of a requirement in force, which
neither the roles, nor the age, nor a prerequisite parks any more. -/
structure Releases (settings : Settings) (asOf : Date) (file : VolunteerFile)
    (definition : RequirementDefinition) (row : RequirementInstance) : Prop where
  listed : definition ∈ settings.catalogue.active
  there : file.requirementInstances definition.pk = some row
  parked : row.status = .notApplicable
  free : (syncSubject settings asOf file).parkingReason
    ((syncSubject settings asOf file).rowsAt definition) definition = none

theorem Releases.synced {definition : RequirementDefinition}
    (releases : Releases settings asOf file definition row) :
    (synced settings asOf file).requirementInstances definition.pk =
      some (activate settings.catalogue ((syncSubject settings asOf file).rowsAt definition)
        file.volunteer definition row) := by
  have turned := ((syncSubject settings asOf file).turn_of_some
    ((syncSubject settings asOf file).rowsAt definition) definition releases.there).1
  rw [SyncSubject.reconciled_of_released_notApplicable _ _ _ releases.free releases.parked]
    at turned
  exact ((syncSubject settings asOf file).result_of_mem definition releases.listed).trans turned

end Synced

end VolunteerScreening.Requirements
