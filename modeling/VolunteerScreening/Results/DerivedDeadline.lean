import VolunteerScreening.Requirements.Deadlines
import VolunteerScreening.Results.SyncIdempotence
import VolunteerScreening.Transactions.Writes

/-!
# Deadlines counted from a prerequisite

A gated requirement's deadline is kept on its instance and derived again at each
sync, unless an earlier one stands there.  It follows its prerequisite exactly as
long as nothing makes the derived date later than the one the instance carries.
-/

namespace VolunteerScreening

open Calendar Org Requirements Review

namespace Requirements

open RequirementInstance

theorem isBefore_self (date : Date) : isBefore (some date) date = false :=
  decide_eq_false (lt_irrefl date)

section Turns

variable {definition : RequirementDefinition} {row : RequirementInstance} {deadline : Date}
  {reason : String}

theorem activate_notBefore {catalogue : Catalogue} {rows : Instances} (volunteer : Volunteer)
    (uncheck : definition.isCrc = false)
    (derived : prerequisiteDeadline catalogue rows definition = some (deadline, reason))
    (notBefore : isBefore row.dueOn deadline = false) :
    isBefore (activate catalogue rows volunteer definition row).dueOn deadline = false := by
  obtain ⟨_, crc, _⟩ | ⟨_, other, _, derived', activated⟩ | activated :=
    activate_cases catalogue rows volunteer definition row
  · cases crc.symm.trans uncheck
  · cases derived.symm.trans derived'
    rw [activated]
    exact isBefore_self deadline
  · rw [activated]
    exact notBefore

theorem SyncSubject.reconciled_notBefore (subject : SyncSubject) {rows : Instances}
    (uncheck : definition.isCrc = false)
    (derived : prerequisiteDeadline subject.catalogue rows definition = some (deadline, reason))
    (notBefore : isBefore row.dueOn deadline = false)
    (outstanding : (subject.reconciled rows definition row).status.isOutstanding = true) :
    isBefore (subject.reconciled rows definition row).dueOn deadline = false := by
  obtain same | ⟨_, _, held⟩ | ⟨_, _, switched⟩ | ⟨other, _, _, _, derived', redated⟩ :=
    subject.reconciled_cases rows definition row
  · rw [same]
    exact notBefore
  · rw [held] at outstanding
    cases outstanding
  · rw [switched]
    exact activate_notBefore subject.volunteer uncheck derived notBefore
  · cases derived.symm.trans derived'
    rw [redated]
    exact isBefore_self deadline

variable {settings : Settings} {asOf : Date} {file : VolunteerFile}

theorem prerequisiteDeadline_synced (definition : RequirementDefinition) :
    prerequisiteDeadline settings.catalogue (synced settings asOf file).requirementInstances
        definition =
      prerequisiteDeadline settings.catalogue file.requirementInstances definition :=
  prerequisiteDeadline_congr (syncSubject settings asOf file).result_completedOn definition

theorem synced_notBefore (listed : definition ∈ settings.catalogue.active)
    (uncheck : definition.isCrc = false)
    (derived : prerequisiteDeadline settings.catalogue file.requirementInstances definition =
      some (deadline, reason))
    (notBefore : ∀ row, file.requirementInstances definition.pk = some row →
      isBefore row.dueOn deadline = false)
    (present : (synced settings asOf file).requirementInstances definition.pk = some row)
    (outstanding : row.status.isOutstanding = true) : isBefore row.dueOn deadline = false := by
  obtain ⟨_, _, rfl⟩ | ⟨before, there, rfl⟩ := synced_instance_of_mem listed present
  · unfold SyncSubject.createdRow
    split <;> rfl
  · have derivedAt := ((syncSubject settings asOf file).prerequisiteDeadline_rowsAt definition
      listed definition).trans derived
    exact (syncSubject settings asOf file).reconciled_notBefore uncheck derivedAt
      (notBefore before there) outstanding

theorem dueOn_of_settled (listed : definition ∈ settings.catalogue.active)
    (gated : definition.isGated = true)
    (settled : (synced settings asOf file).requirementInstances = file.requirementInstances)
    (present : file.requirementInstances definition.pk = some row)
    (outstanding : row.status.isOutstanding = true) (incomplete : row.completedOn = none)
    (derived : prerequisiteDeadline settings.catalogue file.requirementInstances definition =
      some (deadline, reason))
    (notBefore : isBefore row.dueOn deadline = false) : row.dueOn = some deadline := by
  have derivedAt := ((syncSubject settings asOf file).prerequisiteDeadline_rowsAt definition listed
    definition).trans derived
  have turned := ((syncSubject settings asOf file).result_of_mem definition listed).trans
    ((syncSubject settings asOf file).turn_of_some
      ((syncSubject settings asOf file).rowsAt definition) definition present).1
  have same : (syncSubject settings asOf file).reconciled
      ((syncSubject settings asOf file).rowsAt definition) definition row = row :=
    Option.some.inj (turned.symm.trans ((congrFun settled definition.pk).trans present))
  cases parking : (syncSubject settings asOf file).parkingReason
      ((syncSubject settings asOf file).rowsAt definition) definition with
  | some reason =>
      rw [SyncSubject.reconciled_of_parked _ _ _ parking outstanding] at same
      exact absurd same (holdNotApplicable_ne outstanding)
  | none =>
      rw [SyncSubject.reconciled_of_released_outstanding _ _ _ parking outstanding, gated,
        incomplete] at same
      unfold refreshPrerequisiteDeadline at same
      by_contra other
      simp only [derivedAt, other, notBefore] at same
      exact other (congrArg (·.dueOn) same).symm

end Turns

end Requirements

/-! ## Every transaction -/

/-- A file, and the settings of the latest transaction. -/
structure RuledFile where
  file : VolunteerFile
  settings : Settings

namespace RuledFile

open RequirementInstance

def opened (volunteer : Volunteer) (settings : Settings) : RuledFile :=
  ⟨.opened volunteer.deriveBirth, settings⟩

def step (ruled : RuledFile) (move : Move) : RuledFile := ⟨move.after ruled.file, move.settings⟩

/-- Where a sync changes nothing, every outstanding instance of a gated requirement, but for the
record check, that was never completed is due so many months after its prerequisite's
completion. -/
def DeadlinesFollow (ruled : RuledFile) : Prop :=
  ∀ asOf, (synced ruled.settings asOf ruled.file).requirementInstances =
      ruled.file.requirementInstances →
    ∀ definition ∈ ruled.settings.catalogue.active, definition.isGated = true →
    definition.isCrc = false → ∀ row, ruled.file.requirementInstances definition.pk = some row →
    row.status.isOutstanding = true → row.completedOn = none →
    ∀ prerequisite prior completedOn months,
    definition.mustFollow.bind ruled.settings.catalogue.get = some prerequisite →
    ruled.file.requirementInstances prerequisite.pk = some prior →
    prior.completedOn = some completedOn →
    nonzeroMonths definition.prerequisiteOffsetMonths = some months →
    row.dueOn = some (completedOn.addMonths months)

def derived (ruled : RuledFile) (definition : RequirementDefinition) : Option Date :=
  if definition.isGated && !definition.isCrc then
    (prerequisiteDeadline ruled.settings.catalogue ruled.file.requirementInstances
      definition).map (·.1)
  else none

def NoneEarlier (ruled : RuledFile) : Prop :=
  ∀ definition ∈ ruled.settings.catalogue.active, ∀ row deadline,
    ruled.file.requirementInstances definition.pk = some row → row.status.isOutstanding = true →
    row.completedOn = none → ruled.derived definition = some deadline →
    isBefore row.dueOn deadline = false

end RuledFile

/-- The deadlines a transaction finds for an instance: its own, and the one that an entry kept
whose undoing writes it. -/
inductive Finds (file : VolunteerFile) (pk : Pk) (move : Move) : Option Date → Prop where
  | own {before : RequirementInstance} (there : file.requirementInstances pk = some before) :
      Finds file pk move before.dueOn
  | kept {ambient : Ambient} {user : Core.User} {position : Nat} {reason : String}
      {work : Work} {item : ReviewItem} {before : RequirementInstance}
      (sends : move = .transact ⟨ambient, .sendBack user position reason⟩)
      (success : perform ambient (.sendBack user position reason) file = .ok work)
      (found : file.reviewItems[position]? = some item) (covers : item.coveredInstance = some pk)
      (there : file.requirementInstances pk = some before) (rewrites : item.rewrites before) :
      Finds file pk move item.beforeState.dueOn

namespace RuledFile

open RequirementInstance

/-- A transaction derives, for no instance that it leaves outstanding and never completed, a
deadline later than one it finds. -/
def DerivesNoLater (ruled : RuledFile) (move : Move) : Prop :=
  ∀ definition ∈ move.settings.catalogue.active, ∀ row deadline,
    (ruled.step move).file.requirementInstances definition.pk = some row →
    row.status.isOutstanding = true → row.completedOn = none →
    (ruled.step move).derived definition = some deadline →
    ∀ dueOn, Finds ruled.file definition.pk move dueOn → isBefore dueOn deadline = false

theorem derived_some {ruled : RuledFile} {definition : RequirementDefinition} {deadline : Date}
    (derived : ruled.derived definition = some deadline) :
    definition.isGated = true ∧ definition.isCrc = false ∧ ∃ reason,
      prerequisiteDeadline ruled.settings.catalogue ruled.file.requirementInstances definition =
        some (deadline, reason) := by
  unfold RuledFile.derived at derived
  split at derived
  · next gated =>
      rw [Bool.and_eq_true, Bool.not_eq_true'] at gated
      obtain ⟨⟨date, reason⟩, found, same⟩ := Option.map_eq_some_iff.mp derived
      obtain rfl : date = deadline := same
      exact ⟨gated.1, gated.2, reason, found⟩
  · cases derived

theorem NoneEarlier.deadlinesFollow {ruled : RuledFile} (noneEarlier : ruled.NoneEarlier) :
    ruled.DeadlinesFollow := by
  intro asOf settled definition listed gated uncheck row present outstanding incomplete
    prerequisite prior completedOn months follows there completed offset
  obtain ⟨reason, derived⟩ : ∃ reason,
      prerequisiteDeadline ruled.settings.catalogue ruled.file.requirementInstances definition =
        some (completedOn.addMonths months, reason) := by
    unfold prerequisiteDeadline
    simp [offset, follows, there, completed]
  refine dueOn_of_settled listed gated settled present outstanding incomplete derived ?_
  refine noneEarlier definition listed row _ present outstanding incomplete ?_
  simp [RuledFile.derived, gated, uncheck, derived]

end RuledFile

section Steps

open RequirementInstance

variable {file : VolunteerFile} {pk : Pk} {row : RequirementInstance} {deadline : Date}

theorem Written.notBefore {request : Request} {work : Work}
    (success : perform request.ambient request.operation file = .ok work)
    (notBefore : ∀ dueOn, Finds file pk (.transact request) dueOn →
      isBefore dueOn deadline = false)
    (written : Written request.ambient request.operation file pk row) :
    isBefore row.dueOn deadline = false := by
  have own : ∀ before, file.requirementInstances pk = some before →
      isBefore before.dueOn deadline = false := fun before there => notBefore _ (.own there)
  cases written with
  | kept there => exact own row there
  | completed => rfl
  | cleared => rfl
  | @notClear before there => exact own before there
  | @blocked before there outstanding => exact own before there
  | @started before there startable => exact own before there
  | waived => rfl
  | @reversed before there waived =>
      rw [recompute_dueOn]
      exact own before there
  | @sentBack user position reason item _ sends found covers undone =>
      have sends' : Move.transact request =
          .transact ⟨request.ambient, .sendBack user position reason⟩ := by rw [← sends]
      rw [sends] at success
      cases undone with
      | snapshot there rewrites =>
          rw [recompute_dueOn]
          exact notBefore _ (.kept sends' success found covers there rewrites)
      | @waiver before _ there kind waived gives =>
          rw [recompute_dueOn]
          obtain rfl | rfl := gives
          · exact own before there
          · have rewrites : item.rewrites before := by simp [ReviewItem.rewrites, kind, waived]
            exact notBefore _ (.kept sends' success found covers there rewrites)

theorem RuledFile.noneEarlier_step {ruled : RuledFile} {move : Move}
    (noLater : ruled.DerivesNoLater move) : (ruled.step move).NoneEarlier := by
  intro definition listed row deadline present outstanding incomplete derived
  have notBefore := noLater definition listed row deadline present outstanding incomplete derived
  have own : ∀ before, ruled.file.requirementInstances definition.pk = some before →
      isBefore before.dueOn deadline = false := fun before there => notBefore _ (.own there)
  obtain ⟨gated, uncheck, reason, derived⟩ := derived_some derived
  cases move with
  | transact request =>
      obtain same | ⟨work, single, success, left⟩ := Move.transact_cases request ruled.file
      · rw [step, same] at present
        exact own row present
      · obtain ⟨between, writes⟩ := perform_writes single success
        have saved : ∀ before, between.requirementInstances definition.pk = some before →
            isBefore before.dueOn deadline = false := fun before there =>
          (writes.written definition.pk before there).notBefore success notBefore
        rw [step, left] at present derived
        obtain same | same := writes.synced
        · rw [same] at present
          exact saved row present
        · rw [same] at present derived
          have before := (prerequisiteDeadline_synced definition).symm.trans derived
          exact synced_notBefore listed uncheck before saved present outstanding
  | sync settings asOf =>
      have before := (prerequisiteDeadline_synced definition).symm.trans derived
      exact synced_notBefore listed uncheck before own present outstanding
  | sweep settings asOf write planned =>
      have before := (prerequisiteDeadline_congr
        (Core.sweepStep_completedOn ruled.file write) definition).symm.trans derived
      obtain there | ⟨_, _, swept⟩ | ⟨other, earlier, samePk, there, _, parked, _, rfl, rfl⟩ |
          ⟨earlier, there, rfl⟩ := Core.sweepStep_row present
      · exact own row there
      · exact synced_notBefore listed uncheck before own swept outstanding
      · have inForce : other ∈ settings.catalogue.active := by
          simpa [Core.fileSteps] using planned
        obtain rfl := settings.catalogue.eq_of_pk_eq (settings.catalogue.mem_active.mp inForce).1
          (settings.catalogue.mem_active.mp listed).1 samePk
        exact activate_notBefore ruled.file.volunteer uncheck before (own earlier there)
      · rw [recompute_dueOn]
        exact own earlier there

end Steps

/-- In a run whose transactions derive no deadline later than one they find, the deadlines of
gated requirements follow their prerequisites in every settled file. -/
theorem deadlines_follow_prerequisites (volunteer : Volunteer) (settings : Settings)
    {moves : List Move}
    (noLater : Machine.Guarded RuledFile.step RuledFile.DerivesNoLater
      (.opened volunteer settings) moves) :
    Machine.Always RuledFile.step RuledFile.DeadlinesFollow (.opened volunteer settings) moves := by
  have opened : (RuledFile.opened volunteer settings).NoneEarlier := by
    intro definition listed row deadline present
    cases present
  exact (Machine.always_of_guarded RuledFile.step RuledFile.DerivesNoLater RuledFile.NoneEarlier
    (fun _ _ _ noLater => RuledFile.noneEarlier_step noLater) opened noLater).imp
    fun _ noneEarlier => noneEarlier.deadlinesFollow

/-! ## A refresher a year after the orientation -/

namespace Sample

def recorded (operation : Operation) : Move :=
  .transact ⟨byPrimaryAdmin orientationAndRefresher (january 20), operation⟩

def reoriented (completedOn corrected : Date) : List Move :=
  [recorded (.assignmentCreate primaryAdmin 1 (january 5)),
    .sync (settings orientationAndRefresher) (january 20),
    recorded (.markRequirementComplete 1 completedOn ""),
    recorded (.markRequirementComplete 1 corrected "")]

def untrained : RuledFile := .opened adult (settings orientationAndRefresher)

end Sample

theorem settled_of_all {settings : Settings} {asOf : Date} {file : VolunteerFile}
    (unchanged : settings.catalogue.active.all (fun definition =>
      (synced settings asOf file).requirementInstances definition.pk ==
        file.requirementInstances definition.pk) = true) :
    (synced settings asOf file).requirementInstances = file.requirementInstances := by
  funext pk
  obtain same | ⟨definition, listed, rfl⟩ := (syncSubject settings asOf file).result_cases pk
  · exact same
  · exact eq_of_beq (List.all_eq_true.mp unchanged definition listed)

theorem refresher_keeps_old_deadline :
    let ruled := Machine.run RuledFile.step Sample.untrained
      (Sample.reoriented (Sample.january 6) (Sample.january 9))
    (ruled.file.requirementInstances 1).map (·.completedOn) = some (some (Sample.january 9)) ∧
      (ruled.file.requirementInstances 2).map
        (fun row => (row.status, row.completedOn, row.dueOn)) =
          some (.notStarted, none, some ((Sample.january 6).addMonths 12)) ∧
      ¬Machine.Always RuledFile.step RuledFile.DeadlinesFollow Sample.untrained
        (Sample.reoriented (Sample.january 6) (Sample.january 9)) := by
  intro ruled
  have corrected : (ruled.file.requirementInstances 1).map (·.completedOn) =
      some (some (Sample.january 9)) := by decide +kernel
  have kept : (ruled.file.requirementInstances 2).map
      (fun row => (row.status, row.completedOn, row.dueOn)) =
        some (.notStarted, none, some ((Sample.january 6).addMonths 12)) := by decide +kernel
  refine ⟨corrected, kept, ?_⟩
  intro always
  obtain ⟨prior, priorThere, completed⟩ := Option.map_eq_some_iff.mp corrected
  obtain ⟨row, there, reads⟩ := Option.map_eq_some_iff.mp kept
  simp only [Prod.mk.injEq] at reads
  obtain ⟨notStarted, incomplete, due⟩ := reads
  have follows := always.run (Sample.january 20) (settled_of_all (by decide +kernel)) _
    (List.mem_cons_of_mem _ List.mem_cons_self) rfl rfl row there (by rw [notStarted]; rfl)
    incomplete _ prior (Sample.january 9) 12 rfl priorThere completed rfl
  have moved : (Sample.january 6).addMonths 12 ≠ (Sample.january 9).addMonths 12 := by decide
  exact moved (Option.some.inj (due.symm.trans follows))

namespace Sample

open RequirementInstance

theorem derivesNoLater_of_all {ruled : RuledFile} {move : Move}
    (empty : ruled.file.reviewItems.isEmpty = true)
    (later : move.settings.catalogue.active.all (fun definition =>
      ((ruled.step move).derived definition).all fun deadline =>
        (ruled.file.requirementInstances definition.pk).all fun before =>
          !isBefore before.dueOn deadline) = true) :
    ruled.DerivesNoLater move := by
  intro definition listed row deadline _ _ _ derived dueOn finds
  have here := List.all_eq_true.mp later definition listed
  rw [derived, Option.all_some] at here
  cases finds with
  | own there =>
      rw [there, Option.all_some] at here
      exact Bool.not_eq_true' _ ▸ here
  | kept _ _ found =>
      rw [List.isEmpty_iff.mp empty] at found
      cases found

end Sample

/-- Corrected to an earlier date, the orientation moves the deadline. -/
theorem refresher_follows_earlier_orientation :
    Machine.Always RuledFile.step RuledFile.DeadlinesFollow Sample.untrained
      (Sample.reoriented (Sample.january 9) (Sample.january 6)) := by
  refine deadlines_follow_prerequisites Sample.adult
    (Sample.settings orientationAndRefresher) ⟨?_, ?_, ?_, ?_, trivial⟩
  · exact Sample.derivesNoLater_of_all (by decide +kernel) (by decide +kernel)
  · exact Sample.derivesNoLater_of_all (by decide +kernel) (by decide +kernel)
  · exact Sample.derivesNoLater_of_all (by decide +kernel) (by decide +kernel)
  · exact Sample.derivesNoLater_of_all (by decide +kernel) (by decide +kernel)

end VolunteerScreening
