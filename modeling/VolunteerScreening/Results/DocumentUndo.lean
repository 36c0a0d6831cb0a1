import VolunteerScreening.Operations
import VolunteerScreening.Requirements.Resyncing

/-!
# Sending back a document

A document that completes a requirement leaves one entry in the queue, and that
entry's snapshot says only that the document was current.  Sending it back
therefore clears the requirement rather than putting it back.
-/

namespace VolunteerScreening.Documents

open Calendar Fallible Org Requirements Review

/-- The instance after the undo reads as it did before the upload, and has the status that
recomputing on the day gave it then. -/
structure Undone (today : Date) (before after : RequirementInstance) : Prop where
  completedOn : after.completedOn = before.completedOn
  expiresOn : after.expiresOn = before.expiresOn
  startedOn : after.startedOn = before.startedOn
  dueOn : after.dueOn = before.dueOn
  dueReason : after.dueReason = before.dueReason
  status : after.status = (before.recompute today).status

def clearedOut (row : RequirementInstance) : RequirementInstance :=
  { row with
    status := if row.startedOn.isSome then .inProgress else .notStarted
    completedOn := none
    expiresOn := none
    dueOn := none
    dueReason := "" }

def derivedDue (settings : Settings) (rows : Instances) (definition : RequirementDefinition) :
    Option Date × String :=
  match (if definition.isGated then
      prerequisiteDeadline settings.catalogue rows definition else none) with
  | some (deadline, reason) => (some deadline, reason)
  | none => (none, "")

/-- The instances an upload can be undone on: never completed, on time, with no deadline but the
one the undo's own resync derives, and not held up when that resync runs. -/
structure Undoable (settings : Settings) (today : Date) (file : VolunteerFile)
    (definition : RequirementDefinition) (before : RequirementInstance) : Prop where
  incomplete : before.completedOn = none
  unexpired : before.expiresOn = none
  status : before.status = if before.startedOn.isSome then .inProgress else .notStarted
  onTime : RequirementInstance.isBefore before.dueOn today = false
  due : (before.dueOn, before.dueReason) =
    if refreshesItself settings definition then
      derivedDue settings file.requirementInstances definition
    else (none, "")
  released : refreshesItself settings definition = true →
    (syncSubject settings today file).held definition = false

theorem clearedOut_isOutstanding (row : RequirementInstance) :
    (clearedOut row).status.isOutstanding = true := by
  unfold clearedOut
  cases row.startedOn <;> rfl

theorem restoredRow_document {state : Snapshot} (bare : state.requirement = none)
    (today : Date) (row : RequirementInstance) :
    (restoredRow state row).recompute today = clearedOut row := by
  have started : state.startedOn.or row.startedOn = row.startedOn := by
    simp [Snapshot.startedOn, bare]
  unfold restoredRow clearedOut
  simp only [Snapshot.completedOn, Snapshot.expiresOn, Snapshot.dueOn, Snapshot.dueReason, bare,
    started, RequirementInstance.statusAfterReversal]
  cases row.startedOn <;> rfl

theorem clearedOut_markComplete (row : RequirementInstance) (definition : RequirementDefinition)
    (completedOn : Date) : clearedOut (row.markComplete definition completedOn "") =
      clearedOut row := by
  simp [clearedOut, RequirementInstance.markComplete]

/-- Recomputing a row that was never completed gives the status its start does exactly when it
has that status and its deadline has not passed. -/
theorem recompute_status_iff {row : RequirementInstance} (today : Date)
    (incomplete : row.completedOn = none) (unexpired : row.expiresOn = none) :
    (clearedOut row).status = (row.recompute today).status ↔
      row.status = (clearedOut row).status ∧
        RequirementInstance.isBefore row.dueOn today = false := by
  obtain ⟨status, startedOn, completedOn, expiresOn, dueOn, _, _, _, _, _, _⟩ := row
  obtain rfl : completedOn = none := incomplete
  obtain rfl : expiresOn = none := unexpired
  cases status <;> cases startedOn <;> cases past : RequirementInstance.isBefore dueOn today <;>
    simp [clearedOut, RequirementInstance.recompute, past]

theorem redated_clearedOut (settings : Settings) (today : Date) (file : VolunteerFile)
    (definition : RequirementDefinition) (row : RequirementInstance) :
    (syncSubject settings today file).redated definition (clearedOut row) =
      { clearedOut row with
        dueOn := (derivedDue settings file.requirementInstances definition).1
        dueReason := (derivedDue settings file.requirementInstances definition).2 } := by
  have incomplete : (clearedOut row).completedOn = none := rfl
  have undated : (clearedOut row).dueOn = none := rfl
  unfold SyncSubject.redated derivedDue refreshPrerequisiteDeadline
  rw [incomplete, undated]
  cases definition.isGated
  · rfl
  · cases derived : prerequisiteDeadline settings.catalogue file.requirementInstances definition <;>
      simp [syncSubject, derived] <;> rfl

section Undo

variable {settings : Settings} {today : Date} {file second : VolunteerFile}
  {definition : RequirementDefinition} {before marked : RequirementInstance}

theorem refreshed_row (listed : definition ∈ settings.catalogue.definitions)
    (sameVolunteer : second.volunteer = file.volunteer)
    (sameAssignments : second.assignments = file.assignments)
    (sameRows : second.requirementInstances =
      (refreshDependents settings today definition.pk
        (file.saveInstance definition.pk marked)).requirementInstances)
    (row : RequirementInstance) :
    ∃ after, (refreshDependents settings today definition.pk
        (second.saveInstance definition.pk row)).requirementInstances definition.pk =
          some after ∧
      if refreshesItself settings definition then
        (syncSubject settings today (file.saveInstance definition.pk row)).Resynced definition
          row after
      else after = row := by
  refine ⟨_, refreshDependents_row listed (VolunteerFile.saveInstance_self _ _ _), ?_⟩
  cases refreshes : refreshesItself settings definition
  · rfl
  · obtain ⟨dependents, active⟩ : hasDependents settings definition.pk = true ∧
        definition.isActive = true := by simpa [refreshesItself] using refreshes
    have inForce : definition ∈ settings.catalogue.active :=
      settings.catalogue.mem_active.mpr ⟨listed, active⟩
    let subject := syncSubject settings today file
    let rows := (subject.on (Function.update file.requirementInstances definition.pk
      (some marked))).result.1
    have follows : subject.Follows definition file.requirementInstances
        (Function.update rows definition.pk (some row)) :=
      ((SyncSubject.Follows.refl.update (some marked)).synced).update (some row)
    have settled : subject.SettledApart definition
        (Function.update rows definition.pk (some row)) :=
      (SyncSubject.SettledApart.synced _).update (some row)
    have resynced := SyncSubject.resynced_of_settled inForce follows settled
      (Function.update_self _ _ _)
    have again : syncSubject settings today (second.saveInstance definition.pk row) =
        subject.on (Function.update rows definition.pk (some row)) := by
      have left : second.requirementInstances = rows := by
        rw [sameRows]
        unfold refreshDependents
        rw [if_pos dependents]
        rfl
      simp only [syncSubject, VolunteerFile.saveInstance, VolunteerFile.activeRoles,
        sameVolunteer, sameAssignments, left]
      rfl
    rw [again]
    exact resynced

theorem refreshed_dates {row after : RequirementInstance}
    (outstanding : row.status.isOutstanding = true) {subject : SyncSubject}
    (resynced : subject.Resynced definition row after) :
    after.completedOn = row.completedOn ∧ after.expiresOn = row.expiresOn ∧
      after.startedOn = row.startedOn := by
  cases holds : subject.held definition
  · obtain ⟨dueOn, dueReason, redated⟩ := subject.redated_eq definition row
    rw [resynced.released outstanding holds, redated]
    exact ⟨rfl, rfl, rfl⟩
  · obtain ⟨reason, rfl⟩ := resynced.parked outstanding holds
    exact ⟨rfl, rfl, rfl⟩

theorem undone_iff_of_kept (refreshes : refreshesItself settings definition = false)
    (incomplete : before.completedOn = none) (unexpired : before.expiresOn = none) :
    Undone today before (clearedOut before) ↔
      Undoable settings today file definition before := by
  have status := recompute_status_iff today incomplete unexpired
  constructor
  · intro undone
    obtain ⟨same, onTime⟩ := status.mp undone.status
    refine ⟨incomplete, unexpired, same, onTime, ?_, by simp [refreshes]⟩
    rw [refreshes, ← undone.dueOn, ← undone.dueReason]
    rfl
  · intro undoable
    have due := undoable.due
    simp only [refreshes, Bool.false_eq_true, if_false, Prod.mk.injEq] at due
    exact ⟨incomplete.symm, unexpired.symm, rfl, due.1.symm, due.2.symm,
      status.mpr ⟨undoable.status, undoable.onTime⟩⟩

theorem undone_iff_of_refreshed (refreshes : refreshesItself settings definition = true)
    (listed : definition ∈ settings.catalogue.definitions)
    (present : file.requirementInstances definition.pk = some before)
    (unwaived : before.status ≠ .waived) (applicable : before.status ≠ .notApplicable)
    (incomplete : before.completedOn = none) (unexpired : before.expiresOn = none)
    {after : RequirementInstance}
    (resynced : (syncSubject settings today
      (file.saveInstance definition.pk (clearedOut before))).Resynced definition
        (clearedOut before) after) :
    Undone today before after ↔ Undoable settings today file definition before := by
  have inForce : definition ∈ settings.catalogue.active := by
    refine settings.catalogue.mem_active.mpr ⟨listed, ?_⟩
    simp only [refreshesItself, Bool.and_eq_true] at refreshes
    exact refreshes.2
  have outstanding := clearedOut_isOutstanding before
  have clearedUnwaived : (clearedOut before).status ≠ .waived := by
    unfold clearedOut
    cases before.startedOn <;> simp
  have sameHeld : (syncSubject settings today
        (file.saveInstance definition.pk (clearedOut before))).held definition =
      (syncSubject settings today file).held definition :=
    (syncSubject settings today file).held_update definition inForce present incomplete.symm
      unwaived clearedUnwaived
  have status := recompute_status_iff today incomplete unexpired
  cases holds : (syncSubject settings today file).held definition
  · rw [resynced.released outstanding (sameHeld.trans holds), redated_clearedOut]
    have sameDue : derivedDue settings
          (file.saveInstance definition.pk (clearedOut before)).requirementInstances definition =
        derivedDue settings file.requirementInstances definition := by
      have completions : ∀ pk, ((file.saveInstance definition.pk
            (clearedOut before)).requirementInstances pk).bind (·.completedOn) =
          (file.requirementInstances pk).bind (·.completedOn) := by
        intro pk
        by_cases self : pk = definition.pk
        · rw [self, VolunteerFile.saveInstance_self, present]
          exact incomplete.symm
        · rw [VolunteerFile.saveInstance_other _ self]
      unfold derivedDue
      rw [prerequisiteDeadline_congr completions]
    rw [sameDue]
    constructor
    · intro undone
      obtain ⟨same, onTime⟩ := status.mp undone.status
      refine ⟨incomplete, unexpired, same, onTime, ?_, fun _ => holds⟩
      rw [if_pos refreshes, ← undone.dueOn, ← undone.dueReason]
    · intro undoable
      have due := undoable.due
      rw [if_pos refreshes] at due
      exact ⟨incomplete.symm, unexpired.symm, rfl, by rw [← due], by rw [← due],
        status.mpr ⟨undoable.status, undoable.onTime⟩⟩
  · obtain ⟨reason, rfl⟩ := resynced.parked outstanding (sameHeld.trans holds)
    constructor
    · intro undone
      exact absurd ((before.recompute_notApplicable_iff today).mp undone.status.symm) applicable
    · intro undoable
      rw [undoable.released refreshes] at holds
      cases holds

/-- A cleared-out row, once refreshed, reads as before exactly where the upload can be undone. -/
theorem undone_iff_undoable (listed : definition ∈ settings.catalogue.definitions)
    (present : file.requirementInstances definition.pk = some before)
    (unwaived : before.status ≠ .waived) (applicable : before.status ≠ .notApplicable)
    {after : RequirementInstance}
    (refreshed : if refreshesItself settings definition then
        (syncSubject settings today (file.saveInstance definition.pk (clearedOut before))).Resynced
          definition (clearedOut before) after
      else after = clearedOut before) :
    Undone today before after ↔ Undoable settings today file definition before := by
  have exactly : before.completedOn = none → before.expiresOn = none →
      (Undone today before after ↔ Undoable settings today file definition before) := by
    intro incomplete unexpired
    cases refreshes : refreshesItself settings definition
    · rw [refreshes] at refreshed
      obtain rfl : after = clearedOut before := refreshed
      exact undone_iff_of_kept refreshes incomplete unexpired
    · rw [refreshes] at refreshed
      exact undone_iff_of_refreshed refreshes listed present unwaived applicable incomplete
        unexpired refreshed
  have dates : after.completedOn = none ∧ after.expiresOn = none := by
    cases refreshes : refreshesItself settings definition
    · rw [refreshes] at refreshed
      obtain rfl : after = clearedOut before := refreshed
      exact ⟨rfl, rfl⟩
    · rw [refreshes] at refreshed
      obtain ⟨completedOn, expiresOn, _⟩ :=
        refreshed_dates (clearedOut_isOutstanding before) refreshed
      exact ⟨completedOn, expiresOn⟩
  constructor
  · intro undone
    exact (exactly (undone.completedOn.symm.trans dates.1)
      (undone.expiresOn.symm.trans dates.2)).mp undone
  · intro undoable
    exact (exactly undoable.incomplete undoable.unexpired).mpr undoable

end Undo

theorem sentBack_row {ambient later : Ambient} {entry : DocumentEntry} {user : Core.User}
    {reason : String} {file uploaded : VolunteerFile} {work : Work} {outcome : Outcome}
    {definition : RequirementDefinition} {before : RequirementInstance}
    (sameSettings : later.settings = ambient.settings) (sameDay : later.today = ambient.today)
    (listed : definition ∈ ambient.settings.catalogue.definitions)
    (present : file.requirementInstances definition.pk = some before)
    (completes : entry.completes ambient file = some definition.pk)
    (stored : storeDocument ambient entry file = .ok uploaded)
    (sentBack : sendBack later user file.reviewItems.length reason uploaded =
      .ok (work, outcome)) :
    before.status ≠ .waived ∧ before.status ≠ .notApplicable ∧
      ∃ after, (work.commit later).requirementInstances definition.pk = some after ∧
        if refreshesItself ambient.settings definition then
          (syncSubject ambient.settings ambient.today
            (file.saveInstance definition.pk (clearedOut before))).Resynced definition
              (clearedOut before) after
        else after = clearedOut before := by
  obtain ⟨document, other, row, completedOn, written, found, alsoPresent, unwaived, applicable, _,
    writtenIs, uploadedIs⟩ := storeDocument_of_completes stored completes
  obtain rfl := Option.some.inj (present.symm.trans alsoPresent)
  obtain rfl := Option.some.inj
    ((ambient.settings.catalogue.get_of_mem listed).symm.trans found)
  refine ⟨unwaived, applicable, ?_⟩
  have frame := writtenIs.trans (refreshDependents_eq _ _ _ _)
  have sameQueue : written.reviewItems = file.reviewItems := by
    rw [frame]
    rfl
  have marked : written.requirementInstances definition.pk =
      some (before.markComplete definition completedOn "") := by
    rw [writtenIs, refreshDependents_row listed (VolunteerFile.saveInstance_self _ _ _),
      SyncSubject.reconciled_of_decided _ _ _ (.inl rfl), ite_self]
  have markedThere : uploaded.requirementInstances definition.pk =
      some (before.markComplete definition completedOn "") := by
    rw [uploadedIs]
    exact marked
  obtain ⟨item, _, listedItem, _⟩ := sendBack_eq_ok_iff.mp sentBack
  have last := listedItem
  rw [uploadedIs, ← sameQueue] at last
  obtain ⟨_, rfl⟩ := queueAfter_last last
  have covered : instanceFrom (newItem ambient (documentEntry document true (some definition.pk)
      file) written) uploaded = some definition.pk := by
    show (some definition.pk).filter _ = some definition.pk
    simp [Option.filter, markedThere]
  obtain ⟨retired, sameVolunteer, sameAssignments, sameRows, rows⟩ :=
    sendBack_document sentBack listedItem rfl covered
  rw [rows, restoreFromSnapshot_of_some later _ ((congrFun sameRows _).trans markedThere),
    sameSettings, sameDay, restoredRow_document rfl, clearedOut_markComplete]
  have firstRows : retired.requirementInstances =
      (refreshDependents ambient.settings ambient.today definition.pk
        ((addDocument document entry.supersedes file).saveInstance definition.pk
          (before.markComplete definition completedOn ""))).requirementInstances := by
    rw [sameRows, uploadedIs, writtenIs]
  refine refreshed_row listed ?_ ?_ firstRows (clearedOut before)
  · rw [sameVolunteer, uploadedIs, frame]
    rfl
  · rw [sameAssignments, uploadedIs, frame]
    rfl

/-- Sending a completing document back is an exact undo exactly where the upload can be
undone. -/
theorem document_undo_iff {ambient later : Ambient} {entry : DocumentEntry} {user : Core.User}
    {reason : String} {file uploaded : VolunteerFile} {work : Work} {outcome : Outcome}
    {definition : RequirementDefinition} {before : RequirementInstance}
    (sameSettings : later.settings = ambient.settings) (sameDay : later.today = ambient.today)
    (listed : definition ∈ ambient.settings.catalogue.definitions)
    (present : file.requirementInstances definition.pk = some before)
    (completes : entry.completes ambient file = some definition.pk)
    (stored : storeDocument ambient entry file = .ok uploaded)
    (sentBack : sendBack later user file.reviewItems.length reason uploaded =
      .ok (work, outcome)) :
    (∃ after, (work.commit later).requirementInstances definition.pk = some after ∧
        Undone ambient.today before after) ↔
      Undoable ambient.settings ambient.today file definition before := by
  obtain ⟨unwaived, applicable, after, left, refreshed⟩ :=
    sentBack_row sameSettings sameDay listed present completes stored sentBack
  have exactly := undone_iff_undoable listed present unwaived applicable refreshed
  constructor
  · rintro ⟨other, leftOther, undone⟩
    obtain rfl := Option.some.inj (left.symm.trans leftOther)
    exact exactly.mp undone
  · intro undoable
    exact ⟨after, left, exactly.mpr undoable⟩

def certificate : DocumentEntry :=
  ⟨"Certificate", .other, none, "", "Filing cabinet", some (Sample.february 9), "",
    some 1, none, "Department Admin", none⟩

def newcomer : VolunteerFile :=
  Machine.run step (.opened Sample.adult)
    [⟨Sample.byPrimaryAdmin Sample.orientationOnly (Sample.march 0),
      .assignmentCreate Sample.primaryAdmin 1 (Sample.march 0)⟩]

def uploading : Ambient :=
  Sample.byDepartmentAdmin Sample.orientationOnly (Sample.march 1)

def reviewing : Ambient :=
  Sample.byPrimaryAdmin Sample.orientationOnly (Sample.march 1)

theorem document_undo_newcomer :
    ∃ uploaded work outcome, storeDocument uploading certificate newcomer = .ok uploaded ∧
      sendBack reviewing Sample.primaryAdmin 0 "Illegible" uploaded = .ok (work, outcome) ∧
      ∃ after, (work.commit reviewing).requirementInstances 1 = some after ∧
        Undone uploading.today .fresh after := by
  refine ⟨_, _, _, rfl, rfl, ?_⟩
  refine (@document_undo_iff uploading reviewing certificate Sample.primaryAdmin "Illegible"
    newcomer _ _ _ Sample.orientation .fresh rfl rfl List.mem_cons_self rfl rfl rfl rfl).mpr ?_
  exact ⟨rfl, rfl, rfl, rfl, rfl, by decide⟩

/-- A newcomer completes the orientation, and a scoped administrator then files the certificate,
which is sent back. -/
def erasingRun : List Request :=
  [⟨reviewing, .markRequirementComplete 1 (Sample.february 9) ""⟩,
    ⟨uploading, .storeDocument certificate⟩,
    ⟨reviewing, .sendBack Sample.primaryAdmin 0 "Illegible"⟩]

/-- The completion that stood before the upload is gone. -/
theorem document_undo_erases :
    ∃ before after,
      (Machine.run step newcomer (erasingRun.take 1)).requirementInstances 1 = some before ∧
      (Machine.run step newcomer erasingRun).requirementInstances 1 = some after ∧
      before.completedOn = some (Sample.day ⟨2, by decide⟩ 9) ∧ after.completedOn = none ∧
      ¬Undone uploading.today before after := by
  refine ⟨_, _, rfl, rfl, rfl, rfl, ?_⟩
  intro undone
  cases undone.completedOn

end VolunteerScreening.Documents
