import VolunteerScreening.Results.BirthDate
import VolunteerScreening.Requirements.Resyncing
import VolunteerScreening.Review.Supersession

/-!
# Retracting a check

A scoped administrator records a check, and a reviewer sends it back at once.
The earlier checks come back exactly.  The block is lifted whatever stood before
the check, and the instance gets the status its dates give it.
-/

namespace VolunteerScreening

open Calendar Fallible Org Requirements Review

/-- An instance with the dates it had, and the status it had up to recomputing on the day. -/
structure SameStanding (today : Date) (before after : RequirementInstance) : Prop where
  completedOn : after.completedOn = before.completedOn
  expiresOn : after.expiresOn = before.expiresOn
  dueOn : after.dueOn = before.dueOn
  dueReason : after.dueReason = before.dueReason
  status : (after.recompute today).status = (before.recompute today).status

/-- A file as it stood before a check: the block, the instance the check was about, and which of
the earlier checks is operative. -/
structure Restored (settings : Settings) (today : Date) (before after : VolunteerFile) :
    Prop where
  block : after.volunteer.screeningBlock = before.volunteer.screeningBlock
  row : ∀ pk row, crcInstanceFor settings before = some pk →
    before.requirementInstances pk = some row →
    ∃ restored, after.requirementInstances pk = some restored ∧ SameStanding today row restored
  operative : ∀ check < before.crcRecords.length, after.Operative check ↔ before.Operative check

def reinstatedRow (today : Date) (row : RequirementInstance) : RequirementInstance :=
  ({ row with status := row.statusAfterReversal }).recompute today

/-- Whether retracting a check with this result resyncs the check's own instance. -/
def RetractionResyncs (settings : Settings) (result : CRCResult) (pk : Pk) : Prop :=
  hasDependents settings pk = true ∨ result = .notClear

/-- Whether that resync parks the instance: its dates leave it outstanding, and it is held up. -/
def ParkedAgain (settings : Settings) (today : Date) (file : VolunteerFile) (result : CRCResult)
    (definition : RequirementDefinition) (row : RequirementInstance) : Prop :=
  RetractionResyncs settings result definition.pk ∧
    (reinstatedRow today row).status ≠ .complete ∧
    (syncSubject settings today (file.saveInstance definition.pk (reinstatedRow today row))).held
      definition = true

/-- The instances a retraction puts back.  One it parks was parked.  Any other had the status its
dates give it, and a resync has no earlier deadline for it. -/
structure RowReturns (settings : Settings) (today : Date) (file : VolunteerFile)
    (result : CRCResult) (definition : RequirementDefinition) (row : RequirementInstance) :
    Prop where
  parked : ParkedAgain settings today file result definition row →
    row.status = .notApplicable ∧ row.dueOn = none ∧ row.dueReason = ""
  standing : ¬ParkedAgain settings today file result definition row →
    (reinstatedRow today row).status = (row.recompute today).status
  deadline : ¬ParkedAgain settings today file result definition row →
    RetractionResyncs settings result definition.pk → definition.isGated = true →
    row.completedOn = none → ∀ deadline reason,
    prerequisiteDeadline settings.catalogue file.requirementInstances definition =
      some (deadline, reason) →
    row.dueOn = some deadline ∨ RequirementInstance.isBefore row.dueOn deadline = true

/-- Where a retraction is an exact undo. -/
structure Returns (settings : Settings) (today : Date) (result : CRCResult)
    (file : VolunteerFile) : Prop where
  block : file.volunteer.screeningBlock = .none ∨
    result = .cleared ∧ file.volunteer.screeningBlock ≠ .crcNotClear
  row : ∀ definition ∈ settings.catalogue.active, ∀ row,
    crcInstanceFor settings file = some definition.pk →
    file.requirementInstances definition.pk = some row →
    RowReturns settings today file result definition row

/-! ## The row a retraction puts back -/

structure SameFields (before after : RequirementInstance) : Prop where
  status : after.status = before.status
  completedOn : after.completedOn = before.completedOn
  expiresOn : after.expiresOn = before.expiresOn
  dueOn : after.dueOn = before.dueOn
  dueReason : after.dueReason = before.dueReason

theorem SameFields.recompute {before after : RequirementInstance} (same : SameFields before after)
    (today : Date) : SameFields (before.recompute today) (after.recompute today) := by
  obtain ⟨_, _, _, _, _, _, _, _, _, _, _⟩ := before
  obtain ⟨_, _, _, _, _, _, _, _, _, _, _⟩ := after
  obtain ⟨status, completedOn, expiresOn, dueOn, dueReason⟩ := same
  dsimp only at status completedOn expiresOn dueOn dueReason
  subst status completedOn expiresOn dueOn dueReason
  refine ⟨?_, by simp, by simp, by simp, by simp⟩
  unfold RequirementInstance.recompute
  dsimp only
  split <;> (try dsimp only) <;> (try split) <;> rfl

/-- Putting a row's own snapshot back gives the row with the status its dates give it, whatever
has happened to the row since, except that it is not forgotten when it was started. -/
theorem restoredRow_sameFields {state : Snapshot} {row current : RequirementInstance}
    (kept : state.requirement = some (snapshot row)) (started : current.startedOn = row.startedOn)
    (today : Date) :
    SameFields (reinstatedRow today row) ((restoredRow state current).recompute today) := by
  refine SameFields.recompute ?_ today
  refine ⟨?_, ?_, ?_, ?_, ?_⟩
  all_goals simp [restoredRow, Snapshot.completedOn, Snapshot.expiresOn, Snapshot.dueOn,
    Snapshot.dueReason, Snapshot.startedOn, kept, snapshot, started,
    RequirementInstance.statusAfterReversal]

section Row

variable {today : Date} {row back : RequirementInstance}

@[simp]
theorem reinstatedRow_completedOn :
    (reinstatedRow today row).completedOn = row.completedOn := by simp [reinstatedRow]

@[simp]
theorem reinstatedRow_dueOn : (reinstatedRow today row).dueOn = row.dueOn := by
  simp [reinstatedRow]

theorem reinstatedRow_status (today : Date) (row : RequirementInstance) :
    ((reinstatedRow today row).status = .complete → row.completedOn.isSome = true) ∧
      ((reinstatedRow today row).status ≠ .complete →
        (reinstatedRow today row).status.isOutstanding = true) ∧
      (reinstatedRow today row).recompute today = reinstatedRow today row := by
  refine ⟨?_, ?_, ?_⟩
  · unfold reinstatedRow RequirementInstance.recompute RequirementInstance.statusAfterReversal
    cases row.completedOn <;> cases row.startedOn <;> simp <;> split <;> simp
  · unfold reinstatedRow RequirementInstance.recompute RequirementInstance.statusAfterReversal
    cases row.completedOn <;> cases row.startedOn <;> simp <;> split <;>
      simp [RequirementStatus.isOutstanding, RequirementStatus.outstandingValues]
  · unfold reinstatedRow
    refine RequirementInstance.recompute_recompute _ today ?_
    unfold RequirementInstance.statusAfterReversal
    cases row.completedOn <;> simp

variable {settings : Settings} {file : VolunteerFile} {result : CRCResult}
  {definition : RequirementDefinition} {restored : RequirementInstance}

theorem sameStanding_of_kept (same : SameFields (reinstatedRow today row) back) :
    SameStanding today row back ↔
      (reinstatedRow today row).status = (row.recompute today).status := by
  have settled : (back.recompute today).status = (reinstatedRow today row).status := by
    rw [(same.recompute today).status, (reinstatedRow_status today row).2.2]
  constructor
  · intro standing
    rw [← settled]
    exact standing.status
  · intro status
    refine ⟨same.completedOn.trans (by simp), same.expiresOn.trans (by simp [reinstatedRow]),
      same.dueOn.trans (by simp), same.dueReason.trans (by simp [reinstatedRow]), ?_⟩
    rw [settled, status]

theorem sameStanding_of_parked (same : SameFields (reinstatedRow today row) back)
    (reason : String) :
    SameStanding today row (holdNotApplicable back reason) ↔
      row.status = .notApplicable ∧ row.dueOn = none ∧ row.dueReason = "" := by
  constructor
  · intro standing
    refine ⟨?_, standing.dueOn.symm, standing.dueReason.symm⟩
    rw [← RequirementInstance.recompute_notApplicable_iff, ← standing.status,
      RequirementInstance.recompute_notApplicable_iff]
    rfl
  · rintro ⟨parked, noDeadline, noReason⟩
    refine ⟨same.completedOn.trans (by simp), same.expiresOn.trans (by simp [reinstatedRow]),
      noDeadline.symm, noReason.symm, ?_⟩
    rw [(RequirementInstance.recompute_notApplicable_iff _ today).mpr parked,
      RequirementInstance.recompute_notApplicable_iff]
    rfl

theorem sameStanding_of_released (present : file.requirementInstances definition.pk = some row)
    (same : SameFields (reinstatedRow today row) back) :
    SameStanding today row ((syncSubject settings today
        (file.saveInstance definition.pk back)).redated definition back) ↔
      (reinstatedRow today row).status = (row.recompute today).status ∧
        (definition.isGated = true → row.completedOn = none → ∀ deadline reason,
          prerequisiteDeadline settings.catalogue file.requirementInstances definition =
            some (deadline, reason) →
          row.dueOn = some deadline ∨
            RequirementInstance.isBefore row.dueOn deadline = true) := by
  have sameDeadline : prerequisiteDeadline settings.catalogue
        (file.saveInstance definition.pk back).requirementInstances definition =
      prerequisiteDeadline settings.catalogue file.requirementInstances definition := by
    refine prerequisiteDeadline_congr ?_ definition
    intro pk
    by_cases self : pk = definition.pk
    · rw [self, VolunteerFile.saveInstance_self, present]
      exact same.completedOn.trans (by simp)
    · rw [VolunteerFile.saveInstance_other _ self]
  have completion : back.completedOn = row.completedOn := same.completedOn.trans (by simp)
  have due : back.dueOn = row.dueOn := same.dueOn.trans (by simp)
  have unchanged : (∀ deadline reason, definition.isGated = true → row.completedOn = none →
        prerequisiteDeadline settings.catalogue file.requirementInstances definition =
          some (deadline, reason) →
        row.dueOn = some deadline ∨ RequirementInstance.isBefore row.dueOn deadline = true) →
      (syncSubject settings today (file.saveInstance definition.pk back)).redated definition back =
        back := by
    intro early
    unfold SyncSubject.redated
    split
    · next derives =>
        obtain ⟨gated, incomplete⟩ : definition.isGated = true ∧ row.completedOn = none := by
          simpa [completion] using derives
        cases refreshed : refreshPrerequisiteDeadline _ _ definition back with
        | none => rfl
        | some changed =>
            obtain ⟨deadline, reason, derived, other, notBefore, _⟩ :=
              refreshPrerequisiteDeadline_some refreshed
            rw [due] at other notBefore
            rcases early deadline reason gated incomplete (sameDeadline.symm.trans derived) with
              there | before
            · exact absurd there other
            · rw [notBefore] at before
              cases before
    · rfl
  constructor
  · intro standing
    have early : ∀ deadline reason, definition.isGated = true → row.completedOn = none →
        prerequisiteDeadline settings.catalogue file.requirementInstances definition =
          some (deadline, reason) →
        row.dueOn = some deadline ∨
          RequirementInstance.isBefore row.dueOn deadline = true := by
      intro deadline reason gated incomplete derived
      by_contra late
      rw [not_or, Bool.not_eq_true] at late
      have derivedThere : prerequisiteDeadline
          (syncSubject settings today (file.saveInstance definition.pk back)).catalogue
          (syncSubject settings today (file.saveInstance definition.pk back)).existing
            definition = some (deadline, reason) := sameDeadline.trans derived
      have moved : ((syncSubject settings today
          (file.saveInstance definition.pk back)).redated definition back).dueOn =
            some deadline := by
        simp [SyncSubject.redated, refreshPrerequisiteDeadline, derivedThere, gated, completion,
          incomplete, due, late.1, late.2]
      exact late.1 (standing.dueOn.symm.trans moved)
    rw [unchanged early] at standing
    exact ⟨(sameStanding_of_kept same).mp standing,
      fun gated incomplete deadline reason => early deadline reason gated incomplete⟩
  · rintro ⟨status, early⟩
    rw [unchanged fun deadline reason gated incomplete => early gated incomplete deadline reason]
    exact (sameStanding_of_kept same).mpr status

/-- What the row looks like once a retraction has put it back and resynced it. -/
def Retracted (settings : Settings) (today : Date) (file : VolunteerFile) (result : CRCResult)
    (definition : RequirementDefinition) (back restored : RequirementInstance) : Prop :=
  (¬RetractionResyncs settings result definition.pk → restored = back) ∧
    (RetractionResyncs settings result definition.pk →
      (syncSubject settings today (file.saveInstance definition.pk back)).Resynced definition back
        restored)

/-- An instance put back outstanding is held up where the instance with its dates would be. -/
theorem held_reinstated (listed : definition ∈ settings.catalogue.active)
    (same : SameFields (reinstatedRow today row) back)
    (outstanding : back.status.isOutstanding = true) :
    (syncSubject settings today (file.saveInstance definition.pk back)).held definition =
      (syncSubject settings today
        (file.saveInstance definition.pk (reinstatedRow today row))).held definition := by
  have unwaived : (reinstatedRow today row).status ≠ .waived := by
    intro waived
    rw [same.status, waived] at outstanding
    cases outstanding
  have backUnwaived : back.status ≠ .waived := by
    rw [same.status]
    exact unwaived
  have rewritten := (syncSubject settings today (file.saveInstance definition.pk
    (reinstatedRow today row))).held_update definition listed
      (VolunteerFile.saveInstance_self _ _ _) same.completedOn unwaived backUnwaived
  have sameRows : Function.update (syncSubject settings today
        (file.saveInstance definition.pk (reinstatedRow today row))).existing definition.pk
          (some back) = (file.saveInstance definition.pk back).requirementInstances :=
    Function.update_idem _ _ _
  rw [sameRows] at rewritten
  exact rewritten

theorem sameStanding_iff_rowReturns (listed : definition ∈ settings.catalogue.active)
    (present : file.requirementInstances definition.pk = some row)
    (same : SameFields (reinstatedRow today row) back)
    (retracted : Retracted settings today file result definition back restored) :
    SameStanding today row restored ↔
      RowReturns settings today file result definition row := by
  obtain ⟨completes, outstanding, _⟩ := reinstatedRow_status today row
  by_cases resyncs : RetractionResyncs settings result definition.pk
  · have resynced := retracted.2 resyncs
    by_cases complete : (reinstatedRow today row).status = .complete
    · have kept : ¬ParkedAgain settings today file result definition row :=
        fun parked => parked.2.1 complete
      obtain rfl := resynced.decided (.inl (same.status.trans complete))
      rw [sameStanding_of_kept same]
      constructor
      · intro status
        refine ⟨fun parked => absurd parked kept, fun _ => status, ?_⟩
        intro _ _ _ incomplete
        have completed := completes complete
        rw [incomplete] at completed
        cases completed
      · intro returns
        exact returns.standing kept
    · have open_ : back.status.isOutstanding = true := by
        rw [same.status]
        exact outstanding complete
      have sameHeld := @held_reinstated today row back settings file definition listed same open_
      cases holds : (syncSubject settings today (file.saveInstance definition.pk
        (reinstatedRow today row))).held definition
      · have kept : ¬ParkedAgain settings today file result definition row := by
          rintro ⟨_, _, held⟩
          rw [holds] at held
          cases held
        rw [resynced.released open_ (sameHeld.trans holds), sameStanding_of_released present same]
        constructor
        · rintro ⟨status, early⟩
          exact ⟨fun parked => absurd parked kept, fun _ => status, fun _ _ => early⟩
        · intro returns
          exact ⟨returns.standing kept, returns.deadline kept resyncs⟩
      · have parked : ParkedAgain settings today file result definition row :=
          ⟨resyncs, complete, holds⟩
        obtain ⟨reason, rfl⟩ := resynced.parked open_ (sameHeld.trans holds)
        rw [sameStanding_of_parked same]
        constructor
        · intro standing
          exact ⟨fun _ => standing, fun kept => absurd parked kept, fun kept => absurd parked kept⟩
        · intro returns
          exact returns.parked parked
  · have kept : ¬ParkedAgain settings today file result definition row :=
      fun parked => resyncs parked.1
    obtain rfl := retracted.1 resyncs
    rw [sameStanding_of_kept same]
    constructor
    · intro status
      exact ⟨fun parked => absurd parked kept, fun _ => status,
        fun _ resynced => absurd resynced resyncs⟩
    · intro returns
      exact returns.standing kept

end Row

/-! ## Recording the check -/

def blockAfter (result : CRCResult) (block : ScreeningBlock) : ScreeningBlock :=
  match result with
  | .cleared => if block = .crcNotClear then .none else block
  | .notClear => .crcNotClear

theorem blockAfter_eq_crcNotClear_iff {result : CRCResult} {block : ScreeningBlock} :
    blockAfter result block = .crcNotClear ↔ result = .notClear := by
  cases result <;> cases block <;> simp [blockAfter]

abbrev resync (settings : Settings) (today : Date) (base : VolunteerFile) (rows : Instances) :
    Instances :=
  ((syncSubject settings today base).on rows).result.1

section Recording

variable {ambient : Ambient} {report : CheckReport} {file : VolunteerFile} {work : Work}

/-- The transaction of a check once the block is set: only the block of the volunteer moves. -/
theorem setBlockFor_checkWritten (derived : file.BirthDerived) {written : Work}
    (blocked : setBlockFor ambient report.result (checkWritten ambient report file) =
      .ok written) :
    ∃ recordedAt resyncs, (report.result = .notClear → resyncs ≠ 0) ∧
      written = ⟨{ addCheck (report.record (crcInstanceFor ambient.settings file)) file with
        volunteer := { file.volunteer with
          screeningBlock := blockAfter report.result file.volunteer.screeningBlock
          screeningBlockRecordedAt := recordedAt }
        requirementInstances := (checkWritten ambient report file).file.requirementInstances },
        resyncs⟩ := by
  have sameVolunteer : (checkWritten ambient report file).file.volunteer = file.volunteer := by
    rw [checkWritten_eq]
    rfl
  obtain ⟨rfl, cleared, notBlocked⟩ | ⟨block, chosen, blocking, rfl⟩ := setBlockFor_ok blocked
  · rw [sameVolunteer] at notBlocked
    refine ⟨file.volunteer.screeningBlockRecordedAt, 0, by simp [cleared], ?_⟩
    simp only [cleared, blockAfter, if_neg notBlocked]
    rw [checkWritten_eq]
    rfl
  · refine ⟨if block ≠ .none then some ambient.now else none, 1, by simp, ?_⟩
    have after : blockAfter report.result file.volunteer.screeningBlock = block := by
      rw [chosen]
      cases result : report.result with
      | cleared =>
          have blockedBefore := blocking result
          rw [sameVolunteer] at blockedBefore
          simp [blockAfter, blockedBefore]
      | notClear => rfl
    unfold Work.saveVolunteer
    rw [Volunteer.deriveBirth_of_block, sameVolunteer, derived, after]
    rw [checkWritten_eq]
    rfl

/-- Recording a check leaves the volunteer's birth date and roles alone, displaces the operative
check, and puts the entry at the end of the queue. -/
theorem recordCrc_commit (derived : file.BirthDerived)
    (recorded : recordCrc ambient report file = .ok work) :
    SameSubject file (work.commit ambient) ∧
      (work.commit ambient).volunteer.screeningBlock =
        blockAfter report.result file.volunteer.screeningBlock ∧
      (work.commit ambient).crcRecords =
        (addCheck (report.record (crcInstanceFor ambient.settings file)) file).crcRecords ∧
      (∃ written : VolunteerFile, written.reviewItems = file.reviewItems ∧
        (work.commit ambient).reviewItems =
          queueAfter ambient (checkEntry ambient.settings file) written) ∧
      ∃ resyncs, (report.result = .notClear → resyncs ≠ 0) ∧
        (work.commit ambient).requirementInstances =
          (resync ambient.settings ambient.today file)^[resyncs]
            (checkWritten ambient report file).file.requirementInstances := by
  obtain ⟨_, _, written, blocked, rfl⟩ := recordCrc_ok recorded
  obtain ⟨recordedAt, resyncs, saved, rfl⟩ := setBlockFor_checkWritten derived blocked
  rw [Work.commit_eq]
  refine ⟨⟨rfl, rfl, rfl⟩, rfl, rfl, ⟨_, rfl, rfl⟩, resyncs, saved, ?_⟩
  exact iterate_synced_rows ⟨rfl, rfl, rfl⟩ ambient.settings ambient.today resyncs

/-- What a check's outcome leaves on the rows: its own row written, and a refresh where something
is gated behind it. -/
theorem checkWritten_rows {definition : RequirementDefinition} {row : RequirementInstance}
    (counts : crcInstanceFor ambient.settings file = some definition.pk)
    (present : file.requirementInstances definition.pk = some row) :
    ∃ marked, marked.startedOn = row.startedOn ∧
      (checkWritten ambient report file).file.requirementInstances =
        (resync ambient.settings ambient.today file)^[
          if hasDependents ambient.settings definition.pk then 1 else 0]
            (Function.update file.requirementInstances definition.pk (some marked)) := by
  let marked := match report.result with
    | .cleared => clearedRow row report.reportDate
    | .notClear => notClearRow row
  refine ⟨marked, ?_, ?_⟩
  · show (match report.result with
      | .cleared => clearedRow row report.reportDate
      | .notClear => notClearRow row).startedOn = row.startedOn
    cases report.result <;> rfl
  · have written : (checkWritten ambient report file).file =
        refreshDependents ambient.settings ambient.today definition.pk
          ((addCheck (report.record (crcInstanceFor ambient.settings file)) file).saveInstance
            definition.pk marked) := by
      have presentThere : (addCheck (report.record (some definition.pk))
          file).requirementInstances definition.pk = some row := present
      unfold checkWritten writeOutcome
      simp only [counts, Work.write, Work.start, Option.bind_some, presentThere]
      rfl
    rw [written]
    exact refreshDependents_rows ⟨rfl, rfl, rfl⟩ ambient.settings ambient.today definition.pk

end Recording

/-! ## Sending it back -/

section SendingBack

variable {later : Ambient} {user : Core.User} {position : Nat} {reason : String}
  {base after : VolunteerFile} {undone : Work} {outcome : Outcome} {item : ReviewItem}

theorem lifted_eq {work : Work} {volunteer : Volunteer} (is : work.file.volunteer = volunteer)
    (derived : volunteer.deriveBirth = volunteer) :
    ∃ recordedAt, lifted work =
      ⟨{ work.file with
          volunteer := { volunteer with
            screeningBlock :=
              if volunteer.screeningBlock = .crcNotClear then .none else volunteer.screeningBlock
            screeningBlockRecordedAt := recordedAt } },
        work.resyncs + if volunteer.screeningBlock = .crcNotClear then 1 else 0⟩ := by
  subst is
  unfold lifted
  by_cases blocked : work.file.volunteer.screeningBlock = .crcNotClear
  · refine ⟨none, ?_⟩
    rw [if_pos blocked, if_pos blocked, if_pos blocked]
    unfold Work.saveVolunteer
    rw [Volunteer.deriveBirth_of_block, derived]
  · refine ⟨work.file.volunteer.screeningBlockRecordedAt, ?_⟩
    rw [if_neg blocked, if_neg blocked, if_neg blocked]
    rfl

theorem retractedRows_rows (same : SameSubject base after) {pk : Pk}
    {current : RequirementInstance} (covered : instanceFrom item after = some pk)
    (there : after.requirementInstances pk = some current) :
    (retractedRows later item after).requirementInstances =
      (resync later.settings later.today base)^[if hasDependents later.settings pk then 1 else 0]
        (Function.update after.requirementInstances pk
          (some ((restoredRow item.beforeState current).recompute later.today))) := by
  have refreshed := refreshDependents_saved same later.settings later.today pk
    ((restoredRow item.beforeState current).recompute later.today)
  rw [← restoreFromSnapshot_of_some later _ there] at refreshed
  unfold retractedRows
  rw [covered]
  cases item.beforeState.supersededById <;> exact refreshed

/-- Sending a check's own item back, when that reverts it, lifts a Not Clear block, puts the
displaced check back, and resyncs after the save that lifted the block. -/
theorem sendBack_commit (same : SameSubject base after) (derived : after.BirthDerived)
    (found : after.reviewItems[position]? = some item) (kind : item.kind = .crc)
    (sentBack : sendBack later user position reason after = .ok (undone, outcome))
    (reverted : outcome.reverted = true) :
    (undone.commit later).volunteer.screeningBlock =
        (if after.volunteer.screeningBlock = .crcNotClear then .none
        else after.volunteer.screeningBlock) ∧
      (undone.commit later).supersessions =
        after.reinstated item.beforeState.supersededById ∧
      (undone.commit later).requirementInstances =
        (resync later.settings later.today base)^[
          if after.volunteer.screeningBlock = .crcNotClear then 1 else 0]
            (retractedRows later item after).requirementInstances := by
  obtain ⟨other, work, foundOther, _, _, _, undoes, rfl⟩ := sendBack_eq_ok_iff.mp sentBack
  obtain rfl := Option.some.inj (found.symm.trans foundOther)
  obtain ⟨check, record, _, _, _, _, retracted⟩ | ⟨refused, _⟩ := revert_ok undoes
  · rw [retractCheck_eq] at retracted
    cases retracted
    obtain ⟨sameVolunteer, sameAssignments, checks⟩ := retractedRows_frame later item after
    have supersessions : (retractedRows later item after).supersessions =
        after.reinstated item.beforeState.supersededById := by
      rw [← VolunteerFile.restorePrevious_supersessions]
      exact VolunteerFile.supersessions_congr checks
    obtain ⟨recordedAt, lifts⟩ :=
      @lifted_eq ((Work.start after).write (retractedRows later item)) _ sameVolunteer derived
    rw [lifts]
    dsimp only [Work.write, Work.start]
    rw [Work.commit_eq]
    refine ⟨rfl, supersessions, ?_⟩
    rw [Nat.zero_add]
    refine iterate_synced_rows ?_ later.settings later.today _
    exact ⟨same.birthYear, same.birthMonth, sameAssignments.trans same.assignments⟩
  · rw [refused kind] at reverted
    cases reverted

end SendingBack

/-! ## A check and its retraction -/

section Retraction

variable {ambient later : Ambient} {report : CheckReport} {user : Core.User} {reason : String}
  {file : VolunteerFile} {work undone : Work} {outcome : Outcome}

theorem retracted_item (derived : file.BirthDerived)
    (recorded : recordCrc ambient report file = .ok work)
    (sentBack : sendBack later user file.reviewItems.length reason (work.commit ambient) =
      .ok (undone, outcome)) :
    ∃ item, (work.commit ambient).reviewItems[file.reviewItems.length]? = some item ∧
      item.kind = .crc ∧ item.entity = .crcRecord file.crcRecords.length ∧
      item.affectedEntity = (crcInstanceFor ambient.settings file).map .requirementInstance ∧
      item.beforeState = beforeCheck ambient.settings file := by
  obtain ⟨item, _, found, _⟩ := sendBack_eq_ok_iff.mp sentBack
  obtain ⟨_, _, _, ⟨written, sameQueue, queue⟩, _⟩ := recordCrc_commit derived recorded
  have last := found
  rw [queue, ← sameQueue] at last
  obtain ⟨_, rfl⟩ := queueAfter_last last
  exact ⟨_, found, rfl, rfl, rfl, rfl⟩

/-- What a check leaves of its own instance: a row with the start date it had, resynced at least
once where its retraction will be. -/
theorem checked_row (derived : file.BirthDerived)
    (recorded : recordCrc ambient report file = .ok work)
    {definition : RequirementDefinition} (listed : definition ∈ ambient.settings.catalogue.active)
    (counts : crcInstanceFor ambient.settings file = some definition.pk)
    {row : RequirementInstance} (present : file.requirementInstances definition.pk = some row) :
    ∃ marked current passes, current.startedOn = row.startedOn ∧
      (work.commit ambient).requirementInstances definition.pk = some current ∧
      (work.commit ambient).requirementInstances =
        (resync ambient.settings ambient.today file)^[passes]
          (Function.update file.requirementInstances definition.pk (some marked)) ∧
      (RetractionResyncs ambient.settings report.result definition.pk → passes ≠ 0) := by
  obtain ⟨_, _, _, _, resyncs, saved, rows⟩ := recordCrc_commit derived recorded
  obtain ⟨marked, started, written⟩ := checkWritten_rows counts present
  rw [written, ← Function.iterate_add_apply] at rows
  obtain ⟨current, currentPresent, currentStarted⟩ := @SyncSubject.started_iterate
    (syncSubject ambient.settings ambient.today file) definition
    (Function.update file.requirementInstances definition.pk (some marked)) listed marked
    (Function.update_self _ _ _)
    (resyncs + if hasDependents ambient.settings definition.pk then 1 else 0)
  refine ⟨marked, current, _, currentStarted.trans started, ?_, rows, ?_⟩
  · rw [rows]
    exact currentPresent
  · rintro (dependents | notClear)
    · simp [dependents]
    · have ran := saved notClear
      omega

theorem retracted_row (derived : file.BirthDerived)
    (sameSettings : later.settings = ambient.settings)
    (sameDay : later.today = ambient.today) (recorded : recordCrc ambient report file = .ok work)
    (sentBack : sendBack later user file.reviewItems.length reason (work.commit ambient) =
      .ok (undone, outcome)) (reverted : outcome.reverted = true)
    {definition : RequirementDefinition} (listed : definition ∈ ambient.settings.catalogue.active)
    (counts : crcInstanceFor ambient.settings file = some definition.pk)
    {row : RequirementInstance} (present : file.requirementInstances definition.pk = some row) :
    ∃ back restored, SameFields (reinstatedRow ambient.today row) back ∧
      (undone.commit later).requirementInstances definition.pk = some restored ∧
      Retracted ambient.settings ambient.today file report.result definition back restored := by
  obtain ⟨same, block, _⟩ := recordCrc_commit derived recorded
  obtain ⟨marked, current, passes, started, there, rows, passed⟩ :=
    checked_row derived recorded listed counts present
  obtain ⟨item, found, kind, covers, affected, state⟩ :=
    retracted_item derived recorded sentBack
  have afterDerived : (work.commit ambient).BirthDerived := by
    rw [Work.commit_eq]
    exact @perform_birthDerived ambient (.recordCrc report) file work derived recorded
  obtain ⟨_, _, finalRows⟩ := sendBack_commit same afterDerived found kind sentBack reverted
  have covered : instanceFrom item (work.commit ambient) = some definition.pk := by
    have coveredInstance : item.coveredInstance = some definition.pk := by
      unfold ReviewItem.coveredInstance
      rw [covers, affected, counts]
      rfl
    exact instanceFrom_of_covered coveredInstance (by rw [there, Option.isSome_some])
  let back := (restoredRow item.beforeState current).recompute ambient.today
  have fields : SameFields (reinstatedRow ambient.today row) back := by
    refine restoredRow_sameFields ?_ started ambient.today
    rw [state]
    simp [beforeCheck, counts, present]
  rw [retractedRows_rows same covered there, sameSettings, sameDay, block,
    ← Function.iterate_add_apply] at finalRows
  by_cases resynced : RetractionResyncs ambient.settings report.result definition.pk
  · obtain ⟨more, counted⟩ : ∃ more,
        ((if blockAfter report.result file.volunteer.screeningBlock = .crcNotClear then 1 else 0) +
          if hasDependents ambient.settings definition.pk then 1 else 0) = more + 1 := by
      refine Nat.exists_eq_add_one_of_ne_zero ?_
      rcases resynced with dependents | notClear
      · simp [dependents]
      · simp [blockAfter_eq_crcNotClear_iff.mpr notClear]
    obtain ⟨earlier, countedEarlier⟩ := Nat.exists_eq_add_one_of_ne_zero (passed resynced)
    have settled : (syncSubject ambient.settings ambient.today file).SettledApart definition
        (work.commit ambient).requirementInstances := by
      rw [rows, countedEarlier]
      exact SyncSubject.SettledApart.iterate _ _
    have follows : (syncSubject ambient.settings ambient.today file).Follows definition
        file.requirementInstances (work.commit ambient).requirementInstances := by
      rw [rows]
      exact (SyncSubject.Follows.refl.update _).iterate _
    have unparked : back.status ≠ .notApplicable := by
      rw [fields.status]
      intro parked
      have outstanding := (reinstatedRow_status ambient.today row).2.1 (by simp [parked])
      rw [parked] at outstanding
      cases outstanding
    obtain ⟨restored, restoredThere, resyncedRow⟩ := SyncSubject.resynced_iterate listed
      (follows.update (some back)) (settled.update (some back)) (Function.update_self _ _ _)
      unparked more
    rw [counted] at finalRows
    refine ⟨back, restored, fields, ?_, fun kept => absurd resynced kept, fun _ => resyncedRow⟩
    rw [finalRows]
    exact restoredThere
  · have still : ((if blockAfter report.result file.volunteer.screeningBlock = .crcNotClear
          then 1 else 0) +
        if hasDependents ambient.settings definition.pk then 1 else 0) = 0 := by
      simp only [RetractionResyncs, not_or] at resynced
      simp [blockAfter_eq_crcNotClear_iff, resynced.1, resynced.2]
    rw [still] at finalRows
    refine ⟨back, back, fields, ?_, fun _ => rfl, fun resyncs => absurd resyncs resynced⟩
    rw [finalRows]
    exact Function.update_self _ _ _

/-- A check sent back at once, and reported reverted, is undone exactly where the block had been
free or the check left it alone, and the instance is one a retraction puts back. -/
theorem retraction_iff (volunteer : Volunteer) (requests : List Request)
    (reached : Machine.run step (.opened volunteer.deriveBirth) requests = file)
    (sameSettings : later.settings = ambient.settings) (sameDay : later.today = ambient.today)
    (recorded : recordCrc ambient report file = .ok work)
    (sentBack : sendBack later user file.reviewItems.length reason (work.commit ambient) =
      .ok (undone, outcome)) (reverted : outcome.reverted = true) :
    Restored ambient.settings ambient.today file (undone.commit later) ↔
      Returns ambient.settings ambient.today report.result file := by
  have derived : file.BirthDerived := reached ▸ run_birthDerived volunteer requests
  obtain ⟨same, block, checks, _, _⟩ := recordCrc_commit derived recorded
  obtain ⟨item, found, kind, _, _, state⟩ := retracted_item derived recorded sentBack
  have afterDerived : (work.commit ambient).BirthDerived := by
    rw [Work.commit_eq]
    exact @perform_birthDerived ambient (.recordCrc report) file work derived recorded
  obtain ⟨finalBlock, finalChecks, _⟩ :=
    sendBack_commit same afterDerived found kind sentBack reverted
  have blockReturns : (undone.commit later).volunteer.screeningBlock =
        file.volunteer.screeningBlock ↔ file.volunteer.screeningBlock = .none ∨
          report.result = .cleared ∧ file.volunteer.screeningBlock ≠ .crcNotClear := by
    rw [finalBlock, block]
    cases report.result <;> cases file.volunteer.screeningBlock <;> simp [blockAfter]
  have operative : ∀ check < file.crcRecords.length,
      ((undone.commit later).Operative check ↔ file.Operative check) := by
    intro check earlier
    have displaced : (work.commit ambient).supersessions = file.displaced := by
      rw [VolunteerFile.supersessions_congr checks]
      exact VolunteerFile.addCheck_supersessions rfl file
    unfold VolunteerFile.Operative
    rw [finalChecks, state]
    have earlierLink : check < file.supersessions.length := by
      simpa [VolunteerFile.supersessions] using earlier
    exact Eq.congr_left (VolunteerFile.displaced_reinstated displaced earlierLink)
  constructor
  · intro restored
    refine ⟨blockReturns.mp restored.block, ?_⟩
    intro definition listed row counts present
    obtain ⟨back, after, fields, there, retracted⟩ := retracted_row derived sameSettings sameDay
      recorded sentBack reverted listed counts present
    obtain ⟨other, thereToo, standing⟩ := restored.row definition.pk row counts present
    obtain rfl := Option.some.inj (there.symm.trans thereToo)
    exact (sameStanding_iff_rowReturns listed present fields retracted).mp standing
  · intro returns
    refine ⟨blockReturns.mpr returns.block, ?_, operative⟩
    intro pk row counts present
    obtain ⟨definition, listed, rfl, _, _⟩ := crcInstanceFor_some counts
    obtain ⟨back, restored, fields, there, retracted⟩ := retracted_row derived sameSettings sameDay
      recorded sentBack reverted listed counts present
    refine ⟨restored, there, (sameStanding_iff_rowReturns listed present fields retracted).mpr ?_⟩
    exact returns.row definition listed row counts present

end Retraction

def recording : Ambient :=
  Sample.byDepartmentAdmin Sample.recordCheckOnly (Sample.march 1)

def retracting : Ambient :=
  Sample.byPrimaryAdmin Sample.recordCheckOnly (Sample.march 1)

def notClearReport : CheckReport :=
  ⟨.notClear, Sample.february 0, true, false, "", ""⟩

def servingRun : List Request :=
  [⟨retracting, .assignmentCreate Sample.primaryAdmin 1 (Sample.march 0)⟩]

def servingFile : VolunteerFile := Machine.run step (.opened Sample.adult.deriveBirth) servingRun

theorem retraction_of_first_check :
    ∃ work undone outcome, recordCrc recording notClearReport servingFile = .ok work ∧
      sendBack retracting Sample.primaryAdmin 0 "Wrong volunteer" (work.commit recording) =
        .ok (undone, outcome) ∧
      Restored recording.settings recording.today servingFile (undone.commit retracting) := by
  refine ⟨_, _, _, rfl, rfl, ?_⟩
  refine (@retraction_iff recording retracting notClearReport Sample.primaryAdmin "Wrong volunteer"
    servingFile _ _ _ Sample.adult servingRun rfl rfl rfl rfl rfl rfl).mpr ?_
  refine ⟨.inl rfl, ?_⟩
  intro definition listed row _ present
  obtain rfl : definition = Sample.recordCheck := List.mem_singleton.mp listed
  obtain rfl : RequirementInstance.fresh = row := Option.some.inj present
  refine ⟨?_, fun _ => rfl, ?_⟩
  · rintro ⟨_, _, held⟩
    cases held
  · intro _ _ gated
    cases gated

/-- An earlier check had already blocked the volunteer. -/
def blockedFile : VolunteerFile :=
  Machine.run step servingFile [⟨retracting, .recordCrc notClearReport⟩]

/-- Retracting the second check lifts the block that the first one set. -/
theorem retraction_lifts_earlier_block :
    ∃ work undone outcome, recordCrc recording notClearReport blockedFile = .ok work ∧
      sendBack retracting Sample.primaryAdmin 0 "Wrong volunteer" (work.commit recording) =
        .ok (undone, outcome) ∧ outcome.reverted = true ∧
      blockedFile.volunteer.screeningBlock = .crcNotClear ∧
      (undone.commit retracting).volunteer.screeningBlock = .none ∧
      ¬Restored recording.settings recording.today blockedFile (undone.commit retracting) := by
  refine ⟨_, _, _, rfl, rfl, rfl, rfl, rfl, ?_⟩
  intro restored
  cases restored.block

end VolunteerScreening
