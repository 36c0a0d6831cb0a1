import VolunteerScreening.Assignments
import VolunteerScreening.Life
import VolunteerScreening.Results.OperativeCheck
import VolunteerScreening.Review.Entries

/-!
# No row of a file is lost

Whatever a church's administrators request and however far its sweeps come,
every row of a volunteer's file is still in its place, and the columns of a
check, a document, an assignment or an item of the queue that say what was
entered are as they were written.  Columns that are there to be written later,
a requirement's dates among them, may be overwritten.
-/

namespace VolunteerScreening

open Calendar Documents Fallible Org Requirements Review Tables

/-! ## What may become of a row -/

/-- What a check says from the day it is recorded. -/
def Requirements.CRCRecord.asRecorded (record : CRCRecord) : CRCRecord :=
  { record with notClearOutcome := none, notes := "", supersededBy := none }

def Documents.Document.asFiled (document : Document) : Document :=
  { document with supersededBy := none, isCurrent := true }

def Org.RoleAssignment.asStarted (assignment : RoleAssignment) : RoleAssignment :=
  { assignment with endedOn := none, isActive := true }

def Review.ReviewItem.asOpened (item : ReviewItem) : ReviewItem :=
  { item with
    status := .pending
    reviewedAt := none
    reviewedByUserId := none
    reviewedByDisplay := ""
    decisionReason := ""
    supersededBy := none }

/-- An outcome that is there may become another and no note is taken back; which check replaces this
one may change either way. -/
structure Requirements.CRCRecord.MayBecome (before after : CRCRecord) : Prop where
  recorded : after.asRecorded = before.asRecorded
  resolved : before.notClearOutcome.isSome = true → after.notClearOutcome.isSome = true
  noted : (Text.strip before.notes).toList <+: (Text.strip after.notes).toList

/-- A document may be replaced and stop being current, for good. -/
structure Documents.Document.MayBecome (before after : Document) : Prop where
  filed : after.asFiled = before.asFiled
  replaced : before.supersededBy.isSome = true → after.supersededBy.isSome = true
  retired : after.isCurrent = true → before.isCurrent = true

/-- An assignment may end, once. -/
structure Org.RoleAssignment.MayBecome (before after : RoleAssignment) : Prop where
  started : after.asStarted = before.asStarted
  ended : before.isActive = false → after = before

/-- An item of the queue may be decided, once. -/
structure Review.ReviewItem.MayBecome (before after : ReviewItem) : Prop where
  opened : after.asOpened = before.asOpened
  decided : before.isOpen = false → after = before

/-- What a later state still has of a file.  A requirement's row is only still there. -/
structure RecordsKept (before after : VolunteerFile) : Prop where
  checks : Retains CRCRecord.MayBecome before.crcRecords after.crcRecords
  convictions : before.convictions <+: after.convictions
  overrides : before.overrides <+: after.overrides
  documents : Retains Document.MayBecome before.documents after.documents
  assignments : Retains RoleAssignment.MayBecome before.assignments after.assignments
  reviewItems : Retains ReviewItem.MayBecome before.reviewItems after.reviewItems
  requirements : ∀ pk, (before.requirementInstances pk).isSome = true →
    (after.requirementInstances pk).isSome = true

section Rows

theorem Requirements.CRCRecord.MayBecome.refl (record : CRCRecord) : record.MayBecome record :=
  ⟨rfl, id, List.prefix_refl _⟩

theorem Requirements.CRCRecord.MayBecome.trans {first second third : CRCRecord}
    (early : first.MayBecome second) (late : second.MayBecome third) : first.MayBecome third :=
  ⟨late.recorded.trans early.recorded, late.resolved ∘ early.resolved, early.noted.trans late.noted⟩

theorem Documents.Document.MayBecome.refl (document : Document) : document.MayBecome document :=
  ⟨rfl, id, id⟩

theorem Documents.Document.MayBecome.trans {first second third : Document}
    (early : first.MayBecome second) (late : second.MayBecome third) : first.MayBecome third :=
  ⟨late.filed.trans early.filed, late.replaced ∘ early.replaced, early.retired ∘ late.retired⟩

theorem Org.RoleAssignment.MayBecome.refl (assignment : RoleAssignment) :
    assignment.MayBecome assignment := ⟨rfl, fun _ => rfl⟩

theorem Org.RoleAssignment.MayBecome.trans {first second third : RoleAssignment}
    (early : first.MayBecome second) (late : second.MayBecome third) : first.MayBecome third := by
  refine ⟨late.started.trans early.started, fun finished => ?_⟩
  have same := early.ended finished
  rw [late.ended (same ▸ finished), same]

theorem Review.ReviewItem.MayBecome.refl (item : ReviewItem) : item.MayBecome item :=
  ⟨rfl, fun _ => rfl⟩

theorem Review.ReviewItem.MayBecome.trans {first second third : ReviewItem}
    (early : first.MayBecome second) (late : second.MayBecome third) : first.MayBecome third := by
  refine ⟨late.opened.trans early.opened, fun closed => ?_⟩
  have same := early.decided closed
  rw [late.decided (same ▸ closed), same]

/-- An open item may be closed in any way that leaves what it says. -/
theorem Review.ReviewItem.mayBecome_of_isOpen {before after : ReviewItem}
    (isOpen : before.isOpen = true) (opened : after.asOpened = before.asOpened) :
    before.MayBecome after :=
  ⟨opened, fun closed => absurd (closed.symm.trans isOpen) Bool.false_ne_true⟩

theorem Org.RoleAssignment.mayBecome_endedBy (assignment : RoleAssignment) (on : Option Date) :
    assignment.MayBecome (assignment.endedBy on) := by
  unfold RoleAssignment.endedBy
  cases on with
  | none => exact .refl assignment
  | some day =>
      cases active : assignment.isActive with
      | true => exact ⟨rfl, fun finished => absurd (finished.symm.trans active) Bool.false_ne_true⟩
      | false => exact .refl assignment

theorem Requirements.CRCRecord.mayBecome_resolved (record : CRCRecord)
    (outcome : CRCNotClearOutcome) (notes : String) :
    record.MayBecome (record.resolved outcome notes) := by
  refine ⟨rfl, fun _ => rfl, ?_⟩
  unfold CRCRecord.resolved
  dsimp only
  split
  · rw [Text.strip_strip, String.append_assoc]
    exact Text.strip_prefix _ _
  · exact List.prefix_refl _

theorem Requirements.CRCRecord.mayBecome_superseded (record : CRCRecord) (link : Option Nat) :
    record.MayBecome { record with supersededBy := link } :=
  ⟨rfl, id, List.prefix_refl _⟩

theorem Documents.Document.mayBecome_supersedeWith (document : Document) (replacement : Nat) :
    document.MayBecome (document.supersedeWith replacement) :=
  ⟨rfl, fun _ => rfl, fun current => absurd current Bool.false_ne_true⟩

theorem Documents.Document.mayBecome_retired (document : Document) :
    document.MayBecome { document with isCurrent := false } :=
  ⟨rfl, id, fun current => absurd current Bool.false_ne_true⟩

end Rows

/-! ## What one write keeps -/

namespace RecordsKept

variable {file before middle after : VolunteerFile}

theorem refl (file : VolunteerFile) : RecordsKept file file where
  checks := .refl CRCRecord.MayBecome.refl _
  convictions := List.prefix_refl _
  overrides := List.prefix_refl _
  documents := .refl Document.MayBecome.refl _
  assignments := .refl RoleAssignment.MayBecome.refl _
  reviewItems := .refl ReviewItem.MayBecome.refl _
  requirements _ present := present

theorem trans (early : RecordsKept before middle) (late : RecordsKept middle after) :
    RecordsKept before after where
  checks := early.checks.trans CRCRecord.MayBecome.trans late.checks
  convictions := early.convictions.trans late.convictions
  overrides := early.overrides.trans late.overrides
  documents := early.documents.trans Document.MayBecome.trans late.documents
  assignments := early.assignments.trans RoleAssignment.MayBecome.trans late.assignments
  reviewItems := early.reviewItems.trans ReviewItem.MayBecome.trans late.reviewItems
  requirements pk present := late.requirements pk (early.requirements pk present)

theorem of_volunteer (file : VolunteerFile) (volunteer : Volunteer) :
    RecordsKept file { file with volunteer := volunteer } :=
  { refl file with }

theorem of_rows {rows : Instances}
    (present : ∀ pk, (file.requirementInstances pk).isSome = true → (rows pk).isSome = true) :
    RecordsKept file { file with requirementInstances := rows } :=
  { refl file with requirements := present }

theorem of_checks {records : List CRCRecord}
    (kept : Retains CRCRecord.MayBecome file.crcRecords records) :
    RecordsKept file { file with crcRecords := records } :=
  { refl file with checks := kept }

theorem of_documents {documents : List Document}
    (kept : Retains Document.MayBecome file.documents documents) :
    RecordsKept file { file with documents := documents } :=
  { refl file with documents := kept }

theorem of_assignments {assignments : List RoleAssignment}
    (kept : Retains RoleAssignment.MayBecome file.assignments assignments) :
    RecordsKept file { file with assignments := assignments } :=
  { refl file with assignments := kept }

theorem of_items {items : List ReviewItem}
    (kept : Retains ReviewItem.MayBecome file.reviewItems items) :
    RecordsKept file { file with reviewItems := items } :=
  { refl file with reviewItems := kept }

theorem of_synced (settings : Settings) (asOf : Date) (file : VolunteerFile) :
    RecordsKept file (synced settings asOf file) := by
  apply of_rows
  intro pk present
  let subject := syncSubject settings asOf file
  obtain same | ⟨definition, listed, rfl⟩ := subject.result_cases pk
  · exact same.symm ▸ present
  · obtain ⟨row, there⟩ := Option.isSome_iff_exists.mp present
    have turned := subject.result_of_mem definition listed
    rw [(subject.turn_of_some _ definition there).1] at turned
    show (subject.result.1 definition.pk).isSome = true
    rw [turned]
    rfl

theorem of_refreshed (settings : Settings) (today : Date) (pk : Pk) (file : VolunteerFile) :
    RecordsKept file (refreshDependents settings today pk file) := by
  unfold refreshDependents
  split
  · exact of_synced settings today file
  · exact refl file

theorem of_saved (file : VolunteerFile) (pk : Pk) (row : RequirementInstance) :
    RecordsKept file (file.saveInstance pk row) := by
  apply of_rows
  intro other present
  by_cases self : other = pk
  · rw [self, Function.update_self]
    rfl
  · rw [Function.update_of_ne self]
    exact present

theorem of_swept (settings : Settings) (asOf : Date) (file : VolunteerFile)
    (write : Core.SweepStep) : RecordsKept file (Core.sweepStep settings asOf file write) := by
  unfold Core.sweepStep
  cases write with
  | sync =>
      dsimp only
      split
      · exact of_synced settings asOf file
      · exact refl file
  | ageScan definition =>
      dsimp only
      split
      · exact refl file
      · split
        · exact of_saved file _ _
        · exact refl file
  | recompute definition =>
      dsimp only
      split
      · exact refl file
      · split
        · exact of_saved file _ _
        · exact refl file

theorem queueAfter_retains (ambient : Ambient) (entry : Entry) (file : VolunteerFile) :
    Retains ReviewItem.MayBecome file.reviewItems (queueAfter ambient entry file) := by
  unfold queueAfter insertItem
  split
  · exact .refl ReviewItem.MayBecome.refl _
  · cases found : replaced entry.entity file with
    | none =>
        dsimp only
        split
        · exact .refl ReviewItem.MayBecome.refl _
        · exact (Retains.refl ReviewItem.MayBecome.refl _).append _
    | some position =>
        obtain ⟨inQueue, onRow, _⟩ := List.findIdx?_eq_some_iff_getElem.mp found
        have closes : ∀ change : ReviewItem → ReviewItem,
            (∀ item, (change item).asOpened = item.asOpened) →
            Retains ReviewItem.MayBecome file.reviewItems
              (file.reviewItems.modify position change) := by
          intro change same
          apply retains_modify ReviewItem.MayBecome.refl
          intro item there
          rw [List.getElem?_eq_getElem inQueue, Option.some.injEq] at there
          exact ReviewItem.mayBecome_of_isOpen (there ▸ (isOpenOn_iff.mp onRow).1) (same item)
        dsimp only
        split
        · exact closes _ fun _ => rfl
        · rw [List.modify_modify_eq]
          apply Retains.append
          exact closes _ fun _ => rfl

theorem of_entered (kept : RecordsKept file after) (ambient : Ambient) (entry : Entry) :
    RecordsKept file { after with reviewItems := queueAfter ambient entry after } :=
  kept.trans (of_items (queueAfter_retains ambient entry after))

/-- An instance is written, the entry queued, and what is gated behind it re-derived. -/
theorem of_saved_entered (file : VolunteerFile) (settings : Settings) (today : Date) (pk : Pk)
    (row : RequirementInstance) (ambient : Ambient) (entry : Entry) :
    RecordsKept file (refreshDependents settings today pk
      { file.saveInstance pk row with reviewItems := queueAfter ambient entry file }) := by
  apply (of_saved file pk row).trans
  refine RecordsKept.trans (of_items ?_) (of_refreshed _ _ _ _)
  exact queueAfter_retains ambient entry file

theorem of_endAssignments (work : Work) (on : Date) :
    RecordsKept work.file (work.endAssignments on).file := by
  have kept : Retains RoleAssignment.MayBecome work.file.assignments
      (work.endAssignments on).file.assignments := by
    rw [Work.endAssignments_assignments]
    exact retains_mapIdx (fun _ assignment => assignment.mayBecome_endedBy _) _
  exact of_assignments kept

theorem of_withdrawn {ambient : Ambient} {work written : Work}
    (success : withdraw ambient work = .ok written) : RecordsKept work.file written.file := by
  obtain ⟨_, rfl⟩ := withdraw_ok success
  exact (of_volunteer work.file _).trans (of_endAssignments (work.saveVolunteer _) _)

theorem of_reinstated (previous : Option Nat) (file : VolunteerFile) :
    RecordsKept file (restorePrevious previous file) := by
  unfold restorePrevious
  split
  · apply of_checks
    apply retains_modify CRCRecord.MayBecome.refl
    exact fun record _ => record.mayBecome_superseded _
  · exact refl file

theorem of_restored (ambient : Ambient) (pk : Pk) (state : Snapshot) (file : VolunteerFile) :
    RecordsKept file (restoreFromSnapshot ambient pk state file) := by
  unfold restoreFromSnapshot
  split
  · exact refl file
  · exact (of_saved file pk _).trans (of_refreshed _ _ _ _)

theorem of_reversed {ambient : Ambient} {pk : Pk} {reason : String}
    {restoreDue : Option (Option Date × String)}
    (success : reverseWaiver ambient pk reason restoreDue file = .ok after) :
    RecordsKept file after := by
  obtain ⟨_, _, _, rfl⟩ := reverseWaiver_ok success
  exact (of_saved file pk _).trans (of_refreshed _ _ _ _)

end RecordsKept

/-! ## What each operation keeps -/

section Operations

open RecordsKept

variable {ambient : Ambient} {file after : VolunteerFile} {work written : Work}

theorem recordCrc_recordsKept {report : CheckReport}
    (success : recordCrc ambient report file = .ok work) : RecordsKept file work.file := by
  obtain ⟨_, _, written, blocked, rfl⟩ := recordCrc_ok success
  apply of_entered
  have added : RecordsKept file
      (addCheck (report.record (crcInstanceFor ambient.settings file)) file) := by
    apply of_checks
    cases previousCheck file.crcRecords with
    | none => exact (Retains.refl CRCRecord.MayBecome.refl _).append _
    | some previous =>
        apply Retains.append
        apply retains_modify CRCRecord.MayBecome.refl
        exact fun record _ => record.mayBecome_superseded _
  have outcome : RecordsKept file (checkWritten ambient report file).file := by
    apply added.trans
    dsimp only [checkWritten, Work.write, Work.start, writeOutcome]
    split
    · exact (of_saved _ _ _).trans (of_refreshed _ _ _ _)
    · exact RecordsKept.refl _
  obtain ⟨rfl, _⟩ | ⟨_, _, _, rfl⟩ := setBlockFor_ok blocked
  · exact outcome
  · exact outcome.trans (of_volunteer _ _)

theorem recordConvictions_recordsKept {check : Nat} {entries : List ConvictionEntry}
    (success : recordConvictions ambient check entries file = .ok work) :
    RecordsKept file work.file := by
  obtain ⟨created, items, _, rfl, rfl⟩ := recordConvictions_ok success
  have added : RecordsKept file { file with convictions := file.convictions ++ created } :=
    { RecordsKept.refl file with convictions := List.prefix_append _ _ }
  have kept : RecordsKept file (convictionsWritten ambient created file).file := by
    unfold convictionsWritten
    dsimp only
    split
    · apply added.trans
      apply (of_endAssignments (Work.start _) ambient.today).trans
      apply (of_volunteer _ _).trans
      apply of_rows
      intro pk present
      obtain ⟨row, there⟩ := Option.isSome_iff_exists.mp present
      rw [blockOutstanding]
      exact there.symm ▸ rfl
    · exact added
  dsimp only
  split
  · rw [← convictionsWritten_reviewItems ambient created file]
    exact kept
  · exact of_entered kept _ _

theorem recordDiscretionaryOverride_recordsKept {check : Nat} {entry : DecisionEntry}
    (success : recordDiscretionaryOverride ambient check entry file = .ok work) :
    RecordsKept file work.file := by
  obtain ⟨_, written, items, decided, rfl, rfl⟩ := recordDiscretionaryOverride_ok success
  apply of_entered
  have added : RecordsKept file { file with
      overrides := file.overrides ++ [entry.override check ambient.today] } :=
    { RecordsKept.refl file with overrides := List.prefix_append _ _ }
  obtain withdrawn | ⟨_, rfl⟩ | ⟨_, rfl⟩ := applyDecision_ok decided
  · exact added.trans (of_withdrawn withdrawn)
  · exact added.trans (of_volunteer _ _)
  · exact added

theorem resolveNotClear_recordsKept {check : Nat} {outcome : CRCNotClearOutcome} {notes : String}
    (success : resolveNotClear ambient check outcome notes file = .ok work) :
    RecordsKept file work.file := by
  obtain ⟨record, found, resolved⟩ := resolveNotClear_ok success
  have written : RecordsKept file { file with
      crcRecords := file.crcRecords.set check (record.resolved outcome notes) } :=
    of_checks (retains_set CRCRecord.MayBecome.refl found (record.mayBecome_resolved _ _))
  obtain withdrawn | rfl := resolved
  · exact written.trans (of_withdrawn withdrawn)
  · exact written

theorem storeDocument_recordsKept {entry : DocumentEntry}
    (success : storeDocument ambient entry file = .ok after) : RecordsKept file after := by
  obtain ⟨document, written, completed, recorded, rfl⟩ := storeDocument_ok success
  apply of_entered
  have added : RecordsKept file (addDocument document entry.supersedes file) := by
    apply of_documents
    cases entry.supersedes with
    | none => exact (Retains.refl Document.MayBecome.refl _).append _
    | some replaced =>
        apply Retains.append
        apply retains_modify Document.MayBecome.refl
        exact fun document _ => document.mayBecome_supersedeWith _
  obtain rfl | ⟨_, _, _, _, rfl⟩ := recorded
  · exact added
  · exact added.trans ((of_saved _ _ _).trans (of_refreshed _ _ _ _))

theorem revert_recordsKept {item : ReviewItem} {reason : String} {outcome : Outcome}
    (success : revert ambient item reason work = .ok (written, outcome)) :
    RecordsKept work.file written.file := by
  have unchanged : ∀ {why}, (Except.ok (work, why) : Except Refusal (Work × Outcome)) =
      .ok (written, outcome) → RecordsKept work.file written.file := by
    intro _ same
    cases same
    exact RecordsKept.refl _
  unfold revert at success
  split at success
  · unfold sendBackCompletion at success
    split at success
    · exact unchanged success
    · split at success
      · exact unchanged success
      · cases success
        exact of_restored _ _ _ _
  · have retired : RecordsKept work.file (retireDocument item work).1.file := by
      unfold retireDocument
      split
      · split
        · apply of_documents
          apply retains_modify Document.MayBecome.refl
          exact fun document _ => document.mayBecome_retired
        · exact RecordsKept.refl _
      · exact RecordsKept.refl _
    unfold sendBackDocument at success
    dsimp only at success
    split at success
    · cases success
      exact retired
    · cases success
      exact retired.trans (of_restored _ _ _ _)
  · unfold sendBackCrc at success
    split at success
    · exact unchanged success
    · split at success
      · exact unchanged success
      · split at success
        · exact unchanged success
        · rw [retractCheck_eq] at success
          cases success
          have rows : RecordsKept work.file (retractedRows ambient item work.file) := by
            unfold retractedRows
            cases instanceFrom item work.file with
            | none => exact of_reinstated _ _
            | some pk => exact (of_restored ambient pk _ _).trans (of_reinstated _ _)
          unfold lifted
          split
          · exact rows.trans (of_volunteer _ _)
          · exact rows
    · exact unchanged success
  · unfold sendBackWaiver at success
    split at success
    · exact unchanged success
    · split at success
      · exact unchanged success
      · obtain ⟨_, reversed, success⟩ := bind_eq_ok_iff.mp success
        cases success
        exact of_reversed reversed
  · exact unchanged success

theorem sendBack_recordsKept {user : Core.User} {position : Nat} {reason : String}
    {outcome : Outcome}
    (success : sendBack ambient user position reason file = .ok (work, outcome)) :
    RecordsKept file work.file := by
  obtain ⟨item, reverted, found, opened, _, undone, rfl⟩ := sendBack_ok success
  have same : reverted.file.reviewItems = file.reviewItems := revert_reviewItems undone
  apply (revert_recordsKept undone).trans
  apply of_items
  rw [same]
  exact retains_set ReviewItem.MayBecome.refl found (ReviewItem.mayBecome_of_isOpen opened rfl)

/-- Whatever is done to a file, every row of it stays. -/
theorem perform_recordsKept {operation : Operation}
    (success : perform ambient operation file = .ok work) : RecordsKept file work.file := by
  cases operation with
  | markRequirementComplete =>
      obtain ⟨_, written, rfl⟩ := map_eq_ok_iff.mp success
      obtain ⟨_, _, _, _, _, _, rfl⟩ := markRequirementComplete_ok written
      exact of_saved_entered file _ _ _ _ _ _
  | startRequirement =>
      obtain ⟨_, written, rfl⟩ := map_eq_ok_iff.mp success
      obtain ⟨_, _, rfl⟩ := startRequirement_ok written
      dsimp only [Work.start]
      split
      · exact of_saved file _ _
      · exact RecordsKept.refl file
  | waiveRequirement =>
      obtain ⟨_, written, rfl⟩ := map_eq_ok_iff.mp success
      obtain ⟨_, _, _, _, _, rfl⟩ := waiveRequirement_ok written
      exact of_saved_entered file _ _ _ _ _ _
  | reverseWaiver =>
      obtain ⟨_, written, rfl⟩ := map_eq_ok_iff.mp success
      exact of_reversed written
  | recordCrc => exact recordCrc_recordsKept success
  | recordConvictions => exact recordConvictions_recordsKept success
  | recordDiscretionaryOverride => exact recordDiscretionaryOverride_recordsKept success
  | resolveNotClear => exact resolveNotClear_recordsKept success
  | storeDocument =>
      obtain ⟨_, written, rfl⟩ := map_eq_ok_iff.mp success
      exact storeDocument_recordsKept written
  | affirm =>
      obtain ⟨_, written, rfl⟩ := map_eq_ok_iff.mp success
      obtain ⟨item, found, opened, _, rfl⟩ := affirm_ok written
      apply of_items
      exact retains_set ReviewItem.MayBecome.refl found (ReviewItem.mayBecome_of_isOpen opened rfl)
  | sendBack =>
      obtain ⟨⟨_, _⟩, written, rfl⟩ := map_eq_ok_iff.mp success
      exact sendBack_recordsKept written
  | assignmentCreate =>
      obtain ⟨_, _, _, rfl⟩ := assignmentCreate_ok success
      refine RecordsKept.trans (of_assignments ?_) (of_synced _ _ _)
      exact (Retains.refl RoleAssignment.MayBecome.refl _).append _
  | assignmentEnd user position endedOn =>
      obtain ⟨assignment, fetched, _, rfl⟩ := assignmentEnd_ok success
      obtain ⟨placed, active, _⟩ := fetchAssignment_eq_ok_iff.mp fetched
      have ended : assignment.MayBecome (assignment.finish (endedOn.getD ambient.today)) :=
        ⟨rfl, fun finished => absurd (finished.symm.trans active) Bool.false_ne_true⟩
      apply (of_assignments (retains_set RoleAssignment.MayBecome.refl placed ended)).trans
      apply RecordsKept.trans _ (of_synced _ _ _)
      unfold deactivateIfUnassigned
      split
      · exact of_volunteer _ _
      · exact RecordsKept.refl _
  | volunteerEdit =>
      obtain ⟨_, _, _, rfl⟩ := volunteerEdit_ok success
      exact of_volunteer file _
  | volunteerDeactivate =>
      obtain ⟨_, _, _, _, rfl, rfl⟩ := volunteerDeactivate_ok success
      split
      · exact (of_volunteer file _).trans (of_endAssignments ((Work.start file).saveVolunteer _) _)
      · exact of_volunteer file _
  | volunteerReactivate =>
      obtain ⟨_, _, rfl⟩ := volunteerReactivate_ok success
      exact of_volunteer file _
  | volunteerResync =>
      obtain ⟨_, rfl⟩ := volunteerResync_ok success
      exact of_synced _ _ _
  | syncVolunteerRequirements =>
      cases success
      exact of_synced _ _ _
  | nightlySweep asOf =>
      cases success
      dsimp only [Work.start, sweepVolunteer]
      split
      · apply (of_synced ambient.settings asOf file).trans
        apply of_rows
        intro pk present
        rw [Option.isSome_map]
        exact (activateTurning18Checks_row _ _ _ pk).1.symm ▸ present
      · exact RecordsKept.refl file

end Operations

/-- Over the whole life of a church, whatever is requested and however far its sweeps come: no row
of a volunteer's file is taken out or moved, and each has become at most what a row of its kind
may.  An assignment that has ended and an item that was decided stay as they are. -/
theorem records_kept (church : Church) (events : List ChurchEvent) :
    Machine.Throughout lifeStep
      (fun earlier later => Retains RecordsKept earlier.files later.files) church events := by
  apply life_retains RecordsKept.refl RecordsKept.trans
  intro before after change
  cases change with
  | performed success => exact perform_recordsKept success
  | linked subject => exact RecordsKept.of_volunteer before _
  | synced settings asOf => exact RecordsKept.of_synced settings asOf before
  | swept settings asOf write => exact RecordsKept.of_swept settings asOf before write

end VolunteerScreening
