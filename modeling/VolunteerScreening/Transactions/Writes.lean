import VolunteerScreening.Transactions

/-!
# What a transaction writes on an instance

A transaction's own saves complete, start, waive, reopen or block an instance, or
put back what an entry kept; a sync parks it, switches it on or dates it again.
What every one of these keeps holds of every instance a transaction leaves.
-/

namespace VolunteerScreening

open Calendar Documents Fallible Org Requirements Review

/-- Whether undoing an item writes this instance that it covers: a completion that still stands, a
waiver that does, a document or a check. -/
def Review.ReviewItem.rewrites (item : ReviewItem) (row : RequirementInstance) : Prop :=
  item.kind ≠ .override ∧ (item.kind = .requirementCompletion → row.status = .complete) ∧
    (item.kind = .waiver → row.status = .waived)

/-- What undoing an item writes on the instance it covers. -/
inductive Undone (ambient : Ambient) (item : ReviewItem) (file : VolunteerFile) (pk : Pk) :
    RequirementInstance → Prop where
  | snapshot {before : RequirementInstance} (there : file.requirementInstances pk = some before)
      (rewrites : item.rewrites before) :
      Undone ambient item file pk ((restoredRow item.beforeState before).recompute ambient.today)
  | waiver {before : RequirementInstance} {restoreDue : Option (Option Date × String)}
      (there : file.requirementInstances pk = some before) (kind : item.kind = .waiver)
      (waived : before.status = .waived)
      (gives : restoreDue = none ∨
        restoreDue = some (item.beforeState.dueOn, item.beforeState.dueReason)) :
      Undone ambient item file pk ((unwaivedRow before restoreDue).recompute ambient.today)

inductive Written (ambient : Ambient) (operation : Operation) (file : VolunteerFile) (pk : Pk) :
    RequirementInstance → Prop where
  | kept {row : RequirementInstance} (there : file.requirementInstances pk = some row) :
      Written ambient operation file pk row
  | completed {before : RequirementInstance} (there : file.requirementInstances pk = some before)
      (definition : RequirementDefinition) (completedOn : Date) (notes : String) :
      Written ambient operation file pk (before.markComplete definition completedOn notes)
  | cleared {before : RequirementInstance} (there : file.requirementInstances pk = some before)
      (reportDate : Date) : Written ambient operation file pk (clearedRow before reportDate)
  | notClear {before : RequirementInstance} (there : file.requirementInstances pk = some before) :
      Written ambient operation file pk (notClearRow before)
  | blocked {before : RequirementInstance} (there : file.requirementInstances pk = some before)
      (outstanding : before.status.isOutstanding = true) :
      Written ambient operation file pk { before with status := .blocked }
  | started {before : RequirementInstance} (there : file.requirementInstances pk = some before)
      (startable : before.status = .notStarted ∨ before.status = .overdue) :
      Written ambient operation file pk { before with
        startedOn := some ambient.today
        status := if before.status = .notStarted then .inProgress else before.status }
  | waived {before : RequirementInstance} (there : file.requirementInstances pk = some before)
      (reason waivedBy : String) :
      Written ambient operation file pk (waivedRow before reason waivedBy ambient.today)
  | reversed {before : RequirementInstance} (there : file.requirementInstances pk = some before)
      (waived : before.status = .waived) :
      Written ambient operation file pk ((unwaivedRow before none).recompute ambient.today)
  | sentBack {user : Core.User} {position : Nat} {reason : String} {item : ReviewItem}
      {row : RequirementInstance} (sends : operation = .sendBack user position reason)
      (found : file.reviewItems[position]? = some item) (covers : item.coveredInstance = some pk)
      (undone : Undone ambient item file pk row) : Written ambient operation file pk row

/-- An instance as a transaction's own saves leave it: never newly parked, and with no deadline
but its own or the one that an item about it kept. -/
inductive Saved (file : VolunteerFile) (pk : Pk) (row : RequirementInstance) : Prop where
  | kept (there : file.requirementInstances pk = some row)
  | undated (unparked : row.status ≠ .notApplicable) (undated : row.dueOn = none)
  | rewritten {before : RequirementInstance} (there : file.requirementInstances pk = some before)
      (unparked : row.status ≠ .notApplicable) (sameDate : row.dueOn = before.dueOn)
      (sameReason : row.dueReason = before.dueReason)
  | restored {item : ReviewItem} (listed : item ∈ file.reviewItems)
      (covers : item.coveredInstance = some pk) (unparked : row.status ≠ .notApplicable)
      (sameDate : row.dueOn = item.beforeState.dueOn)
      (sameReason : row.dueReason = item.beforeState.dueReason)

/-- Whether an operation, where it goes through, is about something else than this instance, and
about no record check. -/
def Operation.spares (file : VolunteerFile) (pk : Pk) : Operation → Prop
  | .markRequirementComplete definition _ _ => definition ≠ pk
  | .startRequirement definition => definition ≠ pk
  | .waiveRequirement definition _ _ => definition ≠ pk
  | .reverseWaiver definition _ => definition ≠ pk
  | .recordCrc _ => False
  | .recordConvictions _ _ => False
  | .recordDiscretionaryOverride _ _ => False
  | .resolveNotClear _ _ _ => False
  | .storeDocument entry => entry.requirementInstance ≠ some pk
  | .sendBack _ position _ => ∀ item, file.reviewItems[position]? = some item →
      item.kind ≠ .crc ∧ item.coveredInstance ≠ some pk
  | _ => True

def Operation.date (ambient : Ambient) : Operation → Date
  | .syncVolunteerRequirements asOf => asOf
  | .nightlySweep asOf => asOf
  | _ => ambient.today

/-- A transaction's own saves lead to a file between, and a sync of that at most to the end. -/
structure Writes (ambient : Ambient) (operation : Operation)
    (file after between : VolunteerFile) : Prop where
  written : ∀ pk row, between.requirementInstances pk = some row →
    Written ambient operation file pk row
  spared : ∀ pk, operation.spares file pk →
    between.requirementInstances pk = file.requirementInstances pk ∧
      between.volunteer = after.volunteer
  synced : after.requirementInstances = between.requirementInstances ∨
    after.requirementInstances =
      (synced ambient.settings (operation.date ambient) between).requirementInstances

section Transactions

variable {ambient : Ambient} {operation : Operation} {file after : VolunteerFile} {work : Work}

theorem writes_kept (rows : after.requirementInstances = file.requirementInstances) :
    ∃ between, Writes ambient operation file after between := by
  refine ⟨after, ?_, fun pk _ => ⟨by rw [rows], rfl⟩, .inl rfl⟩
  intro pk row present
  rw [rows] at present
  exact .kept present

/-- The volunteer or the assignments are saved, and the file is synced. -/
theorem writes_synced {between : VolunteerFile}
    (rows : between.requirementInstances = file.requirementInstances)
    (date : operation.date ambient = ambient.today)
    (written : after = synced ambient.settings ambient.today between) :
    ∃ between, Writes ambient operation file after between := by
  refine ⟨between, ?_, fun pk _ => ⟨by rw [rows], by rw [written]; rfl⟩,
    .inr (by rw [written, date])⟩
  intro pk row present
  rw [rows] at present
  exact .kept present

def Refreshed (ambient : Ambient) (written after : VolunteerFile) : Prop :=
  after.requirementInstances = written.requirementInstances ∨
    after.requirementInstances =
      (synced ambient.settings ambient.today written).requirementInstances

theorem Refreshed.of_rows {written : VolunteerFile} {refreshed : VolunteerFile}
    (same : after.requirementInstances = refreshed.requirementInstances)
    (follows : Refreshed ambient written refreshed) : Refreshed ambient written after := by
  unfold Refreshed at *
  rwa [same]

theorem refreshed_refreshDependents (ambient : Ambient) (pk : Pk) (written : VolunteerFile) :
    Refreshed ambient written
      (refreshDependents ambient.settings ambient.today pk written) := by
  unfold refreshDependents
  split
  · exact .inr rfl
  · exact .inl rfl

/-- One instance is saved, and at most a sync follows. -/
theorem writes_save {pk : Pk} {row : RequirementInstance} (base : VolunteerFile)
    (written : Written ambient operation file pk row)
    (rows : base.requirementInstances = file.requirementInstances)
    (targets : ∀ other, operation.spares file other →
      other ≠ pk ∧ base.volunteer = after.volunteer)
    (date : operation.date ambient = ambient.today)
    (refreshed : Refreshed ambient (base.saveInstance pk row) after) :
    ∃ between, Writes ambient operation file after between := by
  refine ⟨base.saveInstance pk row, ?_, ?_, by rw [date]; exact refreshed⟩
  · intro other found present
    by_cases self : other = pk
    · rw [self, VolunteerFile.saveInstance_self] at present
      rw [self, ← Option.some.inj present]
      exact written
    · rw [VolunteerFile.saveInstance_other _ self, rows] at present
      exact .kept present
  · intro other spares
    obtain ⟨apart, same⟩ := targets other spares
    exact ⟨by rw [VolunteerFile.saveInstance_other _ apart, rows], same⟩

theorem status_ne_of_reversal (row : RequirementInstance) :
    row.statusAfterReversal ≠ .notApplicable := by
  unfold RequirementInstance.statusAfterReversal
  split
  · simp
  · split <;> simp

theorem recompute_ne {row : RequirementInstance} (unparked : row.status ≠ .notApplicable)
    (asOf : Date) : (row.recompute asOf).status ≠ .notApplicable := fun parked =>
  unparked ((row.recompute_notApplicable_iff asOf).mp parked)

theorem coveredInstance_of_instanceFrom {item : ReviewItem} {pk : Pk}
    (found : instanceFrom item file = some pk) : item.coveredInstance = some pk :=
  (Option.filter_eq_some_iff.mp found).1

def Undoes (ambient : Ambient) (item : ReviewItem) (before after : VolunteerFile) : Prop :=
  after.requirementInstances = before.requirementInstances ∨
    ∃ pk row base, item.coveredInstance = some pk ∧ Undone ambient item before pk row ∧
      VolunteerFile.requirementInstances base = before.requirementInstances ∧
      base.volunteer = before.volunteer ∧ Refreshed ambient (base.saveInstance pk row) after

theorem Undoes.of_rows {item : ReviewItem} {undone : VolunteerFile}
    (same : after.requirementInstances = undone.requirementInstances)
    (undoes : Undoes ambient item file undone) : Undoes ambient item file after := by
  unfold Undoes Refreshed at *
  rwa [same]

theorem undoes_restore {item : ReviewItem} {pk : Pk} {base : VolunteerFile}
    (found : instanceFrom item file = some pk)
    (rows : base.requirementInstances = file.requirementInstances)
    (sameVolunteer : base.volunteer = file.volunteer)
    (rewrites : ∀ row, file.requirementInstances pk = some row → item.rewrites row)
    (written : after.requirementInstances =
      (restoreFromSnapshot ambient pk item.beforeState base).requirementInstances) :
    Undoes ambient item file after := by
  obtain ⟨covers, present⟩ := Option.filter_eq_some_iff.mp found
  obtain ⟨row, there⟩ := Option.isSome_iff_exists.mp present
  rw [restoreFromSnapshot_of_some ambient _ (by rw [rows]; exact there)] at written
  exact Undoes.of_rows written (.inr ⟨pk, _, base, covers, .snapshot there (rewrites row there),
    rows, sameVolunteer, refreshed_refreshDependents _ _ _⟩)

theorem sendBackWaiver_undoes {item : ReviewItem} {reason : String} {work after : Work}
    {outcome : Outcome} (kind : item.kind = .waiver)
    (success : sendBackWaiver ambient item reason work = .ok (after, outcome)) :
    Undoes ambient item work.file after.file := by
  unfold sendBackWaiver at success
  split at success
  · cases success
    exact .inl rfl
  · next pk found =>
      split at success
      · cases success
        exact .inl rfl
      · obtain ⟨reversed, written, success⟩ := bind_eq_ok_iff.mp success
        cases success
        have covers := coveredInstance_of_instanceFrom found
        obtain ⟨row, there, waived, rfl⟩ := reverseWaiver_ok written
        refine .inr ⟨pk, _, work.file, covers, .waiver there kind waived ?_, rfl, rfl,
          refreshed_refreshDependents _ _ _⟩
        split
        · exact .inl rfl
        · exact .inr rfl

theorem retractCheck_undoes {item : ReviewItem} {work after : Work} {outcome : Outcome}
    (kind : item.kind = .crc)
    (success : retractCheck ambient item work = .ok (after, outcome)) :
    Undoes ambient item work.file after.file := by
  rw [retractCheck_eq] at success
  cases success
  have rows : (lifted (work.write (retractedRows ambient item))).file.requirementInstances =
      (retractedRows ambient item work.file).requirementInstances := by
    unfold lifted
    split <;> rfl
  refine Undoes.of_rows rows ?_
  unfold retractedRows restorePrevious
  cases found : instanceFrom item work.file with
  | none => cases item.beforeState.supersededById <;> exact .inl rfl
  | some pk =>
      have rewrites : ∀ row, work.file.requirementInstances pk = some row →
          item.rewrites row := fun row _ => by simp [ReviewItem.rewrites, kind]
      cases item.beforeState.supersededById <;>
        exact undoes_restore found rfl rfl rewrites rfl

theorem revert_undoes {item : ReviewItem} {reason : String} {work after : Work}
    {outcome : Outcome}
    (success : revert ambient item reason work = .ok (after, outcome)) :
    Undoes ambient item work.file after.file := by
  unfold revert at success
  split at success
  · next kind =>
      unfold sendBackCompletion at success
      split at success
      · cases success
        exact .inl rfl
      · next pk found =>
          split at success
          · cases success
            exact .inl rfl
          · next standing =>
              cases success
              refine undoes_restore found rfl rfl ?_ rfl
              intro row there
              rw [there, Option.map_some, not_not] at standing
              simp [ReviewItem.rewrites, kind, Option.some.inj standing]
  · next kind =>
      obtain ⟨documents, _, retired⟩ := retireDocument_eq item work
      unfold sendBackDocument at success
      simp only [retired] at success
      split at success
      · cases success
        exact .inl rfl
      · next found =>
          cases success
          refine @undoes_restore ambient _ _ item _ { work.file with documents := documents }
            found rfl rfl ?_ rfl
          exact fun row _ => by simp [ReviewItem.rewrites, kind]
  · next kind =>
      unfold sendBackCrc at success
      split at success
      · cases success
        exact .inl rfl
      · split at success
        · cases success
          exact .inl rfl
        · split at success
          · cases success
            exact .inl rfl
          · exact retractCheck_undoes kind success
      · cases success
        exact .inl rfl
  · next kind => exact sendBackWaiver_undoes kind success
  · cases success
    exact .inl rfl

theorem sendBack_writes {user : Core.User} {position : Nat} {reason : String}
    {outcome : Outcome}
    (success : sendBack ambient user position reason file = .ok (work, outcome)) :
    ∃ between, Writes ambient (.sendBack user position reason) file work.file between := by
  obtain ⟨item, reverted, found, _, _, undone, rfl⟩ := sendBack_ok success
  have sameVolunteer : item.kind ≠ .crc → reverted.file.volunteer = file.volunteer := by
    intro other
    obtain ⟨_, _, kind, _⟩ | ⟨_, _, _, _, rfl⟩ := revert_ok undone
    · exact absurd kind other
    · rfl
  have undoes : Undoes ambient item file reverted.file :=
    @revert_undoes ambient item reason (Work.start file) reverted outcome undone
  obtain rows | ⟨pk, row, base, covers, undone, rows, volunteer, written⟩ := undoes
  · exact writes_kept rows
  · refine writes_save base (.sentBack rfl found covers undone) rows ?_ rfl written
    intro other spares
    obtain ⟨notCheck, elsewhere⟩ := spares item found
    refine ⟨?_, volunteer.trans (sameVolunteer notCheck).symm⟩
    rintro rfl
    exact elsewhere covers

theorem storeDocument_writes {entry : DocumentEntry}
    (success : storeDocument ambient entry file = .ok after) :
    ∃ between, Writes ambient (.storeDocument entry) file after between := by
  cases completes : entry.completes ambient file with
  | none =>
      obtain ⟨document, rfl⟩ := storeDocument_of_not_completes success completes
      exact writes_kept rfl
  | some pk =>
      obtain ⟨document, definition, row, completedOn, written, _, there, _, _, _, rfl, rfl⟩ :=
        storeDocument_of_completes success completes
      have target : entry.requirementInstance = some pk := by
        unfold DocumentEntry.completes at completes
        split at completes
        · cases completes
        · split at completes
          · exact completes
          · cases completes
      refine writes_save (addDocument document entry.supersedes file)
        (.completed there definition completedOn "") rfl ?_ rfl
        (refreshed_refreshDependents _ _ _)
      intro other spares
      refine ⟨?_, by rw [refreshDependents_eq]; rfl⟩
      rintro rfl
      exact spares target

theorem recordCrc_writes {report : CheckReport}
    (success : recordCrc ambient report file = .ok work) :
    ∃ between, Writes ambient (.recordCrc report) file work.file between := by
  have rows := (recordCrc_block success).1
  unfold checkWritten writeOutcome at rows
  dsimp only [Work.write, Work.start] at rows
  split at rows
  · next pk row counts present =>
      rw [counts] at present
      have there : file.requirementInstances pk = some row := present
      refine writes_save (addCheck _ file) ?_ rfl (fun _ spares => spares.elim) rfl
        (Refreshed.of_rows rows (refreshed_refreshDependents _ _ _))
      split
      · exact .cleared there report.reportDate
      · exact .notClear there
  · exact writes_kept rows

theorem recordConvictions_writes {check : Nat} {entries : List ConvictionEntry}
    (success : recordConvictions ambient check entries file = .ok work) :
    ∃ between, Writes ambient (.recordConvictions check entries) file work.file between := by
  obtain ⟨created, items, _, _, rfl⟩ := recordConvictions_ok success
  refine ⟨_, ?_, nofun, .inl rfl⟩
  intro pk row present
  unfold convictionsWritten at present
  dsimp only at present
  split at present
  · obtain ⟨earlier, there, rfl⟩ := Option.map_eq_some_iff.mp present
    split
    · next outstanding => exact .blocked there outstanding
    · exact .kept there
  · exact .kept present

theorem assignmentEnd_writes {user : Core.User} {position : Nat} {endedOn : Option Date}
    (success : assignmentEnd ambient user position endedOn file = .ok work) :
    ∃ between, Writes ambient (.assignmentEnd user position endedOn) file work.file
      between := by
  obtain ⟨_, _, _, rfl⟩ := assignmentEnd_ok success
  refine writes_synced ?_ rfl rfl
  unfold deactivateIfUnassigned
  split <;> rfl

/-- Every operation but the sweep saves first and syncs last. -/
theorem perform_writes (single : operation.isSweep = false)
    (success : perform ambient operation file = .ok work) :
    ∃ between, Writes ambient operation file work.file between := by
  cases operation with
  | markRequirementComplete =>
      obtain ⟨_, written, rfl⟩ := map_eq_ok_iff.mp success
      obtain ⟨definition, row, _, there, _, _, rfl⟩ := markRequirementComplete_ok written
      refine writes_save { file with reviewItems := _ }
        (.completed there definition _ _) rfl ?_ rfl (refreshed_refreshDependents _ _ _)
      intro other spares
      exact ⟨spares.symm, by dsimp only [Work.start]; rw [refreshDependents_eq]; rfl⟩
  | startRequirement pk =>
      obtain ⟨_, written, rfl⟩ := map_eq_ok_iff.mp success
      obtain ⟨row, there, rfl⟩ := startRequirement_ok written
      dsimp only [Work.start]
      split
      · next startable =>
          exact writes_save file (.started there startable) rfl
            (fun _ spares => ⟨spares.symm, rfl⟩) rfl (.inl rfl)
      · exact writes_kept rfl
  | waiveRequirement =>
      obtain ⟨_, written, rfl⟩ := map_eq_ok_iff.mp success
      obtain ⟨_, row, _, there, _, rfl⟩ := waiveRequirement_ok written
      refine writes_save { file with reviewItems := _ } (.waived there _ _) rfl ?_ rfl
        (refreshed_refreshDependents _ _ _)
      intro other spares
      exact ⟨spares.symm, by dsimp only [Work.start]; rw [refreshDependents_eq]; rfl⟩
  | reverseWaiver =>
      obtain ⟨_, written, rfl⟩ := map_eq_ok_iff.mp success
      obtain ⟨row, there, waived, rfl⟩ := reverseWaiver_ok written
      refine writes_save file (.reversed there waived) rfl ?_ rfl
        (refreshed_refreshDependents _ _ _)
      intro other spares
      exact ⟨spares.symm, by dsimp only [Work.start]; rw [refreshDependents_eq]; rfl⟩
  | recordCrc => exact recordCrc_writes success
  | recordConvictions => exact recordConvictions_writes success
  | recordDiscretionaryOverride =>
      obtain ⟨_, _, _, decided, _, rfl⟩ := recordDiscretionaryOverride_ok success
      obtain withdrawn | ⟨_, rfl⟩ | ⟨_, rfl⟩ := applyDecision_ok decided
      · exact writes_kept (withdraw_block withdrawn).2
      · exact writes_kept rfl
      · exact writes_kept rfl
  | resolveNotClear =>
      obtain ⟨_, _, withdrawn | rfl⟩ := resolveNotClear_ok success
      · exact writes_kept (withdraw_block withdrawn).2
      · exact writes_kept rfl
  | storeDocument =>
      obtain ⟨_, written, rfl⟩ := map_eq_ok_iff.mp success
      exact storeDocument_writes written
  | affirm =>
      obtain ⟨_, written, rfl⟩ := map_eq_ok_iff.mp success
      obtain ⟨_, _, _, _, rfl⟩ := affirm_ok written
      exact writes_kept rfl
  | sendBack =>
      obtain ⟨⟨_, _⟩, written, rfl⟩ := map_eq_ok_iff.mp success
      exact sendBack_writes written
  | assignmentCreate =>
      obtain ⟨_, _, _, rfl⟩ := assignmentCreate_ok success
      refine writes_synced ?_ rfl rfl
      rfl
  | assignmentEnd => exact assignmentEnd_writes success
  | volunteerEdit =>
      obtain ⟨_, _, _, rfl⟩ := volunteerEdit_ok success
      exact writes_kept rfl
  | volunteerDeactivate =>
      obtain ⟨_, _, _, _, rfl, rfl⟩ := volunteerDeactivate_ok success
      split <;> exact writes_kept rfl
  | volunteerReactivate =>
      obtain ⟨_, _, rfl⟩ := volunteerReactivate_ok success
      exact writes_kept rfl
  | volunteerResync =>
      obtain ⟨_, rfl⟩ := volunteerResync_ok success
      exact writes_synced rfl rfl rfl
  | syncVolunteerRequirements asOf =>
      cases success
      refine ⟨file, fun _ _ present => .kept present, fun _ _ => ⟨rfl, rfl⟩, .inr rfl⟩
  | nightlySweep => cases single

/-- What a transaction writes parks nothing, and takes every deadline from the instance or from the
item it undoes. -/
theorem Written.saved {pk : Pk} {row : RequirementInstance}
    (written : Written ambient operation file pk row) : Saved file pk row := by
  cases written with
  | kept there => exact .kept there
  | completed there definition completedOn notes =>
      exact .undated (by simp [RequirementInstance.markComplete]) rfl
  | cleared there reportDate => exact .undated (by simp [clearedRow]) rfl
  | notClear there => exact .rewritten there (by simp [notClearRow]) rfl rfl
  | blocked there outstanding => exact .rewritten there (by simp) rfl rfl
  | started there startable =>
      refine .rewritten there ?_ rfl rfl
      rcases startable with notStarted | overdue
      · simp [notStarted]
      · simp [overdue]
  | waived there reason waivedBy => exact .undated (by simp [waivedRow]) rfl
  | reversed there waived =>
      exact .rewritten there (recompute_ne (status_ne_of_reversal _) _)
        (RequirementInstance.recompute_dueOn _ _) (RequirementInstance.recompute_dueReason _ _)
  | sentBack sends found covers undone =>
      have listed := List.mem_of_getElem? found
      cases undone with
      | snapshot there =>
          exact .restored listed covers (recompute_ne (status_ne_of_reversal _) _)
            (RequirementInstance.recompute_dueOn _ _) (RequirementInstance.recompute_dueReason _ _)
      | waiver there kind waived gives =>
          obtain rfl | rfl := gives
          · exact .rewritten there (recompute_ne (status_ne_of_reversal _) _)
              (RequirementInstance.recompute_dueOn _ _)
              (RequirementInstance.recompute_dueReason _ _)
          · exact .restored listed covers (recompute_ne (status_ne_of_reversal _) _)
              (RequirementInstance.recompute_dueOn _ _)
              (RequirementInstance.recompute_dueReason _ _)

end Transactions

theorem Written.there_of_parked {ambient : Ambient} {operation : Operation} {file : VolunteerFile}
    {pk : Pk} {row : RequirementInstance} (written : Written ambient operation file pk row)
    (parked : row.status = .notApplicable) : file.requirementInstances pk = some row := by
  cases written.saved with
  | kept there => exact there
  | undated unparked => exact absurd parked unparked
  | rewritten _ unparked => exact absurd parked unparked
  | restored _ _ unparked => exact absurd parked unparked

/-! ## What a transaction leaves of an instance -/

namespace Move

/-- What a transaction activates, and the instances and the volunteer it then goes by: what its sync
releases in the file that its own saves have led to, or what an age scan finds to be due. -/
inductive Activates (file : VolunteerFile) (definition : RequirementDefinition)
    (row : RequirementInstance) : Move → Instances → Volunteer → Prop where
  | resynced {request : Request} {work : Work} {between : VolunteerFile}
      (single : request.operation.isSweep = false)
      (success : perform request.ambient request.operation file = .ok work)
      (writes : Writes request.ambient request.operation file work.file between)
      (syncs : work.file.requirementInstances = (synced request.ambient.settings
        (request.operation.date request.ambient) between).requirementInstances)
      (releases : Releases request.ambient.settings (request.operation.date request.ambient) between
        definition row) :
      Activates file definition row (.transact request) ((syncSubject request.ambient.settings
        (request.operation.date request.ambient) between).rowsAt definition) between.volunteer
  | synced {settings : Settings} {asOf : Date}
      (releases : Releases settings asOf file definition row) :
      Activates file definition row (.sync settings asOf)
        ((syncSubject settings asOf file).rowsAt definition) file.volunteer
  | swept {settings : Settings} {asOf : Date}
      {planned : Core.SweepStep.sync ∈ Core.fileSteps settings.catalogue}
      (serving : file.volunteer.isActive = true)
      (releases : Releases settings asOf file definition row) :
      Activates file definition row (.sweep settings asOf .sync planned)
        ((syncSubject settings asOf file).rowsAt definition) file.volunteer
  | scanned {settings : Settings} {asOf : Date}
      {planned : Core.SweepStep.ageScan definition ∈ Core.fileSteps settings.catalogue}
      (serving : file.volunteer.isActive = true)
      (there : file.requirementInstances definition.pk = some row)
      (parked : row.status = .notApplicable)
      (turns : turns18 settings asOf file file.requirementInstances definition = true) :
      Activates file definition row (.sweep settings asOf (.ageScan definition) planned)
        file.requirementInstances file.volunteer

section Activates

variable {file : VolunteerFile} {definition : RequirementDefinition} {row : RequirementInstance}
  {move : Move} {rows : Instances} {volunteer : Volunteer}

/-- A transaction's own saves park nothing, so what it activates was parked before. -/
theorem Activates.found (activates : move.Activates file definition row rows volunteer) :
    file.requirementInstances definition.pk = some row ∧ row.status = .notApplicable := by
  cases activates with
  | resynced _ _ writes _ releases =>
      have written := writes.written definition.pk row releases.there
      exact ⟨written.there_of_parked releases.parked, releases.parked⟩
  | synced releases => exact ⟨releases.there, releases.parked⟩
  | swept _ releases => exact ⟨releases.there, releases.parked⟩
  | scanned _ there parked _ => exact ⟨there, parked⟩

theorem Activates.leaves (activates : move.Activates file definition row rows volunteer) :
    (move.after file).requirementInstances definition.pk =
      some (activate move.settings.catalogue rows volunteer definition row) := by
  cases activates with
  | resynced single success _ syncs releases =>
      rw [after_of_ok single success, syncs]
      exact releases.synced
  | synced releases => exact releases.synced
  | swept serving releases =>
      unfold after Core.sweepStep
      dsimp only
      rw [if_pos serving]
      exact releases.synced
  | scanned serving there parked turns =>
      unfold after Core.sweepStep
      dsimp only
      rw [there]
      dsimp only
      rw [if_pos ⟨serving, parked, turns⟩, VolunteerFile.saveInstance_self]
      rfl

end Activates

/-- What holds of an instance and is kept by every write holds of what a transaction leaves of it.
-/
theorem row_induction {motive : RequirementInstance → Prop} {file : VolunteerFile} {pk : Pk}
    {move : Move}
    (kept : ∀ row, file.requirementInstances pk = some row → motive row)
    (written : ∀ request work row, move = .transact request →
      perform request.ambient request.operation file = .ok work →
      Written request.ambient request.operation file pk row → motive row)
    (created : ∀ (subject : SyncSubject) rows definition,
      motive (subject.createdRow rows definition))
    (parked : ∀ row reason, motive row → row.status.isOutstanding = true →
      motive (holdNotApplicable row reason))
    (activated : ∀ definition row rows volunteer, definition.pk = pk →
      move.Activates file definition row rows volunteer →
      motive (activate move.settings.catalogue rows volunteer definition row))
    (redated : ∀ catalogue rows definition row deadline reason, motive row →
      row.completedOn = none → row.status.isOutstanding = true →
      prerequisiteDeadline catalogue rows definition = some (deadline, reason) →
      motive { row with dueOn := some deadline, dueReason := reason })
    (recomputed : ∀ settings asOf write planned row, move = .sweep settings asOf write planned →
      file.requirementInstances pk = some row → motive (row.recompute asOf))
    {row : RequirementInstance} (present : (move.after file).requirementInstances pk = some row) :
    motive row := by
  have synced' : ∀ {settings : Settings} {asOf : Date} {between : VolunteerFile},
      (∀ earlier, between.requirementInstances pk = some earlier → motive earlier) →
      (∀ definition earlier, definition.pk = pk →
        Releases settings asOf between definition earlier →
        motive (activate settings.catalogue ((syncSubject settings asOf between).rowsAt definition)
          between.volunteer definition earlier)) →
      (synced settings asOf between).requirementInstances pk = some row → motive row := by
    intro settings asOf between saved releases left
    obtain there | ⟨definition, listed, samePk, ⟨_, rfl⟩ | ⟨earlier, there, rfl⟩⟩ :=
      synced_instance left
    · exact saved row there
    · exact created _ _ _
    · have holds := saved earlier there
      obtain same | ⟨reason, outstanding, held⟩ | ⟨notApplicable, free, switched⟩ |
          ⟨deadline, reason, incomplete, outstanding, derived, redates⟩ :=
        (syncSubject settings asOf between).reconciled_cases _ definition earlier
      · rw [same]
        exact holds
      · rw [held]
        exact parked earlier reason holds outstanding
      · rw [switched]
        rw [← samePk] at there
        exact releases definition earlier samePk ⟨listed, there, notApplicable, free⟩
      · rw [redates]
        exact redated _ _ definition earlier deadline reason holds incomplete outstanding derived
  cases move with
  | transact request =>
      obtain same | ⟨work, single, success, left⟩ := transact_cases request file
      · rw [same] at present
        exact kept row present
      · obtain ⟨between, writes⟩ := perform_writes single success
        obtain same | same := writes.synced
        · rw [left, same] at present
          exact written request work row rfl success (writes.written pk row present)
        · rw [left, same] at present
          refine synced' ?_ ?_ present
          · intro earlier there
            exact written request work earlier rfl success (writes.written pk earlier there)
          · intro definition earlier samePk releases
            exact activated definition earlier _ _ samePk
              (.resynced single success writes same releases)
  | sync settings asOf =>
      refine synced' kept ?_ present
      intro definition earlier samePk releases
      exact activated definition earlier _ _ samePk (.synced releases)
  | sweep settings asOf write planned =>
      obtain there | ⟨rfl, serving, swept⟩ |
          ⟨definition, before, rfl, there, serving, notApplicable, turns, rfl, rfl⟩ |
          ⟨before, there, rfl⟩ := Core.sweepStep_row present
      · exact kept row there
      · refine synced' kept ?_ swept
        intro definition earlier samePk releases
        exact activated definition earlier _ _ samePk (.swept serving releases)
      · exact activated definition before _ _ rfl (.scanned serving there notApplicable turns)
      · exact recomputed settings asOf write planned before rfl there

end Move

end VolunteerScreening
