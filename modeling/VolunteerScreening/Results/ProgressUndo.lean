import VolunteerScreening.Results.Retraction
import VolunteerScreening.Results.RowStates
import VolunteerScreening.Results.SyncIdempotence

/-!
# Sending back a completion or a waiver

A scoped administrator completes or waives a requirement, and a reviewer sends
the entry back the same day.  The dates come back, and with them the status they
give; where a gate hangs on the requirement, the sync that reopens it also looks
at the requirement itself.
-/

namespace VolunteerScreening

open Calendar Fallible Org Requirements Review

/-- Whether the undo parks the instance: it resyncs it, its dates leave it outstanding, and it is
held up. -/
def ParksBack (settings : Settings) (today : Date) (file : VolunteerFile)
    (definition : RequirementDefinition) (row : RequirementInstance) : Prop :=
  refreshesItself settings definition = true ∧ (reinstatedRow today row).status ≠ .complete ∧
    (syncSubject settings today file).held definition = true

/-- The deadline that the undo's resync derives for the instance, where that comes before its
own. -/
def earlierDeadline (settings : Settings) (file : VolunteerFile)
    (definition : RequirementDefinition) (row : RequirementInstance) : Option (Date × String) :=
  if refreshesItself settings definition && definition.isGated && row.completedOn.isNone then
    (prerequisiteDeadline settings.catalogue file.requirementInstances definition).filter
      fun derived => row.dueOn.all (derived.1 < ·)
  else none

/-- The instance that an undo leaves for the one there was. -/
structure PutBack (settings : Settings) (today : Date) (file : VolunteerFile)
    (definition : RequirementDefinition) (row restored : RequirementInstance) : Prop where
  startedOn : restored.startedOn = row.startedOn
  completedOn : restored.completedOn = row.completedOn
  expiresOn : restored.expiresOn = row.expiresOn
  parked : ParksBack settings today file definition row →
    restored.status = .notApplicable ∧ restored.dueOn = none ∧ restored.dueReason = ""
  status : ¬ParksBack settings today file definition row →
    restored.status = (reinstatedRow today row).status
  deadline : ¬ParksBack settings today file definition row →
    restored.dueOn = ((earlierDeadline settings file definition row).map (·.1)).or row.dueOn ∧
      restored.dueReason =
        ((earlierDeadline settings file definition row).map (·.2)).getD row.dueReason

def refreshes (settings : Settings) (pk : Pk) : Nat := if hasDependents settings pk then 1 else 0

/-! ## The instance's own row -/

section Row

variable {settings : Settings} {today : Date} {file : VolunteerFile}
  {definition : RequirementDefinition} {row back : RequirementInstance}

theorem putBack_of_kept (apart : refreshesItself settings definition = false)
    (same : SameFields (reinstatedRow today row) back) (started : back.startedOn = row.startedOn) :
    PutBack settings today file definition row back := by
  have stays : ¬ParksBack settings today file definition row := by
    rintro ⟨resyncs, _⟩
    rw [apart] at resyncs
    cases resyncs
  refine ⟨started, same.completedOn.trans (by simp), same.expiresOn.trans (by simp [reinstatedRow]),
    fun parks => absurd parks stays, fun _ => same.status, fun _ => ?_⟩
  simp [earlierDeadline, apart, same.dueOn, same.dueReason, reinstatedRow]

theorem redated_deadline (resyncs : refreshesItself settings definition = true)
    (present : file.requirementInstances definition.pk = some row)
    (same : SameFields (reinstatedRow today row) back) :
    let redated := ((syncSubject settings today file).on (Function.update
      file.requirementInstances definition.pk (some back))).redated definition back
    redated.dueOn = ((earlierDeadline settings file definition row).map (·.1)).or row.dueOn ∧
      redated.dueReason =
        ((earlierDeadline settings file definition row).map (·.2)).getD row.dueReason := by
  intro redated
  have completion : back.completedOn = row.completedOn := same.completedOn.trans (by simp)
  have due : back.dueOn = row.dueOn := same.dueOn.trans (by simp)
  have dueReason : back.dueReason = row.dueReason :=
    same.dueReason.trans (by simp [reinstatedRow])
  have sameDeadline : prerequisiteDeadline settings.catalogue
        (Function.update file.requirementInstances definition.pk (some back)) definition =
      prerequisiteDeadline settings.catalogue file.requirementInstances definition := by
    apply prerequisiteDeadline_congr
    intro pk
    by_cases self : pk = definition.pk
    · rw [self, Function.update_self, present]
      exact completion
    · rw [Function.update_of_ne self]
  have is : redated = if definition.isGated && row.completedOn.isNone then
      (refreshPrerequisiteDeadline settings.catalogue (Function.update file.requirementInstances
        definition.pk (some back)) definition back).getD back
      else back := by
    rw [← completion]
    rfl
  rw [is]
  unfold earlierDeadline refreshPrerequisiteDeadline
  rw [resyncs, sameDeadline, due]
  cases derives : definition.isGated && row.completedOn.isNone
  · simp [due, dueReason, derives]
  · cases derived :
        prerequisiteDeadline settings.catalogue file.requirementInstances definition with
    | none => simp [due, dueReason, derives]
    | some found =>
        obtain ⟨deadline, reason⟩ := found
        cases own : row.dueOn with
        | none => simp [derives, Option.filter]
        | some earlier =>
            rcases lt_trichotomy deadline earlier with before | here | after
            · have other : earlier ≠ deadline := before.ne'
              simp [derives, Option.filter, RequirementInstance.isBefore, before, before.not_gt,
                other]
            · simp [derives, Option.filter, here, due, own, dueReason]
            · have other : earlier ≠ deadline := after.ne
              simp [derives, Option.filter, RequirementInstance.isBefore, after, after.not_gt,
                other, due, own, dueReason]

/-- A row that one resync looks at is put back as its dates give it, parked, or with an earlier
deadline. -/
theorem putBack_of_resynced {restored : RequirementInstance}
    (resyncs : refreshesItself settings definition = true)
    (listed : definition ∈ settings.catalogue.active)
    (present : file.requirementInstances definition.pk = some row)
    (unwaived : row.status ≠ .waived) (same : SameFields (reinstatedRow today row) back)
    (started : back.startedOn = row.startedOn)
    (resynced : ((syncSubject settings today file).on (Function.update
      file.requirementInstances definition.pk (some back))).Resynced definition back restored) :
    PutBack settings today file definition row restored := by
  have completion : back.completedOn = row.completedOn := same.completedOn.trans (by simp)
  have expiry : back.expiresOn = row.expiresOn := same.expiresOn.trans (by simp [reinstatedRow])
  by_cases complete : (reinstatedRow today row).status = .complete
  · have stays : ¬ParksBack settings today file definition row := fun parks => parks.2.1 complete
    obtain rfl := resynced.decided (.inl (same.status.trans complete))
    have completed := (reinstatedRow_status today row).1 complete
    refine ⟨started, completion, expiry, fun parks => absurd parks stays, fun _ => same.status,
      fun _ => ?_⟩
    have incomplete : row.completedOn.isNone = false := by simpa using completed
    simp [earlierDeadline, incomplete, same.dueOn, same.dueReason, reinstatedRow]
  · have outstanding : back.status.isOutstanding = true := by
      rw [same.status]
      exact (reinstatedRow_status today row).2.1 complete
    have backUnwaived : back.status ≠ .waived := by
      intro waived
      rw [waived] at outstanding
      cases outstanding
    have sameHeld := (syncSubject settings today file).held_update definition listed present
      completion unwaived backUnwaived
    cases holds : (syncSubject settings today file).held definition
    · have stays : ¬ParksBack settings today file definition row := by
        rintro ⟨_, _, held⟩
        rw [holds] at held
        cases held
      have redated := resynced.released outstanding (sameHeld.trans holds)
      obtain ⟨dueOn, dueReason, written⟩ := ((syncSubject settings today file).on (Function.update
        file.requirementInstances definition.pk (some back))).redated_eq definition back
      have deadline := @redated_deadline settings today file definition row back resyncs present
        same
      refine ⟨?_, ?_, ?_, fun parks => absurd parks stays, fun _ => ?_, fun _ => ?_⟩
      · rw [redated, written]
        exact started
      · rw [redated, written]
        exact completion
      · rw [redated, written]
        exact expiry
      · rw [redated, written]
        exact same.status
      · rw [redated]
        exact deadline
    · have parks : ParksBack settings today file definition row := ⟨resyncs, complete, holds⟩
      obtain ⟨reason, rfl⟩ := resynced.parked outstanding (sameHeld.trans holds)
      exact ⟨started, completion, expiry, fun _ => ⟨rfl, rfl, rfl⟩, fun stays => absurd parks stays,
        fun stays => absurd parks stays⟩

/-- What a file's own row becomes when it is written, refreshed, written back and refreshed
again. -/
theorem rewritten_row (listed : definition ∈ settings.catalogue.definitions)
    (present : file.requirementInstances definition.pk = some row)
    (unwaived : row.status ≠ .waived) (same : SameFields (reinstatedRow today row) back)
    (started : back.startedOn = row.startedOn) (marked : RequirementInstance) :
    ∃ restored, (resync settings today file)^[refreshes settings definition.pk]
        (Function.update ((resync settings today file)^[refreshes settings definition.pk]
          (Function.update file.requirementInstances definition.pk (some marked)))
            definition.pk (some back)) definition.pk = some restored ∧
      PutBack settings today file definition row restored ∧
      (back.waivedReason = restored.waivedReason ∧ back.waivedBy = restored.waivedBy ∧
        back.waivedOn = restored.waivedOn) := by
  cases resyncs : refreshesItself settings definition
  · refine ⟨back, ?_, putBack_of_kept resyncs same started, rfl, rfl, rfl⟩
    unfold refreshesItself at resyncs
    unfold refreshes
    cases dependents : hasDependents settings definition.pk
    · exact Function.update_self _ _ _
    · have inactive : definition.pk ∉ settings.catalogue.active.map (·.pk) := by
        intro visited
        obtain ⟨other, inForce, samePk⟩ := List.mem_map.mp visited
        obtain ⟨otherListed, isActive⟩ := settings.catalogue.mem_active.mp inForce
        rw [settings.catalogue.eq_of_pk_eq otherListed listed samePk] at isActive
        rw [dependents, isActive] at resyncs
        cases resyncs
      exact (SyncSubject.result_of_not_mem _ inactive).trans (Function.update_self _ _ _)
  · obtain ⟨dependents, isActive⟩ : hasDependents settings definition.pk = true ∧
        definition.isActive = true := by simpa [refreshesItself] using resyncs
    have inForce : definition ∈ settings.catalogue.active :=
      settings.catalogue.mem_active.mpr ⟨listed, isActive⟩
    have once : refreshes settings definition.pk = 1 := if_pos dependents
    have unparked : back.status ≠ .notApplicable := by
      rw [same.status]
      intro parked
      have outstanding := (reinstatedRow_status today row).2.1 (by simp [parked])
      rw [parked] at outstanding
      cases outstanding
    rw [once]
    obtain ⟨restored, there, resynced⟩ := @SyncSubject.resynced_iterate
      (syncSubject settings today file) definition file.requirementInstances
      (Function.update (resync settings today file (Function.update file.requirementInstances
        definition.pk (some marked))) definition.pk (some back)) inForce
      (((SyncSubject.Follows.refl.update (some marked)).synced).update (some back))
      ((SyncSubject.SettledApart.synced _).update (some back)) back
      (Function.update_self _ _ _) unparked 0
    refine ⟨restored, there, ?_, ?_⟩
    · exact putBack_of_resynced resyncs inForce present unwaived same started resynced
    · by_cases complete : back.status = .complete
      · obtain rfl := resynced.decided (.inl complete)
        exact ⟨rfl, rfl, rfl⟩
      · have outstanding : back.status.isOutstanding = true := by
          rw [same.status]
          exact (reinstatedRow_status today row).2.1 (same.status ▸ complete)
        cases holds : ((syncSubject settings today file).on (Function.update
          file.requirementInstances definition.pk (some back))).held definition
        · obtain ⟨_, _, written⟩ := ((syncSubject settings today file).on (Function.update
            file.requirementInstances definition.pk (some back))).redated_eq definition back
          rw [resynced.released outstanding holds, written]
          exact ⟨rfl, rfl, rfl⟩
        · obtain ⟨_, rfl⟩ := resynced.parked outstanding holds
          exact ⟨rfl, rfl, rfl⟩

end Row

/-! ## The two transactions -/

section Transactions

variable {ambient later : Ambient} {user : Core.User} {reason : String}
  {file after : VolunteerFile} {undone : Work} {outcome : Outcome}
  {definition : RequirementDefinition} {row written : RequirementInstance}

/-- An entry that decides a requirement writes its row and the queue, and refreshes the file. -/
theorem decided_commit {items : List ReviewItem}
    (listed : definition ∈ ambient.settings.catalogue.definitions)
    (decided : written.status = .complete ∨ written.status = .waived)
    (committed : after = refreshDependents ambient.settings ambient.today definition.pk
      { file.saveInstance definition.pk written with reviewItems := items }) :
    SameSubject file after ∧ after.requirementInstances definition.pk = some written ∧
      after.reviewItems = items ∧
      after.requirementInstances =
        (resync ambient.settings ambient.today file)^[refreshes ambient.settings definition.pk]
          (Function.update file.requirementInstances definition.pk (some written)) := by
  subst committed
  refine ⟨?_, ?_, ?_, ?_⟩
  · rw [refreshDependents_eq]
    exact ⟨rfl, rfl, rfl⟩
  · have present : ({ file.saveInstance definition.pk written with
        reviewItems := items } : VolunteerFile).requirementInstances definition.pk = some written :=
      file.saveInstance_self definition.pk written
    rw [refreshDependents_row listed present, SyncSubject.reconciled_of_decided _ _ _ decided,
      ite_self]
  · rw [refreshDependents_eq]
  · exact refreshDependents_rows ⟨rfl, rfl, rfl⟩ ambient.settings ambient.today definition.pk

theorem newItem_covers {entry : Entry} (covers : entry.entity = .requirementInstance definition.pk)
    (present : after.requirementInstances definition.pk = some written) :
    instanceFrom (newItem ambient entry file) after = some definition.pk := by
  have covered : (newItem ambient entry file).coveredInstance = some definition.pk := by
    simp [ReviewItem.coveredInstance, newItem, covers]
  exact instanceFrom_of_covered covered (by rw [present, Option.isSome_some])

theorem completion_sentBack {completedOn : Date} {notes : String}
    (listed : definition ∈ ambient.settings.catalogue.definitions)
    (present : file.requirementInstances definition.pk = some row)
    (sameSettings : later.settings = ambient.settings) (sameDay : later.today = ambient.today)
    (marked : markRequirementComplete ambient definition.pk completedOn notes true file = .ok after)
    (sentBack : sendBack later user file.reviewItems.length reason after = .ok (undone, outcome)) :
    outcome.reverted = true ∧
      ∃ back, SameFields (reinstatedRow ambient.today row) back ∧
        back.startedOn = row.startedOn ∧
        (undone.commit later).requirementInstances =
          (resync ambient.settings ambient.today file)^[refreshes ambient.settings definition.pk]
            (Function.update
              ((resync ambient.settings ambient.today file)^[
                refreshes ambient.settings definition.pk]
                  (Function.update file.requirementInstances definition.pk
                    (some (row.markComplete definition completedOn notes))))
              definition.pk (some back)) := by
  obtain ⟨found, there, inCatalogue, alsoPresent, _, _, committed⟩ :=
    markRequirementComplete_ok marked
  obtain rfl := Option.some.inj
    ((ambient.settings.catalogue.get_of_mem listed).symm.trans inCatalogue)
  obtain rfl := Option.some.inj (present.symm.trans alsoPresent)
  obtain ⟨same, written, queue, rows⟩ := decided_commit listed (.inl rfl) committed
  obtain ⟨item, reverted, placed, _, _, _, undoes, rfl⟩ := sendBack_eq_ok_iff.mp sentBack
  rw [queue, if_pos rfl] at placed
  obtain ⟨_, rfl⟩ := queueAfter_last placed
  have covered := @newItem_covers ambient file after definition _
    ⟨.requirementCompletion, .requirementInstance definition.pk, label file definition,
      instanceState row, none⟩ rfl written
  have coveredStart : instanceFrom _ (Work.start after).file = some definition.pk := covered
  have reads : ((Work.start after).file.requirementInstances definition.pk).map (·.status) =
      some .complete := by
    rw [show (Work.start after).file.requirementInstances definition.pk = _ from written]
    rfl
  unfold revert sendBackCompletion at undoes
  simp only [newItem] at undoes coveredStart
  rw [coveredStart] at undoes
  simp only [reads, ne_eq, not_true_eq_false, if_false] at undoes
  cases undoes
  refine ⟨rfl, (restoredRow (instanceState row)
    (row.markComplete definition completedOn notes)).recompute ambient.today, ?_, ?_, ?_⟩
  · have kept : (instanceState row).requirement = some (snapshot row) := rfl
    have started : (row.markComplete definition completedOn notes).startedOn = row.startedOn := rfl
    exact restoredRow_sameFields kept started ambient.today
  · rw [RequirementInstance.recompute_startedOn]
    cases started : row.startedOn <;>
      simp [restoredRow, instanceState, Snapshot.startedOn, snapshot, started,
        RequirementInstance.markComplete]
  · rw [← rows]
    have refreshed := refreshDependents_saved same ambient.settings ambient.today definition.pk
      ((restoredRow (instanceState row)
        (row.markComplete definition completedOn notes)).recompute ambient.today)
    have restored := congrArg VolunteerFile.requirementInstances
      (restoreFromSnapshot_of_some later (instanceState row) written)
    rw [sameSettings, sameDay] at restored
    exact restored.trans refreshed

theorem unwaivedRow_sameFields (row : RequirementInstance) (why waivedBy : String) (today : Date) :
    SameFields (reinstatedRow today row)
      ((unwaivedRow (waivedRow row why waivedBy today) (some (row.dueOn, row.dueReason))).recompute
        today) := by
  have fields : SameFields { row with status := row.statusAfterReversal }
      (unwaivedRow (waivedRow row why waivedBy today) (some (row.dueOn, row.dueReason))) :=
    ⟨rfl, rfl, rfl, rfl, rfl⟩
  exact fields.recompute today

theorem sendBackWaiver_of_kept {item : ReviewItem} {pk : Pk} {work : Work} (later : Ambient)
    (reason : String) (covered : instanceFrom item work.file = some pk)
    (reads : (work.file.requirementInstances pk).map (·.status) = some .waived)
    (kept : item.beforeState ≠ .empty) :
    sendBackWaiver later item reason work =
      (reverseWaiver later pk reason
        (some (item.beforeState.dueOn, item.beforeState.dueReason)) work.file).map
          fun file => ({ work with file := file }, ⟨true, []⟩) := by
  unfold sendBackWaiver
  rw [covered]
  dsimp only
  rw [if_neg (not_not.mpr reads), if_neg kept]
  rfl

theorem waiver_sentBack {why waivedBy : String}
    (listed : definition ∈ ambient.settings.catalogue.definitions)
    (present : file.requirementInstances definition.pk = some row)
    (sameSettings : later.settings = ambient.settings) (sameDay : later.today = ambient.today)
    (waived : waiveRequirement ambient definition.pk why waivedBy file = .ok after)
    (sentBack : sendBack later user file.reviewItems.length reason after = .ok (undone, outcome)) :
    outcome.reverted = true ∧
      (undone.commit later).requirementInstances =
        (resync ambient.settings ambient.today file)^[refreshes ambient.settings definition.pk]
          (Function.update
            ((resync ambient.settings ambient.today file)^[
              refreshes ambient.settings definition.pk]
                (Function.update file.requirementInstances definition.pk
                  (some (waivedRow row why waivedBy ambient.today))))
            definition.pk
            (some ((unwaivedRow (waivedRow row why waivedBy ambient.today)
              (some (row.dueOn, row.dueReason))).recompute ambient.today))) := by
  obtain ⟨found, there, inCatalogue, alsoPresent, _, committed⟩ := waiveRequirement_ok waived
  obtain rfl := Option.some.inj
    ((ambient.settings.catalogue.get_of_mem listed).symm.trans inCatalogue)
  obtain rfl := Option.some.inj (present.symm.trans alsoPresent)
  obtain ⟨same, written, queue, rows⟩ := decided_commit listed (.inr rfl) committed
  obtain ⟨item, reverted, placed, _, _, _, undoes, rfl⟩ := sendBack_eq_ok_iff.mp sentBack
  rw [queue] at placed
  obtain ⟨_, rfl⟩ := queueAfter_last placed
  have covered := @newItem_covers ambient file after definition _
    ⟨.waiver, .requirementInstance definition.pk, label file definition, instanceState row, none⟩
    rfl written
  have coveredStart : instanceFrom _ (Work.start after).file = some definition.pk := covered
  have reads : ((Work.start after).file.requirementInstances definition.pk).map (·.status) =
      some .waived := by
    rw [show (Work.start after).file.requirementInstances definition.pk = _ from written]
    rfl
  have kept : instanceState row ≠ Snapshot.empty := by simp [instanceState, Snapshot.empty]
  have sent := sendBackWaiver_of_kept later reason coveredStart reads kept
  obtain ⟨reversed, reversal, ended⟩ := map_eq_ok_iff.mp (sent.symm.trans undoes)
  cases ended
  obtain ⟨current, currentPresent, _, rfl⟩ := reverseWaiver_ok reversal
  obtain rfl := Option.some.inj (written.symm.trans currentPresent)
  refine ⟨rfl, ?_⟩
  have refreshed := refreshDependents_saved same ambient.settings ambient.today definition.pk
    ((unwaivedRow (waivedRow row why waivedBy ambient.today)
      (some (row.dueOn, row.dueReason))).recompute ambient.today)
  rw [← rows, sameSettings, sameDay]
  exact refreshed

end Transactions

/-! ## What is gated behind the requirement -/

section Dependents

variable {settings : Settings} {today : Date} {file : VolunteerFile}
  {definition dependent : RequirementDefinition} {subject : SyncSubject} {rows : Instances}
  {row before : RequirementInstance}

theorem held_gated (gated : dependent.isGated = true)
    (follows : dependent.mustFollow = some definition.pk)
    (listed : definition ∈ subject.catalogue.definitions) :
    (subject.on rows).held dependent =
      (!subject.applies dependent || subject.exempt dependent ||
        definition.isActive && subject.stillBlocks definition (rows definition.pk)) := by
  have gate : (gatePrerequisite subject.catalogue dependent).any (fun prerequisite =>
        subject.stillBlocks prerequisite (rows prerequisite.pk)) =
      (definition.isActive && subject.stillBlocks definition (rows definition.pk)) := by
    have found := subject.catalogue.get_of_mem listed
    unfold gatePrerequisite
    rw [gated, follows, if_pos rfl, Option.bind_some, found]
    cases isActive : definition.isActive <;> simp [Option.filter, isActive]
  exact congrArg (!subject.applies dependent || subject.exempt dependent || ·) gate

theorem settled_turn (listed : dependent ∈ subject.catalogue.active)
    (settled : subject.SettledApart dependent rows) (present : rows dependent.pk = some before) :
    ∃ after, (subject.on rows).result.1 dependent.pk = some after ∧
      (subject.on rows).Resynced dependent before after ∧
      (before.status = .notApplicable → (subject.on rows).held dependent = false →
        after.status = .notStarted ∧ after.completedOn = before.completedOn) := by
  have itself : Function.update rows dependent.pk (some before) = rows := by
    rw [← present, Function.update_eq_self]
  have resynced := SyncSubject.resynced_of_settled listed SyncSubject.Follows.refl settled present
  have parking := SyncSubject.parkingReason_of_settled listed SyncSubject.Follows.refl settled
    present
  rw [itself] at resynced parking
  refine ⟨_, SyncSubject.result_of_some listed present, resynced, ?_⟩
  intro parked free
  rw [free, Option.isSome_eq_false_iff, Option.isNone_iff_eq_none] at parking
  rw [SyncSubject.reconciled_status, SyncSubject.reconciled_completedOn, parking]
  simp [parked]

theorem settledApart_of_synced (settled : synced settings today file = file) :
    (syncSubject settings today file).SettledApart dependent file.requirementInstances := by
  have rows : ((syncSubject settings today file).on file.requirementInstances).result.1 =
      file.requirementInstances := congrArg VolunteerFile.requirementInstances settled
  have apart := @SyncSubject.SettledApart.synced (syncSubject settings today file) dependent
    file.requirementInstances
  rwa [rows] at apart

theorem open_of_canMarkComplete (markable : row.canMarkComplete definition = true) :
    row.status ≠ .waived ∧ row.status ≠ .notApplicable := by
  unfold RequirementInstance.canMarkComplete at markable
  split at markable
  · cases markable
  · cases status : row.status <;> simp_all

/-- Whether completing the prerequisite on this day brings a dependent's deadline forward. -/
def BringsForward (dependent : RequirementDefinition) (completedOn : Date)
    (row : RequirementInstance) : Prop :=
  row.status.isOutstanding = true ∧ row.completedOn = none ∧
    ∃ months, nonzeroMonths dependent.prerequisiteOffsetMonths = some months ∧
      row.dueOn.all (completedOn.addMonths months < ·) = true

theorem redated_of_not_bringsForward {marked : RequirementInstance} {completedOn : Date}
    (follows : dependent.mustFollow = some definition.pk)
    (listed : definition ∈ subject.catalogue.definitions)
    (completed : marked.completedOn = some completedOn)
    (present : rows definition.pk = some marked)
    (outstanding : before.status.isOutstanding = true)
    (stays : ¬BringsForward dependent completedOn before) :
    (subject.on rows).redated dependent before = before := by
  unfold SyncSubject.redated
  split
  · next derives =>
      have incomplete : before.completedOn = none := by
        simp only [Bool.and_eq_true, Option.isNone_iff_eq_none] at derives
        exact derives.2
      cases refreshed : refreshPrerequisiteDeadline (subject.on rows).catalogue
          (subject.on rows).existing dependent before with
      | none => rfl
      | some changed =>
          obtain ⟨deadline, reason, derived, other, notBefore, _⟩ :=
            refreshPrerequisiteDeadline_some refreshed
          have found := subject.catalogue.get_of_mem listed
          have sought : dependent.mustFollow.bind (subject.on rows).catalogue.get =
              some definition := by
            rw [follows]
            exact found
          have there : ((subject.on rows).existing definition.pk).bind (·.completedOn) =
              some completedOn := by
            rw [SyncSubject.on_existing, present]
            exact completed
          unfold prerequisiteDeadline at derived
          rw [sought] at derived
          cases offset : nonzeroMonths dependent.prerequisiteOffsetMonths with
          | none =>
              rw [offset] at derived
              cases derived
          | some months =>
              simp only [offset, there, Option.some.injEq, Prod.mk.injEq] at derived
              obtain ⟨rfl, _⟩ := derived
              refine absurd ⟨outstanding, incomplete, months, offset, ?_⟩ stays
              cases due : before.dueOn with
              | none => rfl
              | some own =>
                  rw [due] at other notBefore
                  have notEqual : own ≠ completedOn.addMonths months := by simpa using other
                  have notEarlier : ¬own < completedOn.addMonths months := by
                    simpa [RequirementInstance.isBefore] using notBefore
                  simpa using lt_of_le_of_ne (not_lt.mp notEarlier) notEqual.symm
  · rfl

/-- A row an undo wrote blocks what is gated behind it as the row it is written for did. -/
theorem blocks_alike {back : RequirementInstance} (same : SameFields (reinstatedRow today row) back)
    (coherent : row.Coherent) (unwaived : row.status ≠ .waived)
    (unparked : row.status ≠ .notApplicable) :
    blocks definition back = blocks definition row ∧
      subject.stillBlocks definition (some back) = subject.stillBlocks definition (some row) := by
  have completion : back.completedOn = row.completedOn := same.completedOn.trans (by simp)
  cases completed : row.completedOn with
  | some completedOn =>
      rw [completed] at completion
      simp [blocks, SyncSubject.stillBlocks, completion, completed]
  | none =>
      rw [completed] at completion
      have rowIncomplete : row.status ≠ .complete := by
        intro complete
        have done := coherent.completed complete
        rw [completed] at done
        cases done
      have incomplete : (reinstatedRow today row).status ≠ .complete := by
        intro complete
        have done := (reinstatedRow_status today row).1 complete
        rw [completed] at done
        cases done
      have outstanding := (reinstatedRow_status today row).2.1 incomplete
      rw [← same.status] at incomplete outstanding
      have backUnwaived : back.status ≠ .waived := by
        intro waived
        rw [waived] at outstanding
        cases outstanding
      have backUnparked : back.status ≠ .notApplicable := by
        intro parked
        rw [parked] at outstanding
        cases outstanding
      simp only [blocks, SyncSubject.stillBlocks, completion, completed, unwaived, unparked,
        backUnwaived, backUnparked, bne_iff_ne.mpr unwaived, bne_iff_ne.mpr backUnwaived,
        beq_false_of_ne rowIncomplete, beq_false_of_ne incomplete, false_and, and_self]

theorem absent_turn (listed : dependent ∈ subject.catalogue.active)
    (absent : rows dependent.pk = none) :
    (subject.on rows).result.1 dependent.pk = none ↔ subject.applies dependent = false := by
  rw [(subject.on rows).result_of_mem dependent listed,
    (subject.on rows).turn_of_none _ dependent absent]
  have applies : (subject.on rows).applies dependent = subject.applies dependent := rfl
  rw [applies]
  cases subject.applies dependent <;> simp

theorem resync_inactive (listed : dependent ∈ settings.catalogue.definitions)
    (inactive : dependent.isActive = false) (count : Nat) (rows : Instances) :
    (resync settings today file)^[count] rows dependent.pk = rows dependent.pk := by
  induction count generalizing rows with
  | zero => rfl
  | succ count inductionHypothesis =>
      rw [Function.iterate_succ_apply, inductionHypothesis]
      apply SyncSubject.result_of_not_mem
      intro visited
      obtain ⟨other, inForce, samePk⟩ := List.mem_map.mp visited
      obtain ⟨otherListed, isActive⟩ := settings.catalogue.mem_active.mp inForce
      rw [settings.catalogue.eq_of_pk_eq otherListed listed samePk, inactive] at isActive
      cases isActive

/-- Overwriting a prerequisite by a row that blocks now as it will block leaves the rest settled. -/
theorem settledApart_overwritten {written : RequirementInstance} {pk : Pk}
    (apart : subject.SettledApart dependent rows)
    (itself : ∀ prerequisite ∈ subject.catalogue.active, prerequisite.pk ≠ dependent.pk →
      prerequisite.pk = pk →
        blocks prerequisite written = subject.stillBlocks prerequisite (some written)) :
    subject.SettledApart dependent (Function.update rows pk (some written)) := by
  intro prerequisite active notDependent
  unfold SyncSubject.Settled
  rw [SyncSubject.on_existing]
  by_cases self : prerequisite.pk = pk
  · rw [self, Function.update_self]
    exact itself prerequisite active notDependent self
  · rw [Function.update_of_ne self]
    exact apart prerequisite active notDependent

/-- A dependent that a sync leaves as it is, through a sync with its gate opened and another with
the gate as it was: it is back as it was, unless it was let go on both occasions and may have been
redated by the first. -/
theorem turned_back {start first second : Instances} {between last : RequirementInstance}
    {outside : Bool} (noDeadline : before.status = .notApplicable → before.dueOn = none)
    (resynced : (subject.on start).Resynced dependent before before)
    (resyncedFirst : (subject.on first).Resynced dependent before between)
    (resyncedSecond : (subject.on second).Resynced dependent between last)
    (woken : before.status = .notApplicable → (subject.on start).held dependent = false →
      before.status = .notStarted)
    (wokenFirst : before.status = .notApplicable → (subject.on first).held dependent = false →
      between.status = .notStarted)
    (heldFirst : (subject.on first).held dependent = outside)
    (heldSecond : (subject.on second).held dependent = (subject.on start).held dependent)
    (within : (subject.on start).held dependent = false → outside = false) :
    last.status = before.status ∧ last.dueOn = before.dueOn ∨
      before.status.isOutstanding = true ∧ (subject.on start).held dependent = false ∧
        between = (subject.on first).redated dependent before ∧
        last = (subject.on second).redated dependent between := by
  by_cases decided : before.status = .complete ∨ before.status = .waived
  · obtain rfl := resyncedFirst.decided decided
    obtain rfl := resyncedSecond.decided decided
    exact .inl ⟨rfl, rfl⟩
  by_cases parked : before.status = .notApplicable
  · have heldStart : (subject.on start).held dependent = true := by
      by_contra free
      have started := woken parked (by simpa using free)
      rw [parked] at started
      cases started
    cases gateAlone : outside with
    | false =>
        -- the gate alone held it: the completion opens it, and the undo closes it again
        have outstanding : between.status.isOutstanding = true := by
          rw [wokenFirst parked (heldFirst.trans gateAlone)]
          rfl
        obtain ⟨reason, rfl⟩ := resyncedSecond.parked outstanding (heldSecond.trans heldStart)
        left
        constructor
        · simp [holdNotApplicable, parked]
        · simp [holdNotApplicable, noDeadline parked]
    | true =>
        obtain rfl := resyncedFirst.stays parked (heldFirst.trans gateAlone)
        obtain rfl := resyncedSecond.stays parked (heldSecond.trans heldStart)
        exact .inl ⟨rfl, rfl⟩
  · have outstanding := RequirementStatus.isOutstanding_of_undecided decided parked
    have free : (subject.on start).held dependent = false := by
      by_contra holds
      obtain ⟨reason, same⟩ := resynced.parked outstanding (by simpa using holds)
      exact holdNotApplicable_ne outstanding same.symm
    have redated := resyncedFirst.released outstanding (heldFirst.trans (within free))
    have stillOutstanding : between.status.isOutstanding = true := by
      obtain ⟨_, _, written⟩ := (subject.on first).redated_eq dependent before
      rw [redated, written]
      exact outstanding
    exact .inr ⟨outstanding, free, redated,
      resyncedSecond.released stillOutstanding (heldSecond.trans free)⟩

theorem completions_putBack {pk : Pk} {written back : RequirementInstance}
    (present : rows pk = some row) (same : back.completedOn = row.completedOn) (other : Pk) :
    (Function.update (subject.on (Function.update rows pk (some written))).result.1 pk
        (some back) other).bind (·.completedOn) = (rows other).bind (·.completedOn) := by
  by_cases self : other = pk
  · subst self
    rw [Function.update_self, present]
    exact same
  · rw [Function.update_of_ne self]
    refine ((subject.on _).result_completedOn other).trans ?_
    rw [SyncSubject.on_existing, Function.update_of_ne self]

/-- Completing a requirement and undoing it, on what is gated behind it, where a sync had settled
the volunteer's instances. -/
theorem dependent_undone {marked back : RequirementInstance} {completedOn : Date}
    (settled : synced settings today file = file)
    (coherent : CoherentRows file.requirementInstances)
    (listed : definition ∈ settings.catalogue.definitions)
    (present : file.requirementInstances definition.pk = some row)
    (unwaived : row.status ≠ .waived) (unparked : row.status ≠ .notApplicable)
    (completed : marked.completedOn = some completedOn)
    (same : SameFields (reinstatedRow today row) back)
    (inForce : dependent ∈ settings.catalogue.active) (gated : dependent.isGated = true)
    (follows : dependent.mustFollow = some definition.pk)
    (other : dependent.pk ≠ definition.pk) {rows : Instances}
    (undone : rows = resync settings today file (Function.update
      (resync settings today file (Function.update file.requirementInstances definition.pk
        (some marked))) definition.pk (some back))) :
    (rows dependent.pk).map (·.status) =
        (file.requirementInstances dependent.pk).map (·.status) ∧
      ((∀ before, file.requirementInstances dependent.pk = some before →
          ¬BringsForward dependent completedOn before) →
        (rows dependent.pk).bind (·.dueOn) =
          (file.requirementInstances dependent.pk).bind (·.dueOn)) := by
  let subject := syncSubject settings today file
  let start := file.requirementInstances
  let first := Function.update start definition.pk (some marked)
  let second := Function.update (resync settings today file first) definition.pk (some back)
  have fixed : resync settings today file start = start :=
    congrArg VolunteerFile.requirementInstances settled
  obtain ⟨blocksBack, stillBlocksBack⟩ := @blocks_alike today definition subject row back same
    (coherent _ _ present) unwaived unparked
  -- every prerequisite but the dependent itself is settled before each of the three syncs
  have apart : subject.SettledApart dependent start := settledApart_of_synced settled
  have apartFirst : subject.SettledApart dependent first := by
    apply settledApart_overwritten apart
    intro prerequisite _ _ _
    simp [blocks, SyncSubject.stillBlocks, completed]
  have apartSecond : subject.SettledApart dependent second := by
    apply settledApart_overwritten (SyncSubject.SettledApart.synced first)
    intro prerequisite active notDependent self
    obtain rfl := settings.catalogue.eq_of_pk_eq (settings.catalogue.mem_active.mp active).1
      listed self
    have blockedBefore := apart prerequisite active notDependent
    unfold SyncSubject.Settled at blockedBefore
    simp only [SyncSubject.on_existing, start, present, Option.any_some] at blockedBefore
    rw [blocksBack, blockedBefore]
    exact stillBlocksBack.symm
  have held : ∀ rows : Instances, (subject.on rows).held dependent =
      (!subject.applies dependent || subject.exempt dependent ||
        definition.isActive && subject.stillBlocks definition (rows definition.pk)) :=
    fun rows => held_gated gated follows listed
  have heldFirst : (subject.on first).held dependent =
      (!subject.applies dependent || subject.exempt dependent) := by
    rw [held first]
    simp [first, SyncSubject.stillBlocks, completed]
  have heldSecond : (subject.on second).held dependent = (subject.on start).held dependent := by
    rw [held second, held start]
    simp only [second, start, present, Function.update_self]
    rw [stillBlocksBack]
  have undoneHere : rows dependent.pk = (subject.on second).result.1 dependent.pk := by
    rw [undone]
  rw [undoneHere]
  cases current : file.requirementInstances dependent.pk with
  | none =>
      have foreign := (absent_turn inForce current).mp
        ((congrFun fixed dependent.pk).trans current)
      have firstAbsent : first dependent.pk = none :=
        (Function.update_of_ne other _ _).trans current
      have secondAbsent : second dependent.pk = none :=
        (Function.update_of_ne other _ _).trans ((absent_turn inForce firstAbsent).mpr foreign)
      rw [(absent_turn inForce secondAbsent).mpr foreign]
      exact ⟨rfl, fun _ => rfl⟩
  | some before =>
      obtain ⟨still, stillThere, resynced, switched⟩ := settled_turn inForce apart current
      obtain rfl : before = still :=
        Option.some.inj ((current.symm.trans (congrFun fixed dependent.pk).symm).trans stillThere)
      have firstThere : first dependent.pk = some before :=
        (Function.update_of_ne other _ _).trans current
      obtain ⟨between, betweenThere, resyncedFirst, switchedFirst⟩ :=
        settled_turn inForce apartFirst firstThere
      have secondThere : second dependent.pk = some between :=
        (Function.update_of_ne other _ _).trans betweenThere
      obtain ⟨last, lastThere, resyncedSecond, _⟩ :=
        settled_turn inForce apartSecond secondThere
      have within : (subject.on start).held dependent = false →
          (!subject.applies dependent || subject.exempt dependent) = false := by
        intro free
        rw [held start, Bool.or_eq_false_iff] at free
        exact free.1
      rw [lastThere]
      rcases turned_back (coherent _ _ current).parked resynced resyncedFirst resyncedSecond
          (fun parked free => (switched parked free).1)
          (fun parked free => (switchedFirst parked free).1) heldFirst heldSecond within with
        ⟨sameStatus, sameDue⟩ | ⟨outstanding, free, betweenIs, lastIs⟩
      · exact ⟨congrArg some sameStatus, fun _ => sameDue⟩
      · obtain ⟨dueOn, dueReason, redated⟩ := (subject.on first).redated_eq dependent before
        obtain ⟨_, _, redatedAgain⟩ := (subject.on second).redated_eq dependent between
        constructor
        · rw [lastIs, redatedAgain, betweenIs, redated]
          rfl
        · intro stays
          have kept := @redated_of_not_bringsForward definition dependent subject first before
            marked completedOn follows listed completed (Function.update_self _ _ _) outstanding
            (stays before rfl)
          have completions := @completions_putBack subject start row definition.pk marked back
            present (same.completedOn.trans (by simp))
          rw [lastIs, betweenIs.trans kept, SyncSubject.redated_congr completions,
            ← resynced.released outstanding free]

end Dependents

/-- What becomes of the requirements gated on one that is completed on a day and sent back: each
reads as it did, and keeps its deadline unless that day brought it forward. -/
def KeepsDependents (settings : Settings) (definition : RequirementDefinition) (completedOn : Date)
    (file after : VolunteerFile) : Prop :=
  ∀ dependent ∈ settings.catalogue.definitions, dependent.isGated = true →
    dependent.mustFollow = some definition.pk → dependent.pk ≠ definition.pk →
      (after.requirementInstances dependent.pk).map (·.status) =
          (file.requirementInstances dependent.pk).map (·.status) ∧
        ((∀ row, file.requirementInstances dependent.pk = some row →
            ¬BringsForward dependent completedOn row) →
          (after.requirementInstances dependent.pk).bind (·.dueOn) =
            (file.requirementInstances dependent.pk).bind (·.dueOn))

/-- Sending back a completion gives the requirement back its dates and the status they give, and
leaves what is gated on it as it was. -/
theorem completion_undo {ambient later : Ambient} {user : Core.User} {completedOn : Date}
    {notes reason : String} {file completed : VolunteerFile} {undone : Work} {outcome : Outcome}
    {definition : RequirementDefinition} {row : RequirementInstance} (volunteer : Volunteer)
    (requests : List Request)
    (reached : Machine.run step (.opened volunteer.deriveBirth) requests = file)
    (listed : definition ∈ ambient.settings.catalogue.definitions)
    (present : file.requirementInstances definition.pk = some row)
    (markable : row.canMarkComplete definition = true)
    (sameSettings : later.settings = ambient.settings) (sameDay : later.today = ambient.today)
    (marked : markRequirementComplete ambient definition.pk completedOn notes true file =
      .ok completed)
    (sentBack : sendBack later user file.reviewItems.length reason completed =
      .ok (undone, outcome)) :
    outcome.reverted = true ∧
      ∃ restored, (undone.commit later).requirementInstances definition.pk = some restored ∧
        PutBack ambient.settings ambient.today file definition row restored ∧
        (synced ambient.settings ambient.today file = file →
          KeepsDependents ambient.settings definition completedOn file (undone.commit later)) := by
  obtain ⟨unwaived, unparked⟩ := open_of_canMarkComplete markable
  obtain ⟨reverted, back, same, started, rows⟩ :=
    completion_sentBack listed present sameSettings sameDay marked sentBack
  obtain ⟨restored, there, putBack, _⟩ := rewritten_row listed present unwaived same started
    (row.markComplete definition completedOn notes)
  refine ⟨reverted, restored, ?_, putBack, ?_⟩
  · rw [rows]
    exact there
  · intro settled dependent dependentListed gated follows other
    cases isActive : dependent.isActive
    · have untouched : (undone.commit later).requirementInstances dependent.pk =
          file.requirementInstances dependent.pk := by
        rw [rows, resync_inactive dependentListed isActive, Function.update_of_ne other,
          resync_inactive dependentListed isActive, Function.update_of_ne other]
      rw [untouched]
      exact ⟨rfl, fun _ => rfl⟩
    · have inForce : dependent ∈ ambient.settings.catalogue.active :=
        ambient.settings.catalogue.mem_active.mpr ⟨dependentListed, isActive⟩
      have gate : dependent.dependencyMode = .gate := by
        simp only [RequirementDefinition.isGated, Bool.and_eq_true, beq_iff_eq] at gated
        exact gated.1
      have dependents : hasDependents ambient.settings definition.pk = true :=
        List.any_eq_true.mpr ⟨dependent, dependentListed, by simp [follows, gate, isActive]⟩
      have once : refreshes ambient.settings definition.pk = 1 := if_pos dependents
      rw [once] at rows
      have coherent : CoherentRows file.requirementInstances :=
        reached ▸ run_coherent volunteer requests
      exact dependent_undone settled coherent listed present unwaived unparked rfl same inForce
        gated follows other rows

def onMarch (catalogue : Catalogue) (day : Nat) : Ambient :=
  Sample.byPrimaryAdmin catalogue (Sample.march day)

def onMarchScoped (catalogue : Catalogue) (day : Nat) : Ambient :=
  Sample.byDepartmentAdmin catalogue (Sample.march day)

def placing (catalogue : Catalogue) (day : Nat) : Request :=
  ⟨onMarch catalogue day, .assignmentCreate Sample.primaryAdmin 1 (Sample.march day)⟩

def placedFile : VolunteerFile :=
  Machine.run step (.opened Sample.adult.deriveBirth) [placing orientationAndRefresher 1]

theorem completion_undo_placed :
    ∃ completed undone outcome,
      markRequirementComplete (onMarchScoped orientationAndRefresher 1) 1 (Sample.january 5) "" true
        placedFile = .ok completed ∧
      sendBack (onMarch orientationAndRefresher 1) Sample.primaryAdmin 0 "Wrong date" completed =
        .ok (undone, outcome) ∧ outcome.reverted = true ∧
      ∃ restored, (undone.commit (onMarch orientationAndRefresher 1)).requirementInstances 1 =
          some restored ∧
        PutBack (Sample.settings orientationAndRefresher) (Sample.march 1) placedFile
          (Sample.requirement 1 "Orientation training" 100) .fresh restored ∧
        (synced (Sample.settings orientationAndRefresher) (Sample.march 1) placedFile = placedFile →
          KeepsDependents (Sample.settings orientationAndRefresher)
            (Sample.requirement 1 "Orientation training" 100) (Sample.january 5) placedFile
              (undone.commit (onMarch orientationAndRefresher 1))) := by
  refine ⟨_, _, _, rfl, rfl, ?_⟩
  exact @completion_undo (onMarchScoped orientationAndRefresher 1)
    (onMarch orientationAndRefresher 1) Sample.primaryAdmin (Sample.january 5) "" "Wrong date"
    placedFile _ _ _ (Sample.requirement 1 "Orientation training" 100) .fresh Sample.adult
    [placing orientationAndRefresher 1] rfl (List.mem_cons_self ..) rfl rfl rfl rfl rfl rfl

def restartedFile : VolunteerFile :=
  Machine.run step (.opened Sample.adult.deriveBirth)
    [placing Sample.orientationOnly 1, ⟨onMarch Sample.orientationOnly 1, .startRequirement 1⟩,
      ⟨onMarch Sample.orientationOnly 2,
        .assignmentEnd Sample.primaryAdmin 0 (some (Sample.march 2))⟩,
      ⟨onMarch Sample.orientationOnly 3, .volunteerReactivate Sample.primaryAdmin⟩,
      placing Sample.orientationOnly 3]

/-- The requirement that was not started again reads in progress once a completion has been sent
back. -/
theorem completion_undo_restarted :
    ∃ completed undone outcome row restored,
      restartedFile.requirementInstances 1 = some row ∧
      row.canMarkComplete Sample.orientation = true ∧
      markRequirementComplete (onMarchScoped Sample.orientationOnly 4) 1 (Sample.march 4) "" true
        restartedFile = .ok completed ∧
      sendBack (onMarch Sample.orientationOnly 4) Sample.primaryAdmin 0 "Wrong date" completed =
        .ok (undone, outcome) ∧
      (undone.commit (onMarch Sample.orientationOnly 4)).requirementInstances 1 = some restored ∧
      (row.recompute (Sample.march 4)).status = .notStarted ∧ restored.status = .inProgress :=
  ⟨_, _, _, _, _, rfl, rfl, rfl, rfl, rfl, rfl, rfl⟩

/-- Sending back a waiver gives the requirement back its dates and the status they give, and
clears the waiver. -/
theorem waiver_undo {ambient later : Ambient} {user : Core.User} {why waivedBy reason : String}
    {file waived : VolunteerFile} {undone : Work} {outcome : Outcome}
    {definition : RequirementDefinition} {row : RequirementInstance}
    (listed : definition ∈ ambient.settings.catalogue.definitions)
    (present : file.requirementInstances definition.pk = some row)
    (unwaived : row.status ≠ .waived)
    (sameSettings : later.settings = ambient.settings) (sameDay : later.today = ambient.today)
    (waives : waiveRequirement ambient definition.pk why waivedBy file = .ok waived)
    (sentBack : sendBack later user file.reviewItems.length reason waived =
      .ok (undone, outcome)) :
    outcome.reverted = true ∧
      ∃ restored, (undone.commit later).requirementInstances definition.pk = some restored ∧
        PutBack ambient.settings ambient.today file definition row restored ∧
        restored.waivedReason = "" ∧ restored.waivedBy = "" ∧ restored.waivedOn = none := by
  obtain ⟨reverted, rows⟩ :=
    waiver_sentBack listed present sameSettings sameDay waives sentBack
  have same := unwaivedRow_sameFields row why waivedBy ambient.today
  obtain ⟨restored, there, putBack, cleared⟩ := rewritten_row listed present unwaived same
    (RequirementInstance.recompute_startedOn _ _)
    (waivedRow row why waivedBy ambient.today)
  refine ⟨reverted, restored, ?_, putBack, ?_⟩
  · rw [rows]
    exact there
  · rw [RequirementInstance.recompute_eq] at cleared
    exact ⟨cleared.1.symm, cleared.2.1.symm, cleared.2.2.symm⟩

theorem waiver_undo_placed :
    ∃ waived undone outcome,
      waiveRequirement (onMarchScoped orientationAndRefresher 1) 1 "Trained elsewhere" "A"
          placedFile = .ok waived ∧
      sendBack (onMarch orientationAndRefresher 1) Sample.primaryAdmin 0 "Not here" waived =
        .ok (undone, outcome) ∧ outcome.reverted = true ∧
      ∃ restored, (undone.commit (onMarch orientationAndRefresher 1)).requirementInstances 1 =
          some restored ∧
        PutBack (Sample.settings orientationAndRefresher) (Sample.march 1) placedFile
          (Sample.requirement 1 "Orientation training" 100) .fresh restored ∧
        restored.waivedReason = "" ∧ restored.waivedBy = "" ∧ restored.waivedOn = none := by
  refine ⟨_, _, _, rfl, rfl, ?_⟩
  exact @waiver_undo (onMarchScoped orientationAndRefresher 1) (onMarch orientationAndRefresher 1)
    Sample.primaryAdmin "Trained elsewhere" "A" "Not here" placedFile _ _ _
    (Sample.requirement 1 "Orientation training" 100) .fresh (List.mem_cons_self ..) rfl
    (by decide) rfl rfl rfl rfl

def leftFile : VolunteerFile :=
  Machine.run step (.opened Sample.adult.deriveBirth)
    [placing Sample.orientationOnly 1, ⟨onMarch Sample.orientationOnly 2,
      .assignmentEnd Sample.primaryAdmin 0 (some (Sample.march 2))⟩]

/-- The requirement that did not apply reads not started once a waiver has been sent back. -/
theorem waiver_undo_parked :
    ∃ waived undone outcome row restored,
      leftFile.requirementInstances 1 = some row ∧ row.status ≠ .waived ∧
      waiveRequirement (onMarchScoped Sample.orientationOnly 3) 1 "Trained elsewhere" "A" leftFile =
        .ok waived ∧
      sendBack (onMarch Sample.orientationOnly 3) Sample.primaryAdmin 0 "Not here" waived =
        .ok (undone, outcome) ∧
      (undone.commit (onMarch Sample.orientationOnly 3)).requirementInstances 1 = some restored ∧
      (row.recompute (Sample.march 3)).status = .notApplicable ∧ restored.status = .notStarted :=
  ⟨_, _, _, _, _, rfl, by decide, rfl, rfl, rfl, rfl, rfl⟩

end VolunteerScreening
