import VolunteerScreening.Documents.Recording
import VolunteerScreening.Operations
import VolunteerScreening.Requirements.Resyncing

/-!
# Recording a document is all or nothing

Whatever refuses, a service or the database, and however far the writes have
come: an exception leaves every row as it was.  Without one the document is
stored, and the requirement it backs is completed at the document's date or left
alone.
-/

namespace VolunteerScreening.Results

open Calendar Documents Documents.Recording Fallible Org Requirements Savepoints.Transaction

/-- A document never touches these: the record check, and what an administrator has ruled on or
a check's outcome holds up. -/
def OutOfReach (definition : RequirementDefinition) (row : RequirementInstance) : Prop :=
  definition.isCrc = true ∨ row.status = .waived ∨ row.status = .notApplicable ∨
    row.status = .blocked

theorem document_documentDate {entry : DocumentEntry} {settings : Settings} {document : Document}
    (formed : entry.document settings = .ok document) :
    document.documentDate = entry.documentDate := by
  unfold DocumentEntry.document at formed
  dsimp only at formed
  split at formed
  · split at formed
    · cases formed
    · obtain ⟨_, _, finished⟩ := bind_eq_ok_iff.mp formed
      cases finished
      rfl
  · split at formed <;> cases formed
    rfl
  · cases formed
    rfl

theorem refreshed_completion (ambient : Ambient) {pk : Pk} {definition : RequirementDefinition}
    (listed : ambient.settings.catalogue.get pk = some definition) (opened : VolunteerFile)
    (row : RequirementInstance) (completedOn : Date) :
    (refreshDependents ambient.settings ambient.today pk
        (opened.saveInstance pk (row.markComplete definition completedOn ""))).requirementInstances
      pk = some (row.markComplete definition completedOn "") := by
  obtain ⟨found, rfl⟩ := ambient.settings.catalogue.get_some listed
  rw [refreshDependents_row found (opened.saveInstance_self _ _)]
  split
  · rw [SyncSubject.reconciled_of_decided]
    exact .inl rfl
  · rfl

/-- On a database that takes every write, recording a document is the request's step. -/
theorem runOn_storeDocument (ambient : Ambient) {entry : DocumentEntry} {file : VolunteerFile}
    (onFile : ∀ replaced ∈ entry.supersedes, replaced < file.documents.length) :
    ((storeDocument .none ambient entry).runOn file).2 =
      step file ⟨ambient, .storeDocument entry⟩ := by
  have whole : AllOrNothing (storeDocument .none ambient entry) := atomic_allOrNothing _
  have written := committed_storeDocument ambient onFile
  rw [whole.runOn_eq]
  dsimp only
  cases outcome : Documents.storeDocument ambient entry file with
  | error refusal =>
      rw [outcome] at written
      rw [Machine.attempt_error written]
      have refused : perform ambient (.storeDocument entry) file = .error refusal := by
        simp [perform, outcome, Except.map]
      obtain ⟨_, same⟩ | ⟨work, success, _⟩ := step_cases file ⟨ambient, .storeDocument entry⟩
      · exact same.symm
      · rw [refused] at success
        cases success
  | ok after =>
      rw [outcome] at written
      rw [Machine.attempt_ok written]
      have recorded : step file ⟨ambient, .storeDocument entry⟩ =
          (Work.start after).commit ambient :=
        step_of_ok (by simp [perform, outcome, Except.map])
      exact recorded.symm

/-- Whatever refuses and wherever: an exception changes nothing, a document that is recorded is
stored, and the instance it backs is completed or left alone. -/
theorem storeDocument_all_or_nothing (faults : Faults) (ambient : Ambient)
    (entry : DocumentEntry) (file : VolunteerFile) :
    let ended := (storeDocument faults ambient entry).runOn file
    (∀ raised, ended.1 = .error raised → ended.2 = file) ∧
      (∀ document, ended.1 = .ok document →
        entry.document ambient.settings = .ok document ∧
          ended.2.documents = markReplaced file.documents.length entry.supersedes
            (file.documents ++ [document])) ∧
      ∀ pk definition row, entry.requirementInstance = some pk →
        ambient.settings.catalogue.get pk = some definition →
        file.requirementInstances pk = some row →
        (ended.2.requirementInstances pk = some row ∨
          ended.2.requirementInstances pk = some
            (row.markComplete definition (entry.documentDate.getD ambient.today) "")) ∧
          (OutOfReach definition row → ended.2.requirementInstances pk = some row) := by
  intro ended
  have restored : ∀ raised, ended.1 = .error raised → ended.2 = file := fun raised fails =>
    atomic_allOrNothing _ file raised ended.2 (Prod.ext fails rfl)
  have rows (document : Document) (succeeds : ended.1 = .ok document) :=
    storeDocument_rows (committed_eq_ok_iff.mpr (Prod.ext succeeds rfl :
      (storeDocument faults ambient entry).runOn file = (.ok document, ended.2)))
  refine ⟨restored, fun document succeeds => ?_, fun pk definition row target listed present => ?_⟩
  · obtain ⟨formed, stored, _⟩ := rows document succeeds
    exact ⟨formed, stored⟩
  · cases outcome : ended.1 with
    | error raised =>
        rw [restored raised outcome]
        exact ⟨.inl present, fun _ => present⟩
    | ok document =>
        obtain ⟨formed, _, same | ⟨pk', definition', row', opened, target', listed', present',
          notCrc, notWaived, applicable, unblocked, written⟩⟩ := rows document outcome
        · rw [same]
          exact ⟨.inl present, fun _ => present⟩
        · rw [target] at target'
          cases target'
          rw [listed] at listed'
          cases listed'
          rw [present] at present'
          cases present'
          rw [document_documentDate formed] at written
          constructor
          · rw [written, refreshed_completion ambient listed]
            exact .inr rfl
          · rintro (isCrc | waived | notApplicable | blocked)
            · rw [notCrc] at isCrc
              cases isCrc
            · exact absurd waived notWaived
            · exact absurd notApplicable applicable
            · exact absurd blocked unblocked

end VolunteerScreening.Results
