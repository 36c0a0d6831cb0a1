import VolunteerScreening.Documents.Services
import VolunteerScreening.Library.Savepoints

/-!
# The writes of recording a document

Recording a document writes rows one after another inside one transaction, and
completes a requirement inside a savepoint of it.  Here the writes stand in the
order they are made, and the database may refuse any of them.
-/

namespace VolunteerScreening.Documents.Recording

open Calendar Fallible Org Requirements Review Savepoints Savepoints.Transaction

/-- What ends a service early: a refusal of its own, or an exception of what it runs on. -/
inductive Raised where
  | refusal (refusal : Refusal)
  | integrityError
  | other (exception : String)
  deriving DecidableEq, Repr

/-- The writes that may raise instead of going through. -/
inductive Write where
  | encryptedFile
  | document
  | superseded
  | requirement
  | completionAudit
  | dependents
  | uploadAudit
  | closedItem
  | reviewItem
  | reviewAudit
  deriving DecidableEq, Repr

abbrev Faults := Write → Option Raised

def Faults.none : Faults := fun _ => .none

@[simp]
theorem Faults.none_apply (write : Write) : Faults.none write = .none := rfl

abbrev Service (Result : Type) := Transaction Raised VolunteerFile Result

def check {Result : Type} (outcome : VolunteerFile → Except Refusal Result) : Service Result :=
  read fun file => (outcome file).mapError .refusal

@[simp]
theorem committed_check {Result : Type} (outcome : VolunteerFile → Except Refusal Result)
    (file : VolunteerFile) :
    (check outcome).committed file =
      ((outcome file).mapError .refusal).map fun result => (result, file) := rfl

theorem check_bind_eq_ok_iff {Result Next : Type}
    {outcome : VolunteerFile → Except Refusal Result} {rest : Result → Service Next}
    {file : VolunteerFile} {done : Next × VolunteerFile} :
    (check outcome >>= rest).committed file = .ok done ↔
      ∃ result, outcome file = .ok result ∧ (rest result).committed file = .ok done := by
  simp only [check, read_bind_eq_ok_iff, mapError_eq_ok_iff]

/-- Insert a review item inside a savepoint, and say whether it was.  Where the table refuses it,
another request's item is the open one, and nothing is recorded. -/
def createItem (faults : Faults) (ambient : Ambient) (entry : Entry) (before : VolunteerFile)
    (items : List ReviewItem) : Service Bool :=
  tryCatch
    (do
      atomic (write (faults .reviewItem)
        ({ · with reviewItems := insertItem ambient entry before items }))
      return true)
    fun
      | .integrityError => return false
      | raised => throw raised

def openIfUnverified (faults : Faults) (ambient : Ambient) (entry : Entry) : Service Unit := do
  if ambient.actor.needsReview then
    let before ← check .ok
    let items ← check (supersedeOpen ambient.now entry.entity)
    write (faults .closedItem) ({ · with reviewItems := items })
    let inserted ← createItem faults ambient entry before items
    raise (if inserted then faults .reviewAudit else none)

/-- Record a requirement as satisfied, from a document: no item is opened for it alone. -/
def markRequirementComplete (faults : Faults) (ambient : Ambient) (pk : Pk) (completedOn : Date) :
    Service Unit := atomic do
  let (definition, row) ← check (fetchInstance ambient pk)
  check (refuseSelfRecording ambient)
  check fun _ => refuseIf (row.status = .blocked)
    (Refusal.invalid ("This requirement is blocked pending the outcome of a criminal record " ++
      "check and cannot be marked complete."))
  check fun _ => refuseIf (ambient.today < completedOn)
    (Refusal.field "completed_on" "Cannot be in the future.")
  write (faults .requirement) (·.saveInstance pk (row.markComplete definition completedOn ""))
  raise (faults .completionAudit)
  write (faults .dependents) (refreshDependents ambient.settings ambient.today pk)

/-- Complete the requirement a document backs, and say whether it was.  A validation error is
logged and leaves the requirement alone; any other exception goes on. -/
def completeBackingRequirement (faults : Faults) (ambient : Ambient) (document : Document) :
    Option Pk → Service Bool
  | none => pure false
  | some pk => atomic do
      let (definition, row) ← check (fetchInstance ambient pk)
      if definition.isCrc ∨ row.status = .waived ∨ row.status = .notApplicable ∨
          row.status = .blocked then
        return false
      else
        tryCatch
          (do
            markRequirementComplete faults ambient pk (document.documentDate.getD ambient.today)
            return true)
          fun
            | .refusal (.validation _) => return false
            | raised => throw raised

def markReplaced (position : Nat) (supersedes : Option Nat) (documents : List Document) :
    List Document :=
  match supersedes with
  | none => documents
  | some replaced => documents.modify replaced (·.supersedeWith position)

def supersede (faults : Faults) (position : Nat) (supersedes : Option Nat) : Service Unit :=
  match supersedes with
  | none => pure ()
  | some replaced =>
      write (faults .superseded) fun file =>
        { file with documents := markReplaced position (some replaced) file.documents }

def storeDocument (faults : Faults) (ambient : Ambient) (entry : DocumentEntry) :
    Service Document := atomic do
  let before ← check .ok
  check (refuseSelfRecording ambient)
  let document ← check fun _ => entry.document ambient.settings
  raise (if document.hasFile then faults .encryptedFile else none)
  check fun _ => document.fullClean ambient.settings.isUrl
  write (faults .document) fun file => { file with documents := file.documents ++ [document] }
  supersede faults before.documents.length entry.supersedes
  let completed ← completeBackingRequirement faults ambient document entry.requirementInstance
  raise (faults .uploadAudit)
  openIfUnverified faults ambient
    (documentEntry document completed entry.requirementInstance before)
  return document

/-! ## What each service writes, whatever the database refuses -/

section Writes

variable {faults : Faults} {ambient : Ambient} {file after : VolunteerFile}

theorem createItem_rows {entry : Entry} {before : VolunteerFile} {items : List ReviewItem}
    {inserted : Bool}
    (success : (createItem faults ambient entry before items).committed file =
      .ok (inserted, after)) :
    after = { file with reviewItems := after.reviewItems } := by
  have whole : AllOrNothing (atomic (write (faults .reviewItem)
      (fun file : VolunteerFile =>
        { file with reviewItems := insertItem ambient entry before items }))) :=
    atomic_allOrNothing _
  unfold createItem at success
  rw [(whole.andReturn true).committed_tryCatch, committed_bind, committed_atomic] at success
  cases written : faults .reviewItem with
  | none =>
      rw [written, committed_write_none] at success
      cases success
      rfl
  | some raised =>
      rw [written] at success
      cases raised with
      | integrityError =>
          cases success
          rfl
      | refusal => cases success
      | other => cases success

theorem openIfUnverified_rows {entry : Entry} {done : Unit}
    (success : (openIfUnverified faults ambient entry).committed file = .ok (done, after)) :
    after.documents = file.documents ∧
      after.requirementInstances = file.requirementInstances := by
  unfold openIfUnverified at success
  cases review : ambient.actor.needsReview with
  | false =>
      rw [review] at success
      cases success
      exact ⟨rfl, rfl⟩
  | true =>
      rw [review, if_pos rfl] at success
      obtain ⟨before, _, success⟩ := check_bind_eq_ok_iff.mp success
      obtain ⟨items, _, success⟩ := check_bind_eq_ok_iff.mp success
      obtain ⟨_, success⟩ := write_bind_eq_ok_iff.mp success
      rw [committed_bind] at success
      obtain ⟨⟨inserted, queued⟩, inserting, success⟩ := bind_eq_ok_iff.mp success
      obtain ⟨_, rfl⟩ := committed_raise_eq_ok_iff.mp success
      rw [createItem_rows inserting]
      exact ⟨rfl, rfl⟩

theorem markRequirementComplete_rows {pk : Pk} {completedOn : Date} {done : Unit}
    (success : (markRequirementComplete faults ambient pk completedOn).committed file =
      .ok (done, after)) :
    ∃ definition row, ambient.settings.catalogue.get pk = some definition ∧
      file.requirementInstances pk = some row ∧
      after = refreshDependents ambient.settings ambient.today pk
        (file.saveInstance pk (row.markComplete definition completedOn "")) := by
  unfold markRequirementComplete at success
  rw [committed_atomic] at success
  obtain ⟨⟨definition, row⟩, found, success⟩ := check_bind_eq_ok_iff.mp success
  obtain ⟨_, _, success⟩ := check_bind_eq_ok_iff.mp success
  obtain ⟨_, _, success⟩ := check_bind_eq_ok_iff.mp success
  obtain ⟨_, _, success⟩ := check_bind_eq_ok_iff.mp success
  obtain ⟨_, success⟩ := write_bind_eq_ok_iff.mp success
  obtain ⟨_, success⟩ := raise_bind_eq_ok_iff.mp success
  obtain ⟨_, rfl⟩ := committed_write_eq_ok_iff.mp success
  obtain ⟨listed, present⟩ := fetchInstance_eq_ok_iff.mp found
  exact ⟨definition, row, listed, present, rfl⟩

theorem supersede_rows {position : Nat} {supersedes : Option Nat} {done : Unit}
    (success : (supersede faults position supersedes).committed file = .ok (done, after)) :
    after = { file with documents := markReplaced position supersedes file.documents } := by
  cases supersedes with
  | none =>
      cases success
      rfl
  | some replaced => exact (committed_write_eq_ok_iff.mp success).2

theorem completeBackingRequirement_rows {document : Document} {target : Option Pk}
    {completed : Bool}
    (success : (completeBackingRequirement faults ambient document target).committed file =
      .ok (completed, after)) :
    after = file ∨
      ∃ pk definition row, target = some pk ∧
        ambient.settings.catalogue.get pk = some definition ∧
        file.requirementInstances pk = some row ∧ definition.isCrc = false ∧
        row.status ≠ .waived ∧ row.status ≠ .notApplicable ∧ row.status ≠ .blocked ∧
        after = refreshDependents ambient.settings ambient.today pk
          (file.saveInstance pk
            (row.markComplete definition (document.documentDate.getD ambient.today) "")) := by
  cases target with
  | none =>
      cases success
      exact .inl rfl
  | some pk =>
      unfold completeBackingRequirement at success
      rw [committed_atomic] at success
      obtain ⟨⟨definition, row⟩, found, success⟩ := check_bind_eq_ok_iff.mp success
      obtain ⟨listed, present⟩ := fetchInstance_eq_ok_iff.mp found
      dsimp only at success listed present
      split at success
      · cases success
        exact .inl rfl
      · next completable =>
          simp only [not_or] at completable
          obtain ⟨notCrc, notWaived, applicable, unblocked⟩ := completable
          have whole : AllOrNothing (markRequirementComplete faults ambient pk
              (document.documentDate.getD ambient.today)) := atomic_allOrNothing _
          rw [(whole.andReturn true).committed_tryCatch] at success
          cases attempted : (markRequirementComplete faults ambient pk
              (document.documentDate.getD ambient.today) >>= fun _ => pure true).committed file with
          | error raised =>
              rw [attempted] at success
              obtain ⟨_ | _ | _⟩ | _ | _ := raised
              · cases success
                exact .inl rfl
              all_goals cases success
          | ok done =>
              rw [attempted] at success
              cases success
              rw [committed_bind] at attempted
              obtain ⟨⟨_, marked⟩, completion, finished⟩ := bind_eq_ok_iff.mp attempted
              cases finished
              obtain ⟨definition', row', listed', present', rfl⟩ :=
                markRequirementComplete_rows completion
              rw [listed] at listed'
              rw [present] at present'
              cases listed'
              cases present'
              exact .inr ⟨pk, definition, row, rfl, listed, present, by simpa using notCrc,
                notWaived, applicable, unblocked, rfl⟩

theorem storeDocument_rows {entry : DocumentEntry} {document : Document}
    (success : (storeDocument faults ambient entry).committed file = .ok (document, after)) :
    entry.document ambient.settings = .ok document ∧
      after.documents = markReplaced file.documents.length entry.supersedes
        (file.documents ++ [document]) ∧
      (after.requirementInstances = file.requirementInstances ∨
        ∃ pk definition row opened, entry.requirementInstance = some pk ∧
          ambient.settings.catalogue.get pk = some definition ∧
          file.requirementInstances pk = some row ∧ definition.isCrc = false ∧
          row.status ≠ .waived ∧ row.status ≠ .notApplicable ∧ row.status ≠ .blocked ∧
          after.requirementInstances =
            (refreshDependents ambient.settings ambient.today pk
              (VolunteerFile.saveInstance opened pk (row.markComplete definition
                (document.documentDate.getD ambient.today) ""))).requirementInstances) := by
  unfold storeDocument at success
  rw [committed_atomic] at success
  obtain ⟨before, read, success⟩ := check_bind_eq_ok_iff.mp success
  cases read
  obtain ⟨_, _, success⟩ := check_bind_eq_ok_iff.mp success
  obtain ⟨stored, formed, success⟩ := check_bind_eq_ok_iff.mp success
  obtain ⟨_, success⟩ := raise_bind_eq_ok_iff.mp success
  obtain ⟨_, _, success⟩ := check_bind_eq_ok_iff.mp success
  obtain ⟨_, success⟩ := write_bind_eq_ok_iff.mp success
  rw [committed_bind] at success
  obtain ⟨⟨_, replaced⟩, superseding, success⟩ := bind_eq_ok_iff.mp success
  rw [committed_bind] at success
  obtain ⟨⟨completed, backed⟩, backing, success⟩ := bind_eq_ok_iff.mp success
  obtain ⟨_, success⟩ := raise_bind_eq_ok_iff.mp success
  rw [committed_bind] at success
  obtain ⟨⟨_, queued⟩, opening, success⟩ := bind_eq_ok_iff.mp success
  rw [committed_pure] at success
  cases success
  obtain ⟨sameDocuments, sameInstances⟩ := openIfUnverified_rows opening
  have marked := supersede_rows superseding
  dsimp only at marked backing sameDocuments sameInstances
  subst marked
  obtain rfl | ⟨pk, definition, row, target, listed, present, notCrc, notWaived, applicable,
    unblocked, rfl⟩ := completeBackingRequirement_rows backing
  · exact ⟨formed, sameDocuments, .inl sameInstances⟩
  · refine ⟨formed, ?_, .inr ⟨pk, definition, row, _, target, listed, present, notCrc, notWaived,
      applicable, unblocked, sameInstances⟩⟩
    rw [sameDocuments, refreshDependents_eq]
    rfl

end Writes

/-! ## A database that takes every write -/

section Unbroken

variable (ambient : Ambient)

theorem committed_openIfUnverified (entry : Entry) (file : VolunteerFile) :
    (openIfUnverified .none ambient entry).committed file =
      ((Review.openIfUnverified ambient entry file).mapError .refusal).map fun after =>
        ((), after) := by
  unfold openIfUnverified Review.openIfUnverified Faults.none
  cases ambient.actor.needsReview with
  | false => rfl
  | true =>
      simp only [if_true, committed_bind, committed_check, bind_of_map, committed_write_none]
      cases supersedeOpen ambient.now entry.entity file <;> rfl

theorem committed_markRequirementComplete (pk : Pk) (completedOn : Date) (file : VolunteerFile) :
    (markRequirementComplete .none ambient pk completedOn).committed file =
      ((Requirements.markRequirementComplete ambient pk completedOn "" false file).mapError
        .refusal).map fun after => ((), after) := by
  unfold markRequirementComplete Requirements.markRequirementComplete Faults.none
  simp [mapError_bind, map_of_bind, bind_of_map, openReviewWhen_eq]
  rfl

theorem committed_completeBackingRequirement (document : Document) (target : Option Pk)
    (file : VolunteerFile) :
    (completeBackingRequirement .none ambient document target).committed file =
      ((Documents.completeBackingRequirement ambient document target file).mapError .refusal).map
        Prod.swap := by
  cases target with
  | none => rfl
  | some pk =>
      unfold completeBackingRequirement Documents.completeBackingRequirement
      simp only [committed_atomic, committed_bind, committed_check, mapError_bind, map_of_bind,
        bind_of_map]
      cases fetchInstance ambient pk file with
      | error refusal => rfl
      | ok found =>
          simp only [Except.mapError, ok_bind]
          split
          · rfl
          · have whole : AllOrNothing (markRequirementComplete .none ambient pk
                (document.documentDate.getD ambient.today)) := atomic_allOrNothing _
            rw [(whole.andReturn true).committed_tryCatch]
            simp only [committed_bind, committed_markRequirementComplete, bind_of_map]
            cases Requirements.markRequirementComplete ambient pk
                (document.documentDate.getD ambient.today) "" false file with
            | ok after => rfl
            | error refusal => cases refusal <;> rfl

theorem markReplaced_concat {file : VolunteerFile} {supersedes : Option Nat}
    (onFile : ∀ replaced ∈ supersedes, replaced < file.documents.length) (document : Document) :
    markReplaced file.documents.length supersedes (file.documents ++ [document]) =
      (addDocument document supersedes file).documents := by
  cases supersedes with
  | none => rfl
  | some replaced =>
      have earlier := onFile replaced rfl
      have listed : replaced < (file.documents ++ [document]).length := by
        rw [List.length_append]
        exact Nat.lt_add_right _ earlier
      change (file.documents ++ [document]).modify replaced _ =
        file.documents.modify replaced _ ++ [document]
      rw [List.modify_eq_take_cons_drop listed, List.modify_eq_take_cons_drop earlier,
        List.take_append_of_le_length earlier.le, List.drop_append_of_le_length earlier,
        List.getElem_append_left earlier, List.append_assoc, List.cons_append]

theorem committed_supersede {supersedes : Option Nat} {file : VolunteerFile}
    (onFile : ∀ replaced ∈ supersedes, replaced < file.documents.length) (document : Document) :
    (supersede .none file.documents.length supersedes).committed
        { file with documents := file.documents ++ [document] } =
      .ok ((), addDocument document supersedes file) := by
  have marked := markReplaced_concat onFile document
  cases supersedes with
  | none => rfl
  | some replaced =>
      unfold supersede
      rw [Faults.none_apply, committed_write_none]
      dsimp only
      rw [marked]
      rfl

/-- Write by write, recording a document comes to what the service does in one go. -/
theorem committed_storeDocument {entry : DocumentEntry} {file : VolunteerFile}
    (onFile : ∀ replaced ∈ entry.supersedes, replaced < file.documents.length) :
    ((storeDocument .none ambient entry).committed file).map Prod.snd =
      (Documents.storeDocument ambient entry file).mapError .refusal := by
  have uploaded (document : Document) :
      (if document.hasFile then Faults.none .encryptedFile else none) = none := ite_self none
  unfold storeDocument Documents.storeDocument
  simp only [committed_atomic, committed_bind, committed_check, mapError_bind, map_of_bind,
    bind_of_map, uploaded, committed_raise_none, ok_bind]
  change (refuseSelfRecording ambient file).mapError Raised.refusal >>= _ = _
  congr 1
  funext _
  congr 1
  funext document
  congr 1
  funext _
  rw [Faults.none_apply, committed_write_none, ok_bind, committed_supersede onFile document,
    ok_bind, committed_completeBackingRequirement, bind_of_map]
  congr 1
  funext ⟨after, completed⟩
  rw [Faults.none_apply, committed_raise_none, ok_bind, committed_openIfUnverified, bind_of_map]
  dsimp only [Prod.swap]
  cases Review.openIfUnverified ambient
    (documentEntry document completed entry.requirementInstance file) after <;> rfl

end Unbroken

end VolunteerScreening.Documents.Recording
