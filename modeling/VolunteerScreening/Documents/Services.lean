import VolunteerScreening.Requirements.Progress

/-!
# Recording a document

Recording the paperwork completes the requirement it backs.  One review item
covers both.
-/

namespace VolunteerScreening.Documents

open Calendar Fallible Org Requirements Review

structure DocumentEntry where
  title : String
  kind : DocumentKind
  upload : Option Upload
  externalUrl : String
  physicalLocation : String
  documentDate : Option Date
  notes : String
  requirementInstance : Option Pk
  crcRecord : Option Nat
  uploadedBy : String
  supersedes : Option Nat

def DocumentEntry.blankDocument (entry : DocumentEntry) (mode : DocumentMode) : Document where
  requirementInstance := entry.requirementInstance
  crcRecord := entry.crcRecord
  kind := entry.kind
  mode := mode
  title := Text.strip entry.title
  documentDate := entry.documentDate
  hasFile := false
  originalFilename := ""
  contentType := ""
  byteSize := none
  externalUrl := ""
  physicalLocation := ""
  notes := entry.notes
  supersededBy := none
  isCurrent := true
  uploadedBy := Text.truncate 150 entry.uploadedBy

/-- The row in the church's mode: the file, the link, or where the paper is. -/
def DocumentEntry.document (entry : DocumentEntry) (settings : Settings) :
    Except Refusal Document :=
  let document := entry.blankDocument settings.documentMode
  match settings.documentMode with
  | .store =>
      match entry.upload with
      | none =>
          .error (.invalid ("Attach the file, or ask the platform operator to switch this " ++
            "church to link or track mode."))
      | some upload => do
          let (data, contentType) ← validateUpload settings.uploadLimit upload
          return { document with
            hasFile := true
            originalFilename := upload.name
            contentType := contentType
            byteSize := some data.length }
  | .link =>
      if entry.externalUrl = "" then
        .error (.field "external_url" "A link to the document is required.")
      else .ok { document with externalUrl := entry.externalUrl }
  | .track => .ok { document with physicalLocation := entry.physicalLocation }

/-- Complete the requirement a document backs, unless its own rules stand in the way; whether it
was completed.  A refused completion leaves the requirement as it was. -/
def completeBackingRequirement (ambient : Ambient) (document : Document) (pk : Option Pk)
    (file : VolunteerFile) : Except Refusal (VolunteerFile × Bool) :=
  match pk with
  | none => .ok (file, false)
  | some pk => do
      let (definition, row) ← fetchInstance ambient pk file
      if definition.isCrc ∨ row.status = .waived ∨ row.status = .notApplicable ∨
          row.status = .blocked then
        return (file, false)
      else
        match markRequirementComplete ambient pk (document.documentDate.getD ambient.today) "" false
            file with
        | .ok completed => return (completed, true)
        | .error (.validation _) => return (file, false)
        | .error refusal => throw refusal

/-- A completion that a document's own rules, or the requirement's, stood in the way of leaves
the file alone; otherwise the requirement is completed. -/
theorem completeBackingRequirement_ok {ambient : Ambient} {document : Document}
    {target : Option Pk} {file after : VolunteerFile} {completed : Bool}
    (success : completeBackingRequirement ambient document target file = .ok (after, completed)) :
    completed = false ∧ after = file ∨
      completed = true ∧ ∃ pk definition row, target = some pk ∧
        ambient.settings.catalogue.get pk = some definition ∧
        file.requirementInstances pk = some row ∧ definition.isCrc = false ∧
        row.status ≠ .waived ∧ row.status ≠ .notApplicable ∧ row.status ≠ .blocked ∧
        document.documentDate.getD ambient.today ≤ ambient.today ∧
        after = refreshDependents ambient.settings ambient.today pk
          (file.saveInstance pk
            (row.markComplete definition (document.documentDate.getD ambient.today) "")) := by
  unfold completeBackingRequirement at success
  cases target with
  | none =>
      cases success
      exact .inl ⟨rfl, rfl⟩
  | some pk =>
      obtain ⟨⟨definition, row⟩, found, success⟩ := bind_eq_ok_iff.mp success
      obtain ⟨listed, present⟩ := fetchInstance_eq_ok_iff.mp found
      dsimp only at success listed present
      split at success
      · cases success
        exact .inl ⟨rfl, rfl⟩
      · next completable =>
          simp only [not_or] at completable
          obtain ⟨notCrc, notWaived, applicable, unblocked⟩ := completable
          split at success
          · next marked done =>
              cases success
              obtain ⟨definition', row', listed', present', _, notFuture, rfl⟩ :=
                markRequirementComplete_ok done
              rw [listed] at listed'
              rw [present] at present'
              cases listed'
              cases present'
              exact .inr ⟨rfl, pk, definition, row, rfl, listed, present, by simpa using notCrc,
                notWaived, applicable, unblocked, notFuture, rfl⟩
          · cases success
            exact .inl ⟨rfl, rfl⟩
          · cases success

def addDocument (document : Document) (supersedes : Option Nat) (file : VolunteerFile) :
    VolunteerFile :=
  let earlier :=
    match supersedes with
    | some replaced => file.documents.modify replaced (·.supersedeWith file.documents.length)
    | none => file.documents
  { file with documents := earlier ++ [document] }

def documentEntry (document : Document) (completed : Bool) (target : Option Pk)
    (file : VolunteerFile) : Entry :=
  ⟨.document, .document file.documents.length,
    file.volunteer.displayName ++ " — " ++ document.title,
    { Snapshot.empty with isCurrent := some true },
    if completed then target.map .requirementInstance else none⟩

def storeDocument (ambient : Ambient) (entry : DocumentEntry) (file : VolunteerFile) :
    Except Refusal VolunteerFile := do
  refuseSelfRecording ambient file
  let document ← entry.document ambient.settings
  document.fullClean ambient.settings.isUrl
  let (after, completed) ← completeBackingRequirement ambient document entry.requirementInstance
    (addDocument document entry.supersedes file)
  openIfUnverified ambient (documentEntry document completed entry.requirementInstance file) after

def DocumentEntry.completes (entry : DocumentEntry) (ambient : Ambient) (file : VolunteerFile) :
    Option Pk :=
  match entry.document ambient.settings with
  | .error _ => none
  | .ok document =>
      match completeBackingRequirement ambient document entry.requirementInstance
          (addDocument document entry.supersedes file) with
      | .ok (_, true) => entry.requirementInstance
      | _ => none

theorem storeDocument_of_completes {ambient : Ambient} {entry : DocumentEntry}
    {file after : VolunteerFile} {pk : Pk}
    (success : storeDocument ambient entry file = .ok after)
    (completes : entry.completes ambient file = some pk) :
    ∃ document definition row completedOn written,
      ambient.settings.catalogue.get pk = some definition ∧
        file.requirementInstances pk = some row ∧ row.status ≠ .waived ∧
        row.status ≠ .notApplicable ∧ row.status ≠ .blocked ∧
        written = refreshDependents ambient.settings ambient.today pk
          ((addDocument document entry.supersedes file).saveInstance pk
            (row.markComplete definition completedOn "")) ∧
        after = { written with
          reviewItems := queueAfter ambient (documentEntry document true (some pk) file)
            written } := by
  obtain ⟨_, _, success⟩ := bind_eq_ok_iff.mp success
  obtain ⟨document, formed, success⟩ := bind_eq_ok_iff.mp success
  obtain ⟨_, _, success⟩ := bind_eq_ok_iff.mp success
  obtain ⟨⟨written, completed⟩, backed, success⟩ := bind_eq_ok_iff.mp success
  unfold DocumentEntry.completes at completes
  simp only [formed, backed] at completes
  obtain ⟨rfl, _⟩ | ⟨rfl, target, definition, row, sought, listed, present, _, unwaived,
    applicable, unblocked, _, rfl⟩ := completeBackingRequirement_ok backed
  · cases completes
  · rw [sought] at completes
    cases completes
    dsimp only at success
    rw [openIfUnverified_eq, sought] at success
    exact ⟨document, definition, row, _, _, listed, present, unwaived, applicable, unblocked, rfl,
      (Except.ok.inj success).symm⟩

theorem storeDocument_of_not_completes {ambient : Ambient} {entry : DocumentEntry}
    {file after : VolunteerFile} (success : storeDocument ambient entry file = .ok after)
    (incomplete : entry.completes ambient file = none) :
    ∃ document, after = { addDocument document entry.supersedes file with
      reviewItems := queueAfter ambient
        (documentEntry document false entry.requirementInstance file)
        (addDocument document entry.supersedes file) } := by
  obtain ⟨_, _, success⟩ := bind_eq_ok_iff.mp success
  obtain ⟨document, formed, success⟩ := bind_eq_ok_iff.mp success
  obtain ⟨_, _, success⟩ := bind_eq_ok_iff.mp success
  obtain ⟨⟨written, completed⟩, backed, success⟩ := bind_eq_ok_iff.mp success
  unfold DocumentEntry.completes at incomplete
  simp only [formed, backed] at incomplete
  dsimp only at success
  rw [openIfUnverified_eq] at success
  obtain ⟨rfl, rfl⟩ | ⟨rfl, target, _, _, sought, _⟩ := completeBackingRequirement_ok backed
  · exact ⟨document, (Except.ok.inj success).symm⟩
  · rw [sought] at incomplete
    cases incomplete

theorem storeDocument_ok {ambient : Ambient} {entry : DocumentEntry} {file after : VolunteerFile}
    (success : storeDocument ambient entry file = .ok after) :
    ∃ document written completed,
      (written = addDocument document entry.supersedes file ∨
        ∃ (pk : Pk) (definition : RequirementDefinition) (row : RequirementInstance)
            (completedOn : Date),
          written = refreshDependents ambient.settings ambient.today pk
            ((addDocument document entry.supersedes file).saveInstance pk
              (row.markComplete definition completedOn ""))) ∧
        after = { written with
          reviewItems := queueAfter ambient
            (documentEntry document completed entry.requirementInstance file) written } := by
  obtain ⟨_, _, success⟩ := bind_eq_ok_iff.mp success
  obtain ⟨document, _, success⟩ := bind_eq_ok_iff.mp success
  obtain ⟨_, _, success⟩ := bind_eq_ok_iff.mp success
  obtain ⟨⟨written, completed⟩, backed, success⟩ := bind_eq_ok_iff.mp success
  dsimp only at success
  rw [openIfUnverified_eq] at success
  refine ⟨document, written, completed, ?_, (Except.ok.inj success).symm⟩
  obtain ⟨_, same⟩ | ⟨_, pk, definition, row, _, _, _, _, _, _, _, _, marked⟩ :=
    completeBackingRequirement_ok backed
  · exact .inl same
  · exact .inr ⟨pk, definition, row, _, marked⟩

end VolunteerScreening.Documents
