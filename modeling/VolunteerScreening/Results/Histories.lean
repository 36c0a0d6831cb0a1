import VolunteerScreening.Life
import VolunteerScreening.Results.OperativeCheck

/-!
# Checks and documents tell their histories

A renewed check or document replaces an earlier one and keeps it.  Whatever a
church's administrators request, following the replacements from any row tells
the one history it belongs to and ends at a row that stands; and every document
is the evidence its mode asks for.
-/

namespace VolunteerScreening

open Calendar Documents Fallible Org Requirements Review Tables

def VolunteerFile.replacements (file : VolunteerFile) : List (Option Nat) :=
  file.documents.map (·.supersededBy)

/-- A document is labelled, carries what its mode asks for and nothing of the other modes, and is
not current once it is replaced. -/
structure Documents.Document.Evidenced (document : Document) : Prop where
  titled : document.title ≠ "" ∧ document.title.length ≤ 200
  stored : document.mode = .store → document.hasFile = true ∧
    document.contentType ∈ allowedContentTypes ∧ ∃ size, document.byteSize = some size ∧ 0 < size
  linked : document.mode = .link → document.externalUrl ≠ ""
  fileless : document.mode ≠ .store → document.hasFile = false ∧ document.byteSize = none
  unlinked : document.mode ≠ .link → document.externalUrl = ""
  replaced : document.supersededBy.isSome = true → document.isCurrent = false

/-- What the checks and documents of a file keep. -/
structure VolunteerFile.KeepsHistories (file : VolunteerFile) : Prop where
  checks : Succession file.supersessions
  documents : Succession file.replacements
  evidenced : ∀ document ∈ file.documents, document.Evidenced

section Evidence

theorem validateUpload_ok {limit : UploadLimit} {upload : Upload} {data : List UInt8}
    {contentType : String} (success : validateUpload limit upload = .ok (data, contentType)) :
    data ≠ [] ∧ contentType ∈ allowedContentTypes := by
  obtain ⟨_, _, success⟩ := bind_eq_ok_iff.mp success
  obtain ⟨_, _, success⟩ := bind_eq_ok_iff.mp success
  obtain ⟨_, _, success⟩ := bind_eq_ok_iff.mp success
  obtain ⟨_, filled, success⟩ := bind_eq_ok_iff.mp success
  obtain ⟨sniffed, accepted, success⟩ := bind_eq_ok_iff.mp success
  cases success
  refine ⟨refuseIf_eq_ok_iff.mp filled, ?_⟩
  unfold acceptedContentType at accepted
  split at accepted
  · cases accepted
  · next found =>
      split at accepted
      · cases accepted
        exact sniffContentType_allowed found
      · cases accepted

theorem DocumentEntry.document_evidenced {entry : DocumentEntry} {settings : Settings}
    {document : Document} (formed : entry.document settings = .ok document)
    (valid : document.fullClean settings.isUrl = .ok ()) : document.Evidenced := by
  have titled : document.title ≠ "" ∧ document.title.length ≤ 200 := by
    unfold Document.fullClean at valid
    simp only [Errors.raise_eq_ok_iff, List.append_eq_nil_iff, Errors.tooLong_eq_nil_iff] at valid
    refine ⟨fun empty => ?_, valid.1.1.1.1.2⟩
    have blank := valid.1.1.1.1.1
    rw [Errors.blank, if_pos empty] at blank
    cases blank
  unfold DocumentEntry.document at formed
  cases mode : settings.documentMode with
  | store =>
      simp only [mode] at formed
      cases attached : entry.upload with
      | none =>
          rw [attached] at formed
          cases formed
      | some upload =>
          rw [attached] at formed
          obtain ⟨⟨data, contentType⟩, validated, formed⟩ := bind_eq_ok_iff.mp formed
          obtain ⟨filled, accepted⟩ := validateUpload_ok validated
          cases formed
          refine ⟨titled, fun _ => ⟨rfl, accepted, _, rfl, List.length_pos_iff.mpr filled⟩, ?_,
            fun other => absurd rfl other, fun _ => rfl, ?_⟩
          · intro linked
            cases linked
          · intro replaced
            cases replaced
  | link =>
      simp only [mode] at formed
      split at formed
      · cases formed
      · next given =>
          cases formed
          refine ⟨titled, ?_, fun _ => given, fun _ => ⟨rfl, rfl⟩, fun other => absurd rfl other,
            ?_⟩
          · intro stored
            cases stored
          · intro replaced
            cases replaced
  | track =>
      simp only [mode] at formed
      cases formed
      refine ⟨titled, ?_, ?_, fun _ => ⟨rfl, rfl⟩, fun _ => rfl, ?_⟩
      · intro stored
        cases stored
      · intro linked
        cases linked
      · intro replaced
        cases replaced

theorem Documents.Document.Evidenced.supersedeWith {document : Document}
    (evidenced : document.Evidenced) (replacement : Nat) :
    (document.supersedeWith replacement).Evidenced :=
  { evidenced with replaced := fun _ => rfl }

theorem Documents.Document.Evidenced.retired {document : Document}
    (evidenced : document.Evidenced) :
    ({ document with isCurrent := false } : Document).Evidenced :=
  { evidenced with replaced := fun _ => rfl }

end Evidence

section Steps

variable {ambient : Ambient} {file before after : VolunteerFile} {work : Work}

theorem forall_mem_modify {Row : Type} {holds : Row → Prop} {rows : List Row} {position : Nat}
    {change : Row → Row} (each : ∀ row ∈ rows, holds row)
    (changed : ∀ row, holds row → holds (change row)) :
    ∀ row ∈ rows.modify position change, holds row := by
  intro row listed
  obtain ⟨other, found⟩ := List.mem_iff_getElem?.mp listed
  rw [List.getElem?_modify] at found
  obtain ⟨earlier, there, rfl⟩ := Option.map_eq_some_iff.mp found
  have held := each earlier (List.mem_of_getElem? there)
  split
  · exact changed earlier held
  · exact held

theorem map_supersededBy_supersedeWith (documents : List Document) (position replacement : Nat) :
    (documents.modify position (·.supersedeWith replacement)).map (·.supersededBy) =
      (documents.map (·.supersededBy)).set position (some replacement) := by
  apply List.ext_getElem?
  intro other
  rw [List.getElem?_map, List.getElem?_modify, List.getElem?_set]
  by_cases same : position = other
  · subst same
    rw [if_pos rfl, List.length_map]
    by_cases inFile : position < documents.length
    · simp [inFile, Document.supersedeWith]
    · simp [inFile]
  · simp [same]

theorem addDocument_keepsHistories (kept : file.KeepsHistories) {document : Document}
    (evidenced : document.Evidenced) (fresh : document.supersededBy = none)
    (supersedes : Option Nat) : (addDocument document supersedes file).KeepsHistories := by
  refine ⟨kept.checks, ?_, ?_⟩
  · unfold VolunteerFile.replacements addDocument
    cases supersedes with
    | none =>
        rw [List.map_append, List.map_singleton, fresh]
        exact kept.documents.append
    | some position =>
        dsimp only
        rw [List.map_append, List.map_singleton, fresh, map_supersededBy_supersedeWith]
        have replaced := kept.documents.replace position
        rw [VolunteerFile.replacements, List.length_map] at replaced
        exact replaced
  · intro other listed
    unfold addDocument at listed
    rcases List.mem_append.mp listed with old | new
    · cases supersedes with
      | none => exact kept.evidenced other old
      | some position =>
          exact forall_mem_modify kept.evidenced (fun _ held => held.supersedeWith _) other old
    · obtain rfl := List.mem_singleton.mp new
      exact evidenced

theorem VolunteerFile.KeepsHistories.congr (kept : before.KeepsHistories)
    (checks : after.crcRecords = before.crcRecords)
    (documents : after.documents = before.documents) : after.KeepsHistories := by
  refine ⟨?_, ?_, ?_⟩
  · rw [VolunteerFile.supersessions_congr checks]
    exact kept.checks
  · rw [VolunteerFile.replacements, documents]
    exact kept.documents
  · rw [documents]
    exact kept.evidenced

theorem DocumentEntry.document_supersededBy {entry : DocumentEntry} {settings : Settings}
    {document : Document} (formed : entry.document settings = .ok document) :
    document.supersededBy = none := by
  unfold DocumentEntry.document at formed
  dsimp only at formed
  split at formed
  · split at formed
    · cases formed
    · obtain ⟨_, _, formed⟩ := bind_eq_ok_iff.mp formed
      cases formed
      rfl
  · split at formed
    · cases formed
    · cases formed
      rfl
  · cases formed
    rfl

theorem storeDocument_keepsHistories (kept : file.KeepsHistories) {entry : DocumentEntry}
    (success : storeDocument ambient entry file = .ok after) : after.KeepsHistories := by
  obtain ⟨_, _, success⟩ := bind_eq_ok_iff.mp success
  obtain ⟨document, formed, success⟩ := bind_eq_ok_iff.mp success
  obtain ⟨_, valid, success⟩ := bind_eq_ok_iff.mp success
  obtain ⟨⟨written, completed⟩, backed, success⟩ := bind_eq_ok_iff.mp success
  dsimp only at success
  rw [openIfUnverified_eq] at success
  cases success
  have added := addDocument_keepsHistories kept (DocumentEntry.document_evidenced formed valid)
    (DocumentEntry.document_supersededBy formed) entry.supersedes
  obtain ⟨_, rfl⟩ | ⟨_, _, _, _, _, _, _, _, _, _, _, _, rfl⟩ :=
    completeBackingRequirement_ok backed
  · exact added.congr rfl rfl
  · apply added.congr
    · rw [refreshDependents_eq]
      rfl
    · rw [refreshDependents_eq]
      rfl

theorem revert_retires {item : ReviewItem} {reason : String} {outcome : Outcome}
    {undone : Work} (success : revert ambient item reason work = .ok (undone, outcome)) :
    undone.file.documents = work.file.documents ∨ ∃ position,
      undone.file.documents =
        work.file.documents.modify position
          fun document => { document with isCurrent := false } := by
  have restored : ∀ (between : Work) (pk : Pk) (state : Snapshot),
      (between.write (restoreFromSnapshot ambient pk state)).file.documents =
        between.file.documents := by
    intro between pk state
    rw [restoreFromSnapshot_work]
    rfl
  unfold revert at success
  split at success
  · left
    unfold sendBackCompletion at success
    split at success
    · cases success
      rfl
    · split at success
      · cases success
        rfl
      · cases success
        exact restored _ _ _
  · have retired : (retireDocument item work).1.file.documents = work.file.documents ∨
        ∃ position, (retireDocument item work).1.file.documents =
          work.file.documents.modify position fun document =>
            { document with isCurrent := false } := by
      unfold retireDocument
      split
      · split
        · exact .inr ⟨_, rfl⟩
        · exact .inl rfl
      · exact .inl rfl
    unfold sendBackDocument at success
    dsimp only at success
    split at success
    · cases success
      exact retired
    · cases success
      rw [restored]
      exact retired
  · left
    unfold sendBackCrc at success
    split at success
    · cases success
      rfl
    · split at success
      · cases success
        rfl
      · split at success
        · cases success
          rfl
        · rw [retractCheck_eq] at success
          cases success
          have rows : (retractedRows ambient item work.file).documents = work.file.documents := by
            rw [retractedRows_eq]
            unfold restorePrevious
            cases item.beforeState.supersededById <;> rfl
          unfold lifted
          split <;> exact rows
    · cases success
      rfl
  · left
    obtain ⟨_, rfl⟩ := sendBackWaiver_eq success
    rfl
  · left
    cases success
    rfl

theorem perform_documents {operation : Operation}
    (success : perform ambient operation file = .ok work)
    (notStored : ∀ entry, operation ≠ .storeDocument entry)
    (notSentBack : ∀ user item reason, operation ≠ .sendBack user item reason) :
    work.file.documents = file.documents := by
  cases operation with
  | markRequirementComplete =>
      obtain ⟨_, written, rfl⟩ := map_eq_ok_iff.mp success
      obtain ⟨_, _, _, _, _, _, rfl⟩ := markRequirementComplete_ok written
      dsimp only [Work.start]
      rw [refreshDependents_eq]
      rfl
  | startRequirement =>
      obtain ⟨_, written, rfl⟩ := map_eq_ok_iff.mp success
      obtain ⟨_, _, rfl⟩ := startRequirement_ok written
      dsimp only [Work.start]
      split <;> rfl
  | waiveRequirement =>
      obtain ⟨_, written, rfl⟩ := map_eq_ok_iff.mp success
      obtain ⟨_, _, _, _, _, rfl⟩ := waiveRequirement_ok written
      dsimp only [Work.start]
      rw [refreshDependents_eq]
      rfl
  | reverseWaiver =>
      obtain ⟨_, written, rfl⟩ := map_eq_ok_iff.mp success
      obtain ⟨_, _, _, rfl⟩ := reverseWaiver_ok written
      dsimp only [Work.start]
      rw [refreshDependents_eq]
      rfl
  | recordCrc report =>
      obtain ⟨_, _, written, blocked, rfl⟩ := recordCrc_ok success
      have rows : (checkWritten ambient report file).file.documents = file.documents := by
        rw [checkWritten_eq]
        rfl
      obtain ⟨rfl, _⟩ | ⟨_, _, _, rfl⟩ := setBlockFor_ok blocked <;> exact rows
  | recordConvictions =>
      obtain ⟨_, _, _, _, rfl⟩ := recordConvictions_ok success
      dsimp only [convictionsWritten]
      split <;> rfl
  | recordDiscretionaryOverride =>
      obtain ⟨_, _, _, decided, _, rfl⟩ := recordDiscretionaryOverride_ok success
      obtain withdrawn | ⟨_, rfl⟩ | ⟨_, rfl⟩ := applyDecision_ok decided
      · obtain ⟨_, rfl⟩ := withdraw_ok withdrawn
        rfl
      · rfl
      · rfl
  | resolveNotClear =>
      obtain ⟨_, _, withdrawn | rfl⟩ := resolveNotClear_ok success
      · obtain ⟨_, rfl⟩ := withdraw_ok withdrawn
        rfl
      · rfl
  | storeDocument entry => exact absurd rfl (notStored entry)
  | affirm =>
      obtain ⟨_, written, rfl⟩ := map_eq_ok_iff.mp success
      obtain ⟨_, _, _, _, rfl⟩ := affirm_ok written
      rfl
  | sendBack user item reason => exact absurd rfl (notSentBack user item reason)
  | assignmentCreate =>
      obtain ⟨_, _, _, rfl⟩ := assignmentCreate_ok success
      rfl
  | assignmentEnd =>
      obtain ⟨_, _, _, rfl⟩ := assignmentEnd_ok success
      dsimp only [Work.write, deactivateIfUnassigned]
      split <;> rfl
  | volunteerEdit =>
      obtain ⟨_, _, _, rfl⟩ := volunteerEdit_ok success
      rfl
  | volunteerDeactivate =>
      obtain ⟨_, _, _, _, rfl, rfl⟩ := volunteerDeactivate_ok success
      split <;> rfl
  | volunteerReactivate =>
      obtain ⟨_, _, rfl⟩ := volunteerReactivate_ok success
      rfl
  | volunteerResync =>
      obtain ⟨_, rfl⟩ := volunteerResync_ok success
      rfl
  | syncVolunteerRequirements =>
      cases success
      rfl
  | nightlySweep =>
      cases success
      dsimp only [Work.start, sweepVolunteer]
      split <;> rfl

/-- A transaction displaces a check, puts one back, or leaves the checks as they are. -/
theorem perform_keepsChecks (kept : Succession file.supersessions) {operation : Operation}
    (success : perform ambient operation file = .ok work) : Succession work.file.supersessions := by
  obtain ⟨_, previous, _, same⟩ | ⟨_, same | same⟩ := perform_supersessions success
  · rw [same]
    unfold VolunteerFile.reinstated
    cases previous with
    | none => exact kept
    | some earlier => exact kept.reinstate earlier
  · rw [same]
    exact kept
  · rw [same]
    unfold VolunteerFile.displaced
    cases previousCheck file.crcRecords with
    | none => exact kept.append
    | some previous =>
        have displaced := kept.replace previous
        rw [VolunteerFile.supersessions, List.length_map] at displaced
        exact displaced

theorem perform_keepsHistories (kept : file.KeepsHistories) {operation : Operation}
    (success : perform ambient operation file = .ok work) : work.file.KeepsHistories := by
  have checks := perform_keepsChecks kept.checks success
  by_cases stored : ∃ entry, operation = .storeDocument entry
  · obtain ⟨entry, rfl⟩ := stored
    obtain ⟨_, written, rfl⟩ := map_eq_ok_iff.mp success
    exact storeDocument_keepsHistories kept written
  · by_cases sentBack : ∃ user position reason, operation = .sendBack user position reason
    · obtain ⟨user, position, reason, rfl⟩ := sentBack
      obtain ⟨⟨_, _⟩, written, rfl⟩ := map_eq_ok_iff.mp success
      obtain ⟨item, reverted, _, _, _, undone, rfl⟩ := sendBack_ok written
      obtain same | ⟨retired, same⟩ := revert_retires undone
      · refine ⟨checks, ?_, ?_⟩
        · show Succession (reverted.file.documents.map (·.supersededBy))
          rw [same]
          exact kept.documents
        · show ∀ document ∈ reverted.file.documents, document.Evidenced
          rw [same]
          exact kept.evidenced
      · refine ⟨checks, ?_, ?_⟩
        · have links : reverted.file.documents.map (·.supersededBy) = file.replacements := by
            rw [same]
            apply List.ext_getElem?
            intro other
            rw [List.getElem?_map, List.getElem?_modify, VolunteerFile.replacements,
              List.getElem?_map]
            dsimp only [Work.start]
            cases file.documents[other]? with
            | none => rfl
            | some document => simp only [Option.map_some]; split <;> rfl
          show Succession (reverted.file.documents.map (·.supersededBy))
          rw [links]
          exact kept.documents
        · show ∀ document ∈ reverted.file.documents, document.Evidenced
          rw [same]
          exact forall_mem_modify kept.evidenced fun _ held => held.retired
    · have documents : work.file.documents = file.documents :=
        perform_documents success (fun entry same => stored ⟨entry, same⟩)
          fun user position reason same => sentBack ⟨user, position, reason, same⟩
      refine ⟨checks, ?_, ?_⟩
      · rw [VolunteerFile.replacements, documents]
        exact kept.documents
      · rw [documents]
        exact kept.evidenced

theorem fileChange_keepsHistories (kept : before.KeepsHistories)
    (change : FileChange before after) : after.KeepsHistories := by
  cases change with
  | performed success => exact perform_keepsHistories kept success
  | linked subject => exact kept.congr rfl rfl
  | synced settings asOf => exact kept.congr rfl rfl
  | swept settings asOf write =>
      rw [sweepStep_eq]
      exact kept.congr rfl rfl

end Steps

/-- Over the whole life of a church that starts with no files: in every file, following what
replaced a check or a document tells the one history that the row belongs to and ends at a row that
stands; a replaced document is not current; and every document has what its mode asks for. -/
theorem histories_told {church : Church} (empty : church.files = []) (events : List ChurchEvent) :
    Machine.Always lifeStep
      (fun church => ∀ file ∈ church.files, Histories file.supersessions ∧
        Histories file.replacements ∧ ∀ document ∈ file.documents, document.Evidenced)
      church events := by
  have kept : Machine.Always lifeStep
      (fun church => ∀ file ∈ church.files, file.KeepsHistories) church events := by
    refine life_always ?_ ?_ empty events
    · intro file new
      rw [new.blank]
      exact ⟨succession_nil, succession_nil, fun _ listed => absurd listed List.not_mem_nil⟩
    · exact fun before after change kept => fileChange_keepsHistories kept change
  apply kept.imp
  intro church each file listed
  have sound := each file listed
  exact ⟨sound.checks.histories, sound.documents.histories, sound.evidenced⟩

namespace Sample

/-- A volunteer whose check was renewed, with a letter on file. -/
def renewedLife : List ChurchEvent :=
  [.request (visit 0) (.organisation (.volunteerCreate ⟨"Eve", "Hill", "", none, none, false⟩
      (some 1))),
    .request (visit 0) (.screening 0 (.crcRecordCreate
      ⟨.cleared, january 2, true, false, "Police", ""⟩)),
    .request (visit 0) (.screening 0 (.crcRecordCreate
      ⟨.cleared, january 9, true, false, "Police", ""⟩)),
    .request (visit 0) (.screening 0 (.documentCreate
      ⟨"Clearance letter", .crc, none, "", "Cabinet 2", none, "", none, some 1, "", none⟩))]

end Sample

theorem histories_told_renewed :
    (Machine.run lifeStep (Sample.church Sample.recordCheckOnly []) Sample.renewedLife).files.map
        (fun file => (file.supersessions, file.replacements)) = [([some 1, none], [none])] ∧
      Machine.Always lifeStep
        (fun church => ∀ file ∈ church.files, Histories file.supersessions ∧
          Histories file.replacements ∧ ∀ document ∈ file.documents, document.Evidenced)
        (Sample.church Sample.recordCheckOnly []) Sample.renewedLife :=
  ⟨by decide +kernel, histories_told rfl Sample.renewedLife⟩

end VolunteerScreening
