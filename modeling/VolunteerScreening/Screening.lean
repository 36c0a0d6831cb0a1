import VolunteerScreening.Accounts.Views
import VolunteerScreening.Operations

/-!
# The screening views

Each asks for a capability, finds its record among those in scope, refuses a
visitor's own file, and hands a valid form to the service behind it.  The review
queue is looked up whole: who may decide an item is the service's to say.
-/

namespace VolunteerScreening

open Accounts Calendar Documents Fallible Org Requirements Review

/-! ## Forms -/

def requiredText (field : String) (limit : Nat) (text : String) : Errors :=
  if text = "" then [(field, "This field is required.")] else Errors.tooLong field limit text

@[simp]
theorem requiredText_eq_nil_iff {field text : String} {limit : Nat} :
    requiredText field limit text = [] ↔ text ≠ "" ∧ text.length ≤ limit := by
  unfold requiredText
  split
  · next empty => simp [empty]
  · next filled => simp [filled]

def substantiveReason (field : String) (minimum : Nat) (message text : String) : Errors :=
  if text = "" then [(field, "This field is required.")]
  else if text.length < minimum then [(field, message)]
  else []

def futureDate (field : String) (today date : Date) : Errors :=
  if today < date then [(field, "Cannot be in the future.")] else []

def CheckReport.formErrors (report : CheckReport) (today : Date) : Errors :=
  futureDate "report_date" today report.reportDate ++
    Errors.tooLong "issuing_body" 150 report.issuingBody ++
    if report.result = .cleared ∧ report.includesVulnerableSector = false then
      [("includes_vulnerable_sector",
        "A vulnerable sector search is required for positions of trust. Untick " ++
        "only if this check genuinely did not include one.")]
    else []

def CheckReport.cleaned (report : CheckReport) : CheckReport :=
  { report with
    issuingBody := Text.strip report.issuingBody
    notes := Text.strip report.notes }

/-- The policy's categories, in the form's two groups. -/
def automaticCategories : List String :=
  ["Violent crime involving a weapon", "Crime against a child or youth",
    "Crime against a vulnerable adult", "Child abuse", "Abduction", "Murder or manslaughter",
    "Incest", "Rape", "Sexual assault"]

def discretionaryCategories : List String :=
  ["Theft or fraud", "Drug-related offence", "Impaired driving",
    "Assault (no weapon, adult victim)", "Property offence", "Other — discretionary"]

structure ConvictionForm where
  category : String
  description : String
  convictionDate : Option Date
  acknowledgePermanent : Bool

namespace ConvictionForm

variable (form : ConvictionForm)

def isAutomatic : Bool := automaticCategories.contains form.category

def errors : Errors :=
  (if form.category = "" then [("category", "This field is required.")]
    else if automaticCategories.contains form.category ||
        discretionaryCategories.contains form.category then []
    else
      [("category",
        s!"Select a valid choice. {form.category} is not one of the available choices.")]) ++
    if form.isAutomatic && !form.acknowledgePermanent then
      [("acknowledge_permanent",
        "Please confirm you understand this is permanent before continuing.")]
    else []

def entry (recordedBy : String) : ConvictionEntry :=
  ⟨form.category, form.isAutomatic, Text.strip form.description, form.convictionDate, recordedBy⟩

end ConvictionForm

/-- Whether a conviction is one the decision form offers: of this check, and discretionary. -/
def offersConviction (check : Nat) (file : VolunteerFile) (conviction : Option Nat) : Bool :=
  match conviction with
  | none => true
  | some position =>
      (file.convictions[position]?).any fun row =>
        row.crcRecord == check && !row.isAutomaticDisqualifier

def DecisionEntry.formErrors (entry : DecisionEntry) (check : Nat) (file : VolunteerFile) :
    Errors :=
  let substantive (field label text : String) : Errors :=
    substantiveReason field 20 (s!"Please set out the {label} properly. This is the permanent " ++
      "record of a decision that will be reviewed by leadership and possibly an insurer.")
      (Text.strip text)
  (if offersConviction check file entry.conviction then []
    else
      [("conviction",
        "Select a valid choice. That choice is not one of the available choices.")]) ++
    requiredText "decided_by" 150 (Text.strip entry.decidedBy) ++
    (if entry.decidedOn = none then [("decided_on", "This field is required.")] else []) ++
    substantive "reasoning" "reasoning" entry.reasoning ++
    substantive "mitigation_steps" "mitigation steps" entry.mitigationSteps

def DecisionEntry.cleaned (entry : DecisionEntry) : DecisionEntry :=
  { entry with
    decidedBy := Text.strip entry.decidedBy
    reasoning := Text.strip entry.reasoning
    mitigationSteps := Text.strip entry.mitigationSteps }

def DocumentEntry.formErrors (entry : DocumentEntry) (settings : Settings) (today : Date) :
    Errors :=
  let byMode : Errors :=
    match settings.documentMode with
    | .store =>
        match entry.upload with
        | none => [("upload", "This field is required.")]
        | some upload =>
            if upload.data = [] then [("upload", "The submitted file is empty.")] else []
    | .link =>
        let url := Text.strip entry.externalUrl
        if url = "" then [("external_url", "This field is required.")]
        else if !settings.isUrl url then [("external_url", "Enter a valid URL.")]
        else Errors.tooLong "external_url" 500 url
    | .track => Errors.tooLong "physical_location" 200 (Text.strip entry.physicalLocation)
  requiredText "title" 200 (Text.strip entry.title) ++
    (match entry.documentDate with
    | some date => futureDate "document_date" today date
    | none => []) ++ byMode

/-- The entry the view hands on: the fields of the church's mode, and who uploaded it. -/
def DocumentEntry.cleaned (entry : DocumentEntry) (settings : Settings) (uploadedBy : String) :
    DocumentEntry :=
  { entry with
    title := Text.strip entry.title
    upload := if settings.documentMode = .store then entry.upload else none
    externalUrl := if settings.documentMode = .link then Text.strip entry.externalUrl else ""
    physicalLocation :=
      if settings.documentMode = .track then Text.strip entry.physicalLocation else ""
    notes := Text.strip entry.notes
    uploadedBy := uploadedBy
    supersedes := none }

/-! ## Views -/

def writableInstance (definition : Pk) (ambient : Ambient) (acting : Directory.Administrator)
    (file : VolunteerFile) : Except Refusal (RequirementDefinition × RequirementInstance) := do
  let found ← fetchInstance ambient definition file
  writableVolunteer ambient acting.account file
  return found

def writableCrc (check : Nat) (ambient : Ambient) (acting : Directory.Administrator)
    (file : VolunteerFile) : Except Refusal CRCRecord := do
  let record ← fetchCheck check file
  writableVolunteer ambient acting.account file
  return record

def instanceStart (definition : Pk) : FileView := fun ambient acting file => do
  let _ ← writableInstance definition ambient acting file
  perform ambient (.startRequirement definition) file

/-- A specific reason, so the administrator knows what to do instead. -/
def whyCompletionIsRefused (definition : RequirementDefinition) (row : RequirementInstance) :
    String :=
  if definition.isCrc then
    "A criminal record check is completed by recording the check itself, so the " ++
      "clearance date and the three-year renewal are captured."
  else if definition.requiresDocument then
    s!"'{definition.name}' is completed by recording its document — " ++
      "that is the evidence behind it. Use 'Add document'."
  else if row.status = .waived then
    let waivedBy := if row.waivedBy ≠ "" then row.waivedBy else "an administrator"
    s!"'{definition.name}' was waived by {waivedBy}, " ++
      "which already satisfies it. To record it as completed instead, use " ++
      "'Reverse waiver' first — that keeps both decisions in the audit trail."
  else if row.status = .notApplicable then
    s!"'{definition.name}' does not apply to this volunteer."
  else
    s!"'{definition.name}' is blocked pending the outcome of a criminal " ++
      "record check and cannot be marked complete."

def instanceComplete (definition : Pk) (completedOn : Date) (notes : String) : FileView :=
  fun ambient acting file => do
    let (requirement, row) ← writableInstance definition ambient acting file
    refuseIf (row.canMarkComplete requirement = false)
      (Refusal.invalid (whyCompletionIsRefused requirement row))
    (futureDate "completed_on" ambient.today completedOn).raise
    perform ambient (.markRequirementComplete definition completedOn (Text.strip notes)) file

def instanceWaive (definition : Pk) (reason waivedBy : String) : FileView :=
  fun ambient acting file => do
    let (requirement, _) ← writableInstance definition ambient acting file
    refuseIf requirement.isCrc
      (Refusal.invalid ("A criminal record check cannot be waived. Under-18s are exempt " ++
        "automatically; adults in a position of trust must have a current check."))
    let reason := Text.strip reason
    let waivedBy := Text.strip waivedBy
    (substantiveReason "reason" 10 ("Please give a fuller reason — this is the permanent record " ++
        "of why the requirement was set aside.") reason ++
      requiredText "waived_by" 150 waivedBy).raise
    perform ambient (.waiveRequirement definition reason waivedBy) file

def instanceReverseWaiver (definition : Pk) (reason reversedBy : String) : FileView :=
  fun ambient acting file => do
    let (requirement, row) ← writableInstance definition ambient acting file
    refuseIf (row.status ≠ .waived)
      (Refusal.invalid s!"'{requirement.name}' is not waived, so there is nothing to reverse.")
    let reason := Text.strip reason
    (Errors.tooLong "reason" 200 reason ++
      substantiveReason "reason" 10 ("Please give a fuller reason — this is the record of why a " ++
        "recorded decision was undone.") reason ++
      requiredText "reversed_by" 150 (Text.strip reversedBy)).raise
    perform ambient (.reverseWaiver definition reason) file

def crcRecordCreate (report : CheckReport) : FileView := fun ambient acting file => do
  writableVolunteer ambient acting.account file
  refuseIf file.volunteer.isPermanentlyDisqualified
    (Refusal.invalid ("This volunteer is permanently disqualified under the Plan to Protect " ++
      "policy. No further criminal record check can change that determination."))
  (CheckReport.formErrors (CheckReport.cleaned report) ambient.today).raise
  perform ambient (.recordCrc (CheckReport.cleaned report)) file

def crcConvictionAdd (check : Nat) (form : ConvictionForm) : FileView :=
  fun ambient acting file => do
    let record ← writableCrc check ambient acting file
    refuseIf (record.result ≠ .notClear)
      (Refusal.invalid "Convictions are only recorded against a 'Not Clear' result.")
    form.errors.raise
    perform ambient (.recordConvictions check [form.entry acting.user.displayName]) file

def crcOverride (check : Nat) (entry : DecisionEntry) : FileView := fun ambient acting file => do
  let _ ← writableCrc check ambient acting file
  refuseIf file.volunteer.isPermanentlyDisqualified
    (Refusal.invalid ("This volunteer is permanently disqualified under an automatic " ++
      "disqualifier. That determination cannot be overridden."))
  refuseIf (¬file.convictions.any fun row => row.crcRecord == check && !row.isAutomaticDisqualifier)
    (Refusal.invalid "There is no discretionary flag on this check to decide on.")
  (DecisionEntry.formErrors entry check file).raise
  perform ambient (.recordDiscretionaryOverride check (DecisionEntry.cleaned entry)) file

def crcResolveNotClear (check : Nat) (outcome : CRCNotClearOutcome) (notes : String) : FileView :=
  fun ambient acting file => do
    let record ← writableCrc check ambient acting file
    refuseIf (record.result ≠ .notClear)
      (Refusal.invalid "Only a 'Not Clear' result needs an outcome recorded.")
    -- The form offers the two outcomes the policy allows, and not the pending one.
    refuseIf (outcome = .pending)
      (Refusal.field "outcome"
        "Select a valid choice. pending is not one of the available choices.")
    perform ambient (.resolveNotClear check outcome (Text.strip notes)) file

/-- The requirement and the check a document is for are looked up on the volunteer's own file. -/
def documentCreate (entry : DocumentEntry) : FileView := fun ambient acting file => do
  writableVolunteer ambient acting.account file
  match entry.requirementInstance with
  | some definition => do let _ ← fetchInstance ambient definition file
  | none => .ok ()
  match entry.crcRecord with
  | some check => do let _ ← fetchCheck check file
  | none => .ok ()
  (DocumentEntry.formErrors entry ambient.settings ambient.today).raise
  match ambient.settings.documentMode, entry.upload with
  | .store, some upload => checkUploadSize ambient.settings.uploadLimit upload
  | _, _ => .ok ()
  perform ambient
    (.storeDocument (DocumentEntry.cleaned entry ambient.settings acting.user.displayName)) file

def itemAffirm (item : Nat) : FileView := fun ambient acting file =>
  perform ambient (.affirm acting.account item) file

def itemSendBack (item : Nat) (reason : String) : FileView := fun ambient acting file => do
  let row ← fetchItem item file
  refuseFor (mayReview ambient.settings.administration acting.account row)
  let reason := Text.strip reason
  (requiredText "reason" 240 reason).raise
  perform ambient (.sendBack acting.account item reason) file

/-! ## The screening requests -/

inductive FileRequest where
  | instanceStart (definition : Pk)
  | instanceComplete (definition : Pk) (completedOn : Date) (notes : String)
  | instanceWaive (definition : Pk) (reason waivedBy : String)
  | instanceReverseWaiver (definition : Pk) (reason reversedBy : String)
  | crcRecordCreate (report : CheckReport)
  | crcConvictionAdd (check : Nat) (form : ConvictionForm)
  | crcOverride (check : Nat) (entry : DecisionEntry)
  | crcResolveNotClear (check : Nat) (outcome : CRCNotClearOutcome) (notes : String)
  | documentCreate (entry : DocumentEntry)
  | itemAffirm (item : Nat)
  | itemSendBack (item : Nat) (reason : String)

namespace FileRequest

def capability : FileRequest → Capability
  | .instanceStart _ | .instanceComplete .. | .instanceWaive .. | .instanceReverseWaiver ..
  | .documentCreate _ => .recordScreening
  | .crcRecordCreate _ | .crcConvictionAdd .. | .crcOverride .. | .crcResolveNotClear .. =>
      .recordCrc
  | .itemAffirm _ | .itemSendBack .. => .viewVolunteers

def view : FileRequest → FileView
  | .instanceStart definition => VolunteerScreening.instanceStart definition
  | .instanceComplete definition completedOn notes =>
      VolunteerScreening.instanceComplete definition completedOn notes
  | .instanceWaive definition reason waivedBy =>
      VolunteerScreening.instanceWaive definition reason waivedBy
  | .instanceReverseWaiver definition reason reversedBy =>
      VolunteerScreening.instanceReverseWaiver definition reason reversedBy
  | .crcRecordCreate report => VolunteerScreening.crcRecordCreate report
  | .crcConvictionAdd check form => VolunteerScreening.crcConvictionAdd check form
  | .crcOverride check entry => VolunteerScreening.crcOverride check entry
  | .crcResolveNotClear check outcome notes =>
      VolunteerScreening.crcResolveNotClear check outcome notes
  | .documentCreate entry => VolunteerScreening.documentCreate entry
  | .itemAffirm item => VolunteerScreening.itemAffirm item
  | .itemSendBack item reason => VolunteerScreening.itemSendBack item reason

def isDecision : FileRequest → Bool
  | .itemAffirm _ | .itemSendBack .. => true
  | _ => false

theorem view_writable {request : FileRequest} {ambient : Ambient}
    {acting : Directory.Administrator} {file : VolunteerFile} {work : Work}
    (success : request.view ambient acting file = .ok work)
    (recording : request.isDecision = false) :
    writableVolunteer ambient acting.account file = .ok () := by
  have ofInstance {definition : Pk} {found : RequirementDefinition × RequirementInstance}
      (fetched : writableInstance definition ambient acting file = .ok found) :
      writableVolunteer ambient acting.account file = .ok () := by
    obtain ⟨_, _, fetched⟩ := bind_eq_ok_iff.mp fetched
    obtain ⟨_, writable, _⟩ := bind_eq_ok_iff.mp fetched
    exact writable
  have ofCheck {check : Nat} {record : CRCRecord}
      (fetched : writableCrc check ambient acting file = .ok record) :
      writableVolunteer ambient acting.account file = .ok () := by
    obtain ⟨_, _, fetched⟩ := bind_eq_ok_iff.mp fetched
    obtain ⟨_, writable, _⟩ := bind_eq_ok_iff.mp fetched
    exact writable
  cases request with
  | instanceStart definition =>
      obtain ⟨_, fetched, _⟩ := bind_eq_ok_iff.mp success
      exact ofInstance fetched
  | instanceComplete definition completedOn notes =>
      obtain ⟨_, fetched, _⟩ := bind_eq_ok_iff.mp success
      exact ofInstance fetched
  | instanceWaive definition reason waivedBy =>
      obtain ⟨_, fetched, _⟩ := bind_eq_ok_iff.mp success
      exact ofInstance fetched
  | instanceReverseWaiver definition reason reversedBy =>
      obtain ⟨_, fetched, _⟩ := bind_eq_ok_iff.mp success
      exact ofInstance fetched
  | crcRecordCreate report =>
      obtain ⟨_, writable, _⟩ := bind_eq_ok_iff.mp success
      exact writable
  | crcConvictionAdd check form =>
      obtain ⟨_, fetched, _⟩ := bind_eq_ok_iff.mp success
      exact ofCheck fetched
  | crcOverride check entry =>
      obtain ⟨_, fetched, _⟩ := bind_eq_ok_iff.mp success
      exact ofCheck fetched
  | crcResolveNotClear check outcome notes =>
      obtain ⟨_, fetched, _⟩ := bind_eq_ok_iff.mp success
      exact ofCheck fetched
  | documentCreate entry =>
      obtain ⟨_, writable, _⟩ := bind_eq_ok_iff.mp success
      exact writable
  | itemAffirm item => cases recording
  | itemSendBack item reason => cases recording

end FileRequest

def Church.screen (church : Church) (visit : Visit) (volunteer : Nat)
    (request : FileRequest) : Except Refusal Church :=
  church.onFile visit request.capability volunteer request.view

/-- One screening request on one volunteer's file; a request that is refused changes nothing. -/
def screenStep (church : Church) (call : Visit × Nat × FileRequest) : Church :=
  Machine.attempt (fun church => church.screen call.1 call.2.1 call.2.2) church

end VolunteerScreening
