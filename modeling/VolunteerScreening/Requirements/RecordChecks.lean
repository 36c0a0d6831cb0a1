import VolunteerScreening.Requirements.Progress

/-!
# Criminal record checks

Recording a check, its convictions, a leadership decision on them, and how a
Not Clear result was resolved.  An automatic disqualifier is terminal.
-/

namespace VolunteerScreening.Requirements

open Calendar Fallible Org Review

/-- Which criminal-record-check instance counts, if the volunteer has one: the first definition
in force, by sequence. -/
def crcInstanceFor (settings : Settings) (file : VolunteerFile) : Option Pk :=
  (settings.catalogue.active.find? fun definition =>
    definition.isCrc && (file.requirementInstances definition.pk).isSome).map (·.pk)

theorem crcInstanceFor_some {settings : Settings} {file : VolunteerFile} {pk : Pk}
    (counts : crcInstanceFor settings file = some pk) :
    ∃ definition ∈ settings.catalogue.active, definition.pk = pk ∧ definition.isCrc = true ∧
      (file.requirementInstances pk).isSome = true := by
  obtain ⟨definition, found, rfl⟩ := Option.map_eq_some_iff.mp counts
  have listed := List.mem_of_find?_eq_some found
  have suits := List.find?_some found
  simp only [Bool.and_eq_true] at suits
  exact ⟨definition, listed, rfl, suits.1, suits.2⟩

structure CheckReport where
  result : CRCResult
  reportDate : Date
  includesVulnerableSector : Bool
  isFingerprintVerified : Bool
  issuingBody : String
  notes : String

def CheckReport.record (report : CheckReport) (requirementInstance : Option Pk) : CRCRecord where
  requirementInstance := requirementInstance
  result := report.result
  reportDate := report.reportDate
  includesVulnerableSector := report.includesVulnerableSector
  isFingerprintVerified := report.isFingerprintVerified
  notClearOutcome := if report.result = .notClear then some .pending else none
  issuingBody := report.issuingBody
  notes := report.notes
  supersededBy := none

/-- Of two checks with their positions, the one with the later report date; the first of equals. -/
def laterCheck (latest : Option (CRCRecord × Nat)) (entry : CRCRecord × Nat) :
    Option (CRCRecord × Nat) :=
  match latest with
  | none => some entry
  | some best => if best.1.reportDate < entry.1.reportDate then some entry else some best

/-- The operative check with the latest report date, if any is operative; of several with one
date, the first. -/
def previousCheck (records : List CRCRecord) : Option Nat :=
  ((records.zipIdx.filter (·.1.isOperative)).foldl laterCheck none).map (·.2)

theorem foldl_laterCheck_mem {entries : List (CRCRecord × Nat)}
    {latest : Option (CRCRecord × Nat)} {chosen : CRCRecord × Nat}
    (found : entries.foldl laterCheck latest = some chosen) :
    latest = some chosen ∨ chosen ∈ entries := by
  induction entries generalizing latest with
  | nil => exact .inl found
  | cons entry rest inductionHypothesis =>
      rcases inductionHypothesis found with stepped | later
      · unfold laterCheck at stepped
        split at stepped
        · exact .inr (by simp [Option.some.inj stepped])
        · split at stepped
          · exact .inr (by simp [Option.some.inj stepped])
          · exact .inl stepped
      · exact .inr (List.mem_cons_of_mem _ later)

theorem foldl_laterCheck_isSome (entries : List (CRCRecord × Nat))
    {latest : Option (CRCRecord × Nat)} (present : latest.isSome = true) :
    (entries.foldl laterCheck latest).isSome = true := by
  induction entries generalizing latest with
  | nil => exact present
  | cons entry rest inductionHypothesis =>
      apply inductionHypothesis
      unfold laterCheck
      split
      · rfl
      · split <;> rfl

theorem previousCheck_some {records : List CRCRecord} {check : Nat}
    (found : previousCheck records = some check) :
    ∃ record, records[check]? = some record ∧ record.supersededBy = none := by
  obtain ⟨⟨record, position⟩, chosen, rfl⟩ := Option.map_eq_some_iff.mp found
  rcases foldl_laterCheck_mem chosen with impossible | listed
  · cases impossible
  · obtain ⟨placed, operative⟩ := List.mem_filter.mp listed
    refine ⟨record, List.mem_zipIdx_iff_getElem?.mp placed, ?_⟩
    simpa [CRCRecord.isOperative] using operative

theorem previousCheck_none {records : List CRCRecord} (absent : previousCheck records = none)
    {check : Nat} {record : CRCRecord} (found : records[check]? = some record) :
    record.supersededBy ≠ none := by
  intro operative
  have listed : (record, check) ∈ records.zipIdx.filter (·.1.isOperative) := by
    refine List.mem_filter.mpr ⟨List.mem_zipIdx_iff_getElem?.mpr found, ?_⟩
    simp [CRCRecord.isOperative, operative]
  unfold previousCheck at absent
  generalize records.zipIdx.filter (·.1.isOperative) = entries at listed absent
  cases entries with
  | nil => cases listed
  | cons first rest =>
      have chosen : (rest.foldl laterCheck (laterCheck none first)).isSome = true :=
        foldl_laterCheck_isSome rest rfl
      rw [Option.map_eq_none_iff, List.foldl_cons] at absent
      rw [absent] at chosen
      cases chosen

def clearedRow (row : RequirementInstance) (reportDate : Date) : RequirementInstance :=
  { row with
    completedOn := some reportDate
    expiresOn := some (reportDate.addMonths 36)
    status := .complete
    dueOn := none
    dueReason := "" }

def notClearRow (row : RequirementInstance) : RequirementInstance :=
  { row with
    status := .blocked
    completedOn := none
    expiresOn := none }

/-- Write a check's outcome on the instance it is about, and re-derive what is gated behind. -/
def writeOutcome (ambient : Ambient) (crc : Option Pk) (report : CheckReport)
    (file : VolunteerFile) : VolunteerFile :=
  match crc, crc.bind file.requirementInstances with
  | some pk, some row =>
      let row :=
        match report.result with
        | .cleared => clearedRow row report.reportDate
        | .notClear => notClearRow row
      refreshDependents ambient.settings ambient.today pk (file.saveInstance pk row)
  | _, _ => file

theorem writeOutcome_eq (ambient : Ambient) (crc : Option Pk) (report : CheckReport)
    (file : VolunteerFile) :
    writeOutcome ambient crc report file =
      { file with
        requirementInstances := (writeOutcome ambient crc report file).requirementInstances } := by
  unfold writeOutcome
  split
  · dsimp only
    rw [refreshDependents_eq]
    rfl
  · rfl

def setBlockFor (ambient : Ambient) (result : CRCResult) (work : Work) : Except Refusal Work :=
  match result with
  | .cleared =>
      if work.file.volunteer.screeningBlock = .crcNotClear then
        work.setScreeningBlock .none ambient.now
      else .ok work
  | .notClear => work.setScreeningBlock .crcNotClear ambient.now

theorem setBlockFor_ok {ambient : Ambient} {result : CRCResult} {work after : Work}
    (success : setBlockFor ambient result work = .ok after) :
    after = work ∧ result = .cleared ∧ work.file.volunteer.screeningBlock ≠ .crcNotClear ∨
      (∃ block, block = (if result = .cleared then ScreeningBlock.none else .crcNotClear) ∧
        (result = .cleared → work.file.volunteer.screeningBlock = .crcNotClear) ∧
        after = work.saveVolunteer { work.file.volunteer with
          screeningBlock := block
          screeningBlockRecordedAt := if block ≠ .none then some ambient.now else none }) := by
  cases result with
  | cleared =>
      unfold setBlockFor at success
      dsimp only at success
      split at success
      · next blocked =>
          exact .inr ⟨.none, rfl, fun _ => blocked, (Work.setScreeningBlock_ok success).2⟩
      · next clear => exact .inl ⟨(Except.ok.inj success).symm, rfl, clear⟩
  | notClear =>
      exact .inr ⟨.crcNotClear, rfl, by simp, (Work.setScreeningBlock_ok success).2⟩

/-- What stood before a check: the instance, the block, and the check it will displace. -/
def beforeCheck (settings : Settings) (file : VolunteerFile) : Snapshot :=
  { Snapshot.empty with
    requirement := ((crcInstanceFor settings file).bind file.requirementInstances).map snapshot
    screeningBlock := some file.volunteer.screeningBlock
    supersededById := previousCheck file.crcRecords }

def addCheck (record : CRCRecord) (file : VolunteerFile) : VolunteerFile :=
  let earlier :=
    match previousCheck file.crcRecords with
    | some previous =>
        file.crcRecords.modify previous fun check =>
          { check with supersededBy := some file.crcRecords.length }
    | none => file.crcRecords
  { file with crcRecords := earlier ++ [record] }

def checkEntry (settings : Settings) (file : VolunteerFile) : Entry :=
  ⟨.crc, .crcRecord file.crcRecords.length,
    file.volunteer.displayName ++ " — criminal record check", beforeCheck settings file,
    (crcInstanceFor settings file).map .requirementInstance⟩

/-- The transaction of a check once its own row and its instance's are written. -/
def checkWritten (ambient : Ambient) (report : CheckReport) (file : VolunteerFile) : Work :=
  let crc := crcInstanceFor ambient.settings file
  (Work.start (addCheck (report.record crc) file)).write (writeOutcome ambient crc report)

theorem checkWritten_eq (ambient : Ambient) (report : CheckReport) (file : VolunteerFile) :
    checkWritten ambient report file =
      Work.start { addCheck (report.record (crcInstanceFor ambient.settings file)) file with
        requirementInstances :=
          (checkWritten ambient report file).file.requirementInstances } := by
  unfold checkWritten
  dsimp only [Work.write]
  rw [writeOutcome_eq]
  rfl

/-- Record a criminal record check result.  A cleared one satisfies the requirement from its
report date; one that is not clear blocks the volunteer. -/
def recordCrc (ambient : Ambient) (report : CheckReport) (file : VolunteerFile) :
    Except Refusal Work := do
  refuseSelfRecording ambient file
  refuseIf (ambient.today < report.reportDate)
    (Refusal.field "report_date" "Cannot be in the future.")
  refuseIf file.volunteer.isPermanentlyDisqualified
    (Refusal.invalid ("This volunteer is permanently disqualified under the Plan to Protect " ++
      "policy. No further criminal record check can change that."))
  (report.record (crcInstanceFor ambient.settings file)).fullClean ambient.today
  let work ← setBlockFor ambient report.result (checkWritten ambient report file)
  let after ← openIfUnverified ambient (checkEntry ambient.settings file) work.file
  return { work with file := after }

/-- What recording a check does, when nothing refuses it. -/
theorem recordCrc_ok {ambient : Ambient} {report : CheckReport} {file : VolunteerFile}
    {work : Work} (success : recordCrc ambient report file = .ok work) :
    file.volunteer.screeningBlock ≠ .disqualified ∧ report.reportDate ≤ ambient.today ∧
      ∃ written, setBlockFor ambient report.result (checkWritten ambient report file) =
          .ok written ∧
        work = ⟨{ written.file with
          reviewItems := queueAfter ambient (checkEntry ambient.settings file) written.file },
          written.resyncs⟩ := by
  obtain ⟨_, _, success⟩ := bind_eq_ok_iff.mp success
  obtain ⟨_, notFuture, success⟩ := bind_eq_ok_iff.mp success
  obtain ⟨_, allowed, success⟩ := bind_eq_ok_iff.mp success
  obtain ⟨_, _, success⟩ := bind_eq_ok_iff.mp success
  obtain ⟨written, blocked, success⟩ := bind_eq_ok_iff.mp success
  simp only [openIfUnverified_eq, ok_bind, pure_eq_ok_iff] at success
  refine ⟨?_, not_lt.mp (refuseIf_eq_ok_iff.mp notFuture), written, blocked, success.symm⟩
  simpa using refuseIf_eq_ok_iff.mp allowed

theorem checkWritten_volunteer (ambient : Ambient) (report : CheckReport) (file : VolunteerFile) :
    (checkWritten ambient report file).file.volunteer = file.volunteer := by
  rw [checkWritten_eq]
  rfl

theorem recordCrc_block {ambient : Ambient} {report : CheckReport} {file : VolunteerFile}
    {work : Work} (success : recordCrc ambient report file = .ok work) :
    work.file.requirementInstances =
        (checkWritten ambient report file).file.requirementInstances ∧
      (report.result = .notClear → work.file.volunteer.screeningBlock = .crcNotClear) ∧
      (report.result = .cleared → work.file.volunteer.screeningBlock = .none ∨
        work.file.volunteer.screeningBlock = file.volunteer.screeningBlock ∧
          file.volunteer.screeningBlock ≠ .crcNotClear ∧
          file.volunteer.screeningBlock ≠ .disqualified) := by
  obtain ⟨free, _, written, blocked, rfl⟩ := recordCrc_ok success
  obtain ⟨rfl, cleared, notBlocked⟩ | ⟨block, chosen, _, rfl⟩ := setBlockFor_ok blocked
  · rw [checkWritten_volunteer] at notBlocked
    refine ⟨rfl, ?_, ?_⟩
    · intro notClear
      cases cleared.symm.trans notClear
    · intro _
      refine .inr ⟨?_, notBlocked, free⟩
      show (checkWritten ambient report file).file.volunteer.screeningBlock = _
      rw [checkWritten_volunteer]
  · have stored := Work.saveVolunteer_screeningBlock (checkWritten ambient report file)
      { (checkWritten ambient report file).file.volunteer with
        screeningBlock := block
        screeningBlockRecordedAt := if block ≠ .none then some ambient.now else none }
    refine ⟨rfl, ?_, ?_⟩
    · intro notClear
      refine stored.trans (chosen.trans ?_)
      rw [notClear]
      rfl
    · intro cleared
      rw [if_pos cleared] at chosen
      exact .inl (stored.trans chosen)

structure ConvictionEntry where
  category : String
  isAutomaticDisqualifier : Bool
  description : String
  convictionDate : Option Date
  recordedBy : String

def ConvictionEntry.conviction (entry : ConvictionEntry) (crcRecord : Nat) :
    Except Refusal DisqualifyingConviction :=
  let category := Text.truncate 100 (Text.strip entry.category)
  if category = "" then .error (.invalid "Each conviction needs a policy category.")
  else
    .ok ⟨crcRecord, category, entry.isAutomaticDisqualifier, entry.description,
      entry.convictionDate, Text.truncate 150 entry.recordedBy⟩

def fetchCheck (position : Nat) (file : VolunteerFile) : Except Refusal CRCRecord :=
  match file.crcRecords[position]? with
  | some record => .ok record
  | none => .error .notFound

/-- Every outstanding requirement reads blocked. -/
def blockOutstanding (rows : Instances) : Instances := fun pk =>
  (rows pk).map fun row =>
    if row.status.isOutstanding then { row with status := .blocked } else row

/-- Enact an automatic disqualification: every assignment ends, the permanent block is set, and
every outstanding requirement is blocked. -/
def applyPermanentDisqualification (ambient : Ambient) (work : Work) : Work :=
  let work := work.endAssignments ambient.today
  let work := work.saveVolunteer { work.file.volunteer with
    screeningBlock := .disqualified
    screeningBlockRecordedAt := some ambient.now }
  work.write fun file =>
    { file with requirementInstances := blockOutstanding file.requirementInstances }

@[simp]
theorem applyPermanentDisqualification_block (ambient : Ambient) (work : Work) :
    (applyPermanentDisqualification ambient work).file.volunteer.screeningBlock =
      .disqualified :=
  Volunteer.deriveBirth_screeningBlock _

/-- The transaction of convictions once their rows are written. -/
def convictionsWritten (ambient : Ambient) (created : List DisqualifyingConviction)
    (file : VolunteerFile) : Work :=
  let work := Work.start { file with convictions := file.convictions ++ created }
  if created.any (·.isAutomaticDisqualifier) then applyPermanentDisqualification ambient work
  else work

def convictionsEntry (settings : Settings) (check : Nat) (created : List DisqualifyingConviction)
    (file : VolunteerFile) : Entry :=
  let ended :=
    if created.any (·.isAutomaticDisqualifier) then file.activeRoleNames settings else []
  ⟨.crc, .disqualifyingConviction file.convictions.length,
    file.volunteer.displayName ++ s!" — {created.length} conviction(s)",
    { Snapshot.empty with
      screeningBlock := some file.volunteer.screeningBlock
      endedAssignments := some ended },
    some (.crcRecord check)⟩

/-- Attach convictions to a Not Clear check.  Any automatic disqualifier bars the volunteer
permanently. -/
def recordConvictions (ambient : Ambient) (check : Nat) (entries : List ConvictionEntry)
    (file : VolunteerFile) : Except Refusal Work := do
  let record ← fetchCheck check file
  refuseSelfRecording ambient file
  refuseIf (record.result ≠ .notClear)
    (Refusal.invalid "Convictions are only recorded against a 'Not Clear' result.")
  let created ← entries.mapM (·.conviction check)
  let work := convictionsWritten ambient created file
  let after ← openReviewWhen (!created.isEmpty) ambient
    (convictionsEntry ambient.settings check created file) work.file
  return { work with file := after }

theorem ConvictionEntry.conviction_isAutomatic {entry : ConvictionEntry} {check : Nat}
    {conviction : DisqualifyingConviction} (made : entry.conviction check = .ok conviction) :
    conviction.isAutomaticDisqualifier = entry.isAutomaticDisqualifier := by
  unfold ConvictionEntry.conviction at made
  dsimp only at made
  split at made
  · cases made
  · cases made
    rfl

theorem convictions_any_isAutomatic {check : Nat} {entries : List ConvictionEntry}
    {created : List DisqualifyingConviction}
    (made : entries.mapM (·.conviction check) = .ok created) :
    created.any (·.isAutomaticDisqualifier) = entries.any (·.isAutomaticDisqualifier) := by
  have each := mapM_eq_ok_iff.mp made
  clear made
  induction each with
  | nil => rfl
  | cons first _ inductionHypothesis =>
      rw [List.any_cons, List.any_cons, inductionHypothesis,
        ConvictionEntry.conviction_isAutomatic first]

@[simp]
theorem convictionsWritten_reviewItems (ambient : Ambient)
    (created : List DisqualifyingConviction) (file : VolunteerFile) :
    (convictionsWritten ambient created file).file.reviewItems = file.reviewItems := by
  unfold convictionsWritten
  split <;> rfl

theorem recordConvictions_ok {ambient : Ambient} {check : Nat} {entries : List ConvictionEntry}
    {file : VolunteerFile} {work : Work}
    (success : recordConvictions ambient check entries file = .ok work) :
    ∃ created items,
      created.any (·.isAutomaticDisqualifier) = entries.any (·.isAutomaticDisqualifier) ∧
      items = (if entries.isEmpty then file.reviewItems else
        queueAfter ambient (convictionsEntry ambient.settings check created file)
          (convictionsWritten ambient created file).file) ∧
      work = ⟨{ (convictionsWritten ambient created file).file with
        reviewItems := items }, (convictionsWritten ambient created file).resyncs⟩ := by
  obtain ⟨record, _, success⟩ := bind_eq_ok_iff.mp success
  obtain ⟨_, _, success⟩ := bind_eq_ok_iff.mp success
  obtain ⟨_, _, success⟩ := bind_eq_ok_iff.mp success
  obtain ⟨created, made, success⟩ := bind_eq_ok_iff.mp success
  simp only [openReviewWhen_eq, ok_bind, pure_eq_ok_iff] at success
  refine ⟨created, _, convictions_any_isAutomatic made, ?_, success.symm⟩
  have sameLength := (mapM_eq_ok_iff.mp made).length_eq
  cases created with
  | nil =>
      obtain rfl := List.length_eq_zero_iff.mp sameLength
      simp
  | cons first rest =>
      cases entries with
      | nil => cases sameLength
      | cons _ _ => rfl

structure DecisionEntry where
  conviction : Option Nat
  decision : Decision
  decidedBy : String
  reasoning : String
  mitigationSteps : String
  decidedOn : Option Date

/-- A withdrawal blocks the volunteer and ends every assignment. -/
def withdraw (ambient : Ambient) (work : Work) : Except Refusal Work := do
  let work ← work.setScreeningBlock .withdrawn ambient.now
  return work.endAssignments ambient.today

/-- A declined decision withdraws the volunteer; an approval lifts a Not Clear block. -/
def applyDecision (ambient : Ambient) (decision : Decision) (work : Work) :
    Except Refusal Work :=
  if decision = .declined then withdraw ambient work
  else if work.file.volunteer.screeningBlock = .crcNotClear then
    work.setScreeningBlock .none ambient.now
  else .ok work

def DecisionEntry.override (entry : DecisionEntry) (check : Nat) (today : Date) :
    DiscretionaryOverride :=
  ⟨check, entry.conviction, entry.decision, entry.decidedOn.getD today,
    Text.truncate 150 entry.decidedBy, entry.reasoning, entry.mitigationSteps⟩

def DecisionEntry.isAutomatic (entry : DecisionEntry) (file : VolunteerFile) : Bool :=
  ((entry.conviction.bind fun position => file.convictions[position]?).map
    (·.isAutomaticDisqualifier)).getD false

def decisionEntry (settings : Settings) (check : Nat) (decision : Decision)
    (file : VolunteerFile) : Entry :=
  let ended := if decision = .declined then file.activeRoleNames settings else []
  ⟨.override, .discretionaryOverride file.overrides.length,
    file.volunteer.displayName ++ " — leadership decision",
    { Snapshot.empty with
      screeningBlock := some file.volunteer.screeningBlock
      endedAssignments := some ended },
    some (.crcRecord check)⟩

/-- Record a leadership decision on a discretionary red flag. -/
def recordDiscretionaryOverride (ambient : Ambient) (check : Nat) (entry : DecisionEntry)
    (file : VolunteerFile) : Except Refusal Work := do
  let _ ← fetchCheck check file
  refuseSelfRecording ambient file
  refuseIf (entry.isAutomatic file) (Refusal.invalid
    "Automatic disqualifiers under the Plan to Protect policy cannot be overridden.")
  refuseIf file.volunteer.isPermanentlyDisqualified (Refusal.invalid
    "This volunteer is permanently disqualified. That determination cannot be overridden.")
  let override := entry.override check ambient.today
  override.fullClean (entry.isAutomatic file)
  let work ← applyDecision ambient entry.decision
    (Work.start { file with overrides := file.overrides ++ [override] })
  let after ← openIfUnverified ambient (decisionEntry ambient.settings check entry.decision file)
    work.file
  return { work with file := after }

theorem recordDiscretionaryOverride_ok {ambient : Ambient} {check : Nat} {entry : DecisionEntry}
    {file : VolunteerFile} {work : Work}
    (success : recordDiscretionaryOverride ambient check entry file = .ok work) :
    file.volunteer.screeningBlock ≠ .disqualified ∧
      ∃ written items, applyDecision ambient entry.decision (Work.start { file with
          overrides := file.overrides ++ [entry.override check ambient.today] }) = .ok written ∧
        items = queueAfter ambient (decisionEntry ambient.settings check entry.decision file)
          written.file ∧
        work = ⟨{ written.file with reviewItems := items }, written.resyncs⟩ := by
  obtain ⟨_, _, success⟩ := bind_eq_ok_iff.mp success
  obtain ⟨_, _, success⟩ := bind_eq_ok_iff.mp success
  obtain ⟨_, _, success⟩ := bind_eq_ok_iff.mp success
  obtain ⟨_, allowed, success⟩ := bind_eq_ok_iff.mp success
  obtain ⟨_, _, success⟩ := bind_eq_ok_iff.mp success
  obtain ⟨written, decided, success⟩ := bind_eq_ok_iff.mp success
  simp only [openIfUnverified_eq, ok_bind, pure_eq_ok_iff] at success
  refine ⟨?_, written, _, decided, rfl, success.symm⟩
  simpa using refuseIf_eq_ok_iff.mp allowed

theorem withdraw_ok {ambient : Ambient} {work after : Work}
    (success : withdraw ambient work = .ok after) :
    work.file.volunteer.screeningBlock ≠ .disqualified ∧
      after = (work.saveVolunteer { work.file.volunteer with
        screeningBlock := .withdrawn
        screeningBlockRecordedAt := some ambient.now }).endAssignments ambient.today := by
  obtain ⟨blocked, set, success⟩ := bind_eq_ok_iff.mp success
  obtain ⟨allowed, rfl⟩ := Work.setScreeningBlock_ok set
  refine ⟨fun disqualified => ?_, (pure_eq_ok_iff.mp success).symm⟩
  cases allowed disqualified

theorem withdraw_block {ambient : Ambient} {work after : Work}
    (success : withdraw ambient work = .ok after) :
    after.file.volunteer.screeningBlock = .withdrawn ∧
      after.file.requirementInstances = work.file.requirementInstances := by
  obtain ⟨_, rfl⟩ := withdraw_ok success
  exact ⟨Work.saveVolunteer_screeningBlock work _, rfl⟩

theorem applyDecision_ok {ambient : Ambient} {decision : Decision} {work after : Work}
    (success : applyDecision ambient decision work = .ok after) :
    withdraw ambient work = .ok after ∨
      work.file.volunteer.screeningBlock = .crcNotClear ∧
        after = work.saveVolunteer { work.file.volunteer with
          screeningBlock := .none
          screeningBlockRecordedAt := none } ∨
      work.file.volunteer.screeningBlock ≠ .crcNotClear ∧ after = work := by
  unfold applyDecision at success
  split at success
  · exact .inl success
  · split at success
    · next blocked => exact .inr (.inl ⟨blocked, (Work.setScreeningBlock_ok success).2⟩)
    · next free => exact .inr (.inr ⟨free, (Except.ok.inj success).symm⟩)

def CRCRecord.resolved (record : CRCRecord) (outcome : CRCNotClearOutcome) (notes : String) :
    CRCRecord :=
  { record with
    notClearOutcome := some outcome
    notes := if notes ≠ "" then Text.strip (record.notes ++ "\n" ++ notes) else record.notes }

def resolveBlock (ambient : Ambient) (outcome : CRCNotClearOutcome) (work : Work) :
    Except Refusal Work :=
  if outcome = .withdrew then withdraw ambient work else .ok work

def resolveNotClear (ambient : Ambient) (check : Nat) (outcome : CRCNotClearOutcome)
    (notes : String) (file : VolunteerFile) : Except Refusal Work := do
  let record ← fetchCheck check file
  refuseSelfRecording ambient file
  refuseIf (record.result ≠ .notClear)
    (Refusal.invalid "Only a 'Not Clear' result needs an outcome recorded.")
  resolveBlock ambient outcome (Work.start { file with
    crcRecords := file.crcRecords.set check (record.resolved outcome notes) })

theorem resolveNotClear_ok {ambient : Ambient} {check : Nat} {outcome : CRCNotClearOutcome}
    {notes : String} {file : VolunteerFile} {work : Work}
    (success : resolveNotClear ambient check outcome notes file = .ok work) :
    ∃ record, file.crcRecords[check]? = some record ∧
      (withdraw ambient (Work.start { file with
          crcRecords := file.crcRecords.set check (record.resolved outcome notes) }) = .ok work ∨
        work = Work.start { file with
          crcRecords := file.crcRecords.set check (record.resolved outcome notes) }) := by
  obtain ⟨record, found, success⟩ := bind_eq_ok_iff.mp success
  obtain ⟨_, _, success⟩ := bind_eq_ok_iff.mp success
  obtain ⟨_, _, success⟩ := bind_eq_ok_iff.mp success
  refine ⟨record, ?_, ?_⟩
  · unfold fetchCheck at found
    split at found
    · next present => rw [present, Except.ok.inj found]
    · cases found
  · unfold resolveBlock at success
    split at success
    · exact .inl success
    · exact .inr (Except.ok.inj success).symm

end VolunteerScreening.Requirements
