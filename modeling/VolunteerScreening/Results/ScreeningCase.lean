import VolunteerScreening.Life
import VolunteerScreening.Results.OperativeCheck

/-!
# A screening block is accounted for by the file

What the rules of a screening are about is a small case: what each check found,
the convictions and the decisions recorded on the checks, and the block.  A case
moves in six ways, and every operation on a file is one of them.  In a case that
has moved in no other way the records account for the block.
-/

namespace VolunteerScreening

open Calendar Documents Fallible Org Requirements Review

/-- What each check found and how it was resolved, the convictions and decisions with the check
they are about, and the block, which is stamped while there is one. -/
structure ScreeningCase where
  block : ScreeningBlock
  isStamped : Bool
  findings : List (CRCResult × Option CRCNotClearOutcome)
  convictions : List (Nat × Bool)
  decisions : List (Nat × Decision)

namespace ScreeningCase

variable (case : ScreeningCase)

def withBlock (block : ScreeningBlock) : ScreeningCase :=
  { case with block := block, isStamped := block ≠ .none }

def checked (result : CRCResult) : ScreeningCase :=
  let added := { case with
    findings := case.findings ++ [(result, if result = .notClear then some .pending else none)] }
  match result with
  | .cleared => if case.block = .crcNotClear then added.withBlock .none else added
  | .notClear => added.withBlock .crcNotClear

def convicted (check : Nat) (created : List Bool) : ScreeningCase :=
  let added := { case with convictions := case.convictions ++ created.map (check, ·) }
  if created.any id then added.withBlock .disqualified else added

def decided (check : Nat) (decision : Decision) : ScreeningCase :=
  let added := { case with decisions := case.decisions ++ [(check, decision)] }
  if decision = .declined then added.withBlock .withdrawn
  else if case.block = .crcNotClear then added.withBlock .none
  else added

def resolved (check : Nat) (outcome : CRCNotClearOutcome) : ScreeningCase :=
  let added := { case with findings := case.findings.set check (.notClear, some outcome) }
  if outcome = .withdrew then added.withBlock .withdrawn else added

/-- The moves of a case.  None of them leaves a disqualification. -/
inductive Move (before : ScreeningCase) : ScreeningCase → Prop where
  | kept : Move before before
  | check (result : CRCResult) (free : before.block ≠ .disqualified) :
      Move before (before.checked result)
  | convictions {check : Nat} (created : List Bool) {earlier : Option CRCNotClearOutcome}
      (found : before.findings[check]? = some (.notClear, earlier)) :
      Move before (before.convicted check created)
  | decision {check : Nat} (decision : Decision) (free : before.block ≠ .disqualified)
      (found : check < before.findings.length) : Move before (before.decided check decision)
  | resolution {check : Nat} (outcome : CRCNotClearOutcome) {earlier : Option CRCNotClearOutcome}
      (free : outcome = .withdrew → before.block ≠ .disqualified)
      (found : before.findings[check]? = some (.notClear, earlier)) :
      Move before (before.resolved check outcome)
  | lifted (blocked : before.block = .crcNotClear) : Move before (before.withBlock .none)

/-- What the records say of one another: a check has an outcome when it was not clear, every
conviction is about such a check, every decision about some check. -/
structure WellRecorded (case : ScreeningCase) : Prop where
  resolutions : ∀ finding ∈ case.findings, finding.2.isSome = true ↔ finding.1 = .notClear
  convictions : ∀ conviction ∈ case.convictions,
    ∃ outcome, case.findings[conviction.1]? = some (.notClear, outcome)
  decisions : ∀ decision ∈ case.decisions, decision.1 < case.findings.length

/-- The records account for the block: a disqualification is an automatic conviction, a Not Clear
block is the latest check's, and a withdrawal was decided on or follows a check that was not clear.
-/
structure Accounted (case : ScreeningCase) : Prop extends case.WellRecorded where
  disqualified : case.block = .disqualified ↔ ∃ conviction ∈ case.convictions, conviction.2 = true
  notClear : case.block = .crcNotClear →
    ∃ outcome, case.findings.getLast? = some (.notClear, outcome)
  withdrawn : case.block = .withdrawn → (∃ decision ∈ case.decisions, decision.2 = .declined) ∨
    ∃ finding ∈ case.findings, finding.1 = .notClear
  stamped : case.isStamped = true ↔ case.block ≠ .none

variable {case}

/-! ## Every move keeps the account -/

section Moves

variable {after : ScreeningCase}

theorem WellRecorded.checked (recorded : case.WellRecorded) (result : CRCResult) :
    ({ case with findings := case.findings ++
      [(result, if result = .notClear then some .pending else none)] } :
        ScreeningCase).WellRecorded := by
  refine ⟨fun finding listed => ?_, fun conviction listed => ?_, fun decision listed => ?_⟩
  · rcases List.mem_append.mp listed with old | new
    · exact recorded.resolutions finding old
    · obtain rfl := List.mem_singleton.mp new
      cases result <;> simp
  · obtain ⟨outcome, found⟩ := recorded.convictions conviction listed
    refine ⟨outcome, ?_⟩
    rw [List.getElem?_append_left (List.getElem?_eq_some_iff.mp found).1]
    exact found
  · dsimp only
    rw [List.length_append]
    exact Nat.lt_add_right _ (recorded.decisions decision listed)

theorem WellRecorded.convicted (recorded : case.WellRecorded) {check : Nat} (created : List Bool)
    {earlier : Option CRCNotClearOutcome}
    (found : case.findings[check]? = some (.notClear, earlier)) :
    ({ case with convictions := case.convictions ++ created.map (check, ·) } :
      ScreeningCase).WellRecorded := by
  refine { recorded with convictions := fun conviction listed => ?_ }
  rcases List.mem_append.mp listed with old | new
  · exact recorded.convictions conviction old
  · obtain ⟨automatic, _, rfl⟩ := List.mem_map.mp new
    exact ⟨earlier, found⟩

theorem WellRecorded.decided (recorded : case.WellRecorded) {check : Nat} (decision : Decision)
    (found : check < case.findings.length) :
    ({ case with decisions := case.decisions ++ [(check, decision)] } :
      ScreeningCase).WellRecorded := by
  refine { recorded with decisions := fun other listed => ?_ }
  rcases List.mem_append.mp listed with old | new
  · exact recorded.decisions other old
  · obtain rfl := List.mem_singleton.mp new
    exact found

theorem WellRecorded.resolved (recorded : case.WellRecorded) {check : Nat}
    (outcome : CRCNotClearOutcome) {earlier : Option CRCNotClearOutcome}
    (found : case.findings[check]? = some (.notClear, earlier)) :
    ({ case with findings := case.findings.set check (.notClear, some outcome) } :
      ScreeningCase).WellRecorded := by
  obtain ⟨within, _⟩ := List.getElem?_eq_some_iff.mp found
  refine ⟨fun finding listed => ?_, fun conviction listed => ?_, fun decision listed => ?_⟩
  · obtain old | rfl := List.mem_or_eq_of_mem_set listed
    · exact recorded.resolutions finding old
    · simp
  · obtain ⟨other, there⟩ := recorded.convictions conviction listed
    by_cases same : check = conviction.1
    · exact ⟨some outcome, by rw [← same]; exact List.getElem?_set_self within⟩
    · exact ⟨other, by rw [← there]; exact List.getElem?_set_ne same⟩
  · dsimp only
    rw [List.length_set]
    exact recorded.decisions decision listed

/-- A file that is not disqualified has no automatic conviction. -/
theorem Accounted.unconvicted (accounted : case.Accounted) (free : case.block ≠ .disqualified) :
    ¬∃ conviction ∈ case.convictions, conviction.2 = true :=
  fun automatic => free (accounted.disqualified.mpr automatic)

/-- The block is lifted where no conviction is automatic. -/
theorem accounted_lifted (recorded : case.WellRecorded)
    (unconvicted : ¬∃ conviction ∈ case.convictions, conviction.2 = true) :
    (case.withBlock .none).Accounted where
  toWellRecorded := ⟨recorded.resolutions, recorded.convictions, recorded.decisions⟩
  disqualified := ⟨nofun, fun automatic => absurd automatic unconvicted⟩
  notClear := nofun
  withdrawn := nofun
  stamped := by simp [withBlock]

theorem accounted_withdrawn (recorded : case.WellRecorded)
    (unconvicted : ¬∃ conviction ∈ case.convictions, conviction.2 = true)
    (reason : (∃ decision ∈ case.decisions, decision.2 = .declined) ∨
      ∃ finding ∈ case.findings, finding.1 = .notClear) :
    (case.withBlock .withdrawn).Accounted where
  toWellRecorded := ⟨recorded.resolutions, recorded.convictions, recorded.decisions⟩
  disqualified := ⟨nofun, fun automatic => absurd automatic unconvicted⟩
  notClear := nofun
  withdrawn := fun _ => reason
  stamped := by simp [withBlock]

theorem Accounted.checked (accounted : case.Accounted) (result : CRCResult)
    (free : case.block ≠ .disqualified) : (case.checked result).Accounted := by
  have recorded := accounted.toWellRecorded.checked result
  have unconvicted := accounted.unconvicted free
  cases result with
  | notClear =>
      refine { recorded with
        disqualified := ⟨nofun, fun automatic => absurd automatic unconvicted⟩
        notClear := fun _ => ⟨some .pending, List.getLast?_concat⟩
        withdrawn := nofun
        stamped := ?_ }
      simp [ScreeningCase.checked, withBlock]
  | cleared =>
      unfold ScreeningCase.checked
      dsimp only
      split
      · exact accounted_lifted recorded unconvicted
      · next unblocked =>
          refine { recorded with
            disqualified := accounted.disqualified
            notClear := fun blocked => absurd blocked unblocked
            withdrawn := fun withdrew => ?_
            stamped := accounted.stamped }
          rcases accounted.withdrawn withdrew with declined | ⟨finding, listed, notClear⟩
          · exact .inl declined
          · exact .inr ⟨finding, List.mem_append_left _ listed, notClear⟩

theorem Accounted.convicted (accounted : case.Accounted) {check : Nat} (created : List Bool)
    {earlier : Option CRCNotClearOutcome}
    (found : case.findings[check]? = some (.notClear, earlier)) :
    (case.convicted check created).Accounted := by
  have recorded := accounted.toWellRecorded.convicted created found
  unfold ScreeningCase.convicted
  dsimp only
  split
  · next automatic =>
      obtain ⟨_, listed, rfl⟩ := List.any_eq_true.mp automatic
      have barred : ∃ conviction ∈ case.convictions ++ created.map (check, ·),
          conviction.2 = true :=
        ⟨(check, true), List.mem_append_right _ (List.mem_map_of_mem listed), rfl⟩
      exact {
        toWellRecorded := ⟨recorded.resolutions, recorded.convictions, recorded.decisions⟩
        disqualified := ⟨fun _ => barred, fun _ => rfl⟩
        notClear := nofun
        withdrawn := nofun
        stamped := by simp [withBlock] }
  · next discretionary =>
      refine { recorded with
        disqualified := accounted.disqualified.trans ?_
        notClear := accounted.notClear
        withdrawn := accounted.withdrawn
        stamped := accounted.stamped }
      constructor
      · rintro ⟨conviction, listed, automatic⟩
        exact ⟨conviction, List.mem_append_left _ listed, automatic⟩
      · rintro ⟨conviction, listed, automatic⟩
        rcases List.mem_append.mp listed with old | new
        · exact ⟨conviction, old, automatic⟩
        · obtain ⟨_, among, rfl⟩ := List.mem_map.mp new
          exact absurd (List.any_eq_true.mpr ⟨_, among, automatic⟩) discretionary

theorem Accounted.decided (accounted : case.Accounted) {check : Nat} (decision : Decision)
    (free : case.block ≠ .disqualified) (found : check < case.findings.length) :
    (case.decided check decision).Accounted := by
  have recorded := accounted.toWellRecorded.decided decision found
  have unconvicted := accounted.unconvicted free
  unfold ScreeningCase.decided
  dsimp only
  split
  · next declined =>
      refine accounted_withdrawn recorded unconvicted (.inl ⟨(check, decision), ?_, declined⟩)
      exact List.mem_append_right _ List.mem_cons_self
  · split
    · exact accounted_lifted recorded unconvicted
    · refine { recorded with
        disqualified := accounted.disqualified
        notClear := accounted.notClear
        withdrawn := fun withdrew => ?_
        stamped := accounted.stamped }
      rcases accounted.withdrawn withdrew with ⟨other, listed, declined⟩ | notClear
      · exact .inl ⟨other, List.mem_append_left _ listed, declined⟩
      · exact .inr notClear

theorem Accounted.resolved (accounted : case.Accounted) {check : Nat}
    (outcome : CRCNotClearOutcome) {earlier : Option CRCNotClearOutcome}
    (free : outcome = .withdrew → case.block ≠ .disqualified)
    (found : case.findings[check]? = some (.notClear, earlier)) :
    (case.resolved check outcome).Accounted := by
  have recorded := accounted.toWellRecorded.resolved outcome found
  obtain ⟨within, _⟩ := List.getElem?_eq_some_iff.mp found
  have still : ∃ finding ∈ case.findings.set check (.notClear, some outcome),
      finding.1 = .notClear := ⟨_, List.mem_set within _, rfl⟩
  unfold ScreeningCase.resolved
  dsimp only
  split
  · next withdrew =>
      exact accounted_withdrawn recorded (accounted.unconvicted (free withdrew)) (.inr still)
  · refine { recorded with
      disqualified := accounted.disqualified
      notClear := fun blocked => ?_
      withdrawn := fun withdrew => (accounted.withdrawn withdrew).imp_right fun _ => still
      stamped := accounted.stamped }
    obtain ⟨latest, last⟩ := accounted.notClear blocked
    dsimp only
    rw [List.getLast?_eq_getElem?] at last ⊢
    rw [List.length_set]
    by_cases same : check = case.findings.length - 1
    · exact ⟨some outcome, by rw [← same]; exact List.getElem?_set_self within⟩
    · exact ⟨latest, by rw [← last]; exact List.getElem?_set_ne same⟩

theorem Accounted.move (accounted : case.Accounted) (move : Move case after) :
    after.Accounted := by
  cases move with
  | kept => exact accounted
  | check result free => exact accounted.checked result free
  | convictions created found => exact accounted.convicted created found
  | decision decision free found => exact accounted.decided decision free found
  | resolution outcome free found => exact accounted.resolved outcome free found
  | lifted blocked =>
      apply accounted_lifted accounted.toWellRecorded
      apply accounted.unconvicted
      rw [blocked]
      decide

end Moves

end ScreeningCase

/-! ## The case of a file -/

open ScreeningCase

def VolunteerFile.screeningCase (file : VolunteerFile) : ScreeningCase where
  block := file.volunteer.screeningBlock
  isStamped := file.volunteer.screeningBlockRecordedAt.isSome
  findings := file.crcRecords.map fun record => (record.result, record.notClearOutcome)
  convictions := file.convictions.map fun conviction =>
    (conviction.crcRecord, conviction.isAutomaticDisqualifier)
  decisions := file.overrides.map fun override => (override.crcRecord, override.decision)

section Files

variable {ambient : Ambient} {file after : VolunteerFile} {work : Work}

theorem ScreeningCase.Move.of_eq {before after : ScreeningCase} (same : after = before) :
    Move before after := by
  rw [same]
  exact .kept

theorem screeningCase_found {check : Nat} {record : CRCRecord}
    (found : file.crcRecords[check]? = some record) :
    file.screeningCase.findings[check]? = some (record.result, record.notClearOutcome) := by
  rw [VolunteerFile.screeningCase, List.getElem?_map, found]
  rfl

theorem screeningCase_saveVolunteer (work : Work) (volunteer : Volunteer) :
    (work.saveVolunteer volunteer).file.screeningCase =
      { work.file.screeningCase with
        block := volunteer.screeningBlock
        isStamped := volunteer.screeningBlockRecordedAt.isSome } := by
  have stamp : volunteer.deriveBirth.screeningBlockRecordedAt =
      volunteer.screeningBlockRecordedAt := by
    unfold Volunteer.deriveBirth
    split <;> rfl
  unfold VolunteerFile.screeningCase Work.saveVolunteer
  dsimp only
  rw [stamp, Volunteer.deriveBirth_screeningBlock]

theorem screeningCase_blockSaved (work : Work) (block : ScreeningBlock) (now : Nat) :
    (work.saveVolunteer { work.file.volunteer with
      screeningBlock := block
      screeningBlockRecordedAt := if block ≠ .none then some now else none }).file.screeningCase =
      work.file.screeningCase.withBlock block := by
  rw [screeningCase_saveVolunteer, withBlock]
  cases block <;> rfl

theorem screeningCase_saved (work : Work) {volunteer : Volunteer}
    (block : volunteer.screeningBlock = work.file.volunteer.screeningBlock)
    (stamp : volunteer.screeningBlockRecordedAt = work.file.volunteer.screeningBlockRecordedAt) :
    (work.saveVolunteer volunteer).file.screeningCase = work.file.screeningCase := by
  rw [screeningCase_saveVolunteer, block, stamp]
  rfl

theorem screeningCase_refreshed (settings : Settings) (today : Date) (pk : Pk)
    (file : VolunteerFile) :
    (refreshDependents settings today pk file).screeningCase = file.screeningCase := by
  rw [refreshDependents_eq]
  rfl

/-- What a check displaces keeps its finding. -/
theorem screeningCase_addCheck (record : CRCRecord) (file : VolunteerFile) :
    (addCheck record file).screeningCase = { file.screeningCase with
      findings := file.screeningCase.findings ++ [(record.result, record.notClearOutcome)] } := by
  have kept : ∀ (position : Nat) (link : Option Nat),
      (file.crcRecords.modify position fun check => { check with supersededBy := link }).map
          (fun record => (record.result, record.notClearOutcome)) =
        file.crcRecords.map fun record => (record.result, record.notClearOutcome) := by
    intro position link
    apply List.ext_getElem?
    intro other
    rw [List.getElem?_map, List.getElem?_map, List.getElem?_modify]
    by_cases same : position = other
    · cases file.crcRecords[other]? <;> simp [same]
    · simp [same]
  unfold VolunteerFile.screeningCase addCheck
  cases previousCheck file.crcRecords with
  | none => simp
  | some previous => simp [kept]

theorem recordCrc_case {report : CheckReport}
    (success : recordCrc ambient report file = .ok work) :
    Move file.screeningCase work.file.screeningCase := by
  obtain ⟨free, _, written, blocked, rfl⟩ := recordCrc_ok success
  have added : (checkWritten ambient report file).file.screeningCase = { file.screeningCase with
      findings := file.screeningCase.findings ++
        [(report.result, if report.result = .notClear then some .pending else none)] } := by
    rw [checkWritten_eq]
    exact screeningCase_addCheck _ file
  have same : written.file.screeningCase = file.screeningCase.checked report.result := by
    have volunteer := checkWritten_volunteer ambient report file
    obtain ⟨rfl, cleared, unblocked⟩ | ⟨block, chosen, lifts, rfl⟩ := setBlockFor_ok blocked
    · rw [volunteer] at unblocked
      rw [added, cleared]
      exact (if_neg unblocked).symm
    · rw [screeningCase_blockSaved, added, chosen]
      cases result : report.result with
      | notClear => rfl
      | cleared =>
          have notClear := lifts result
          rw [volunteer] at notClear
          exact (if_pos notClear).symm
  show Move file.screeningCase written.file.screeningCase
  rw [same]
  exact .check report.result free

theorem fetchCheck_ok {check : Nat} {record : CRCRecord}
    (found : fetchCheck check file = .ok record) : file.crcRecords[check]? = some record := by
  unfold fetchCheck at found
  split at found
  · next present => rw [present, Except.ok.inj found]
  · cases found

theorem ConvictionEntry.conviction_crcRecord {entry : ConvictionEntry} {check : Nat}
    {conviction : DisqualifyingConviction} (made : entry.conviction check = .ok conviction) :
    conviction.crcRecord = check := by
  unfold ConvictionEntry.conviction at made
  dsimp only at made
  split at made
  · cases made
  · cases made
    rfl

theorem convictions_onCheck {check : Nat} {entries : List ConvictionEntry}
    {created : List DisqualifyingConviction}
    (made : entries.mapM (·.conviction check) = .ok created) :
    created.map (fun conviction =>
        (conviction.crcRecord, conviction.isAutomaticDisqualifier)) =
      (created.map (·.isAutomaticDisqualifier)).map (check, ·) := by
  have each := mapM_eq_ok_iff.mp made
  clear made
  induction each with
  | nil => rfl
  | cons first _ inductionHypothesis =>
      rw [List.map_cons, inductionHypothesis, ConvictionEntry.conviction_crcRecord first]
      rfl

theorem convictionsWritten_case (ambient : Ambient) {check : Nat}
    {created : List DisqualifyingConviction} (file : VolunteerFile)
    (onCheck : created.map (fun conviction =>
        (conviction.crcRecord, conviction.isAutomaticDisqualifier)) =
      (created.map (·.isAutomaticDisqualifier)).map (check, ·)) :
    (convictionsWritten ambient created file).file.screeningCase =
      file.screeningCase.convicted check (created.map (·.isAutomaticDisqualifier)) := by
  have added : ({ file with convictions := file.convictions ++ created } :
      VolunteerFile).screeningCase = { file.screeningCase with
        convictions := file.screeningCase.convictions ++
          (created.map (·.isAutomaticDisqualifier)).map (check, ·) } := by
    rw [← onCheck]
    unfold VolunteerFile.screeningCase
    dsimp only
    rw [List.map_append]
  have any : (created.map (·.isAutomaticDisqualifier)).any id =
      created.any (·.isAutomaticDisqualifier) := by
    rw [List.any_map]
    rfl
  unfold convictionsWritten convicted
  dsimp only
  rw [any, ← added]
  split
  · exact screeningCase_blockSaved ((Work.start { file with
      convictions := file.convictions ++ created }).endAssignments ambient.today) .disqualified
      ambient.now
  · rfl

theorem recordConvictions_case {check : Nat} {entries : List ConvictionEntry}
    (success : recordConvictions ambient check entries file = .ok work) :
    Move file.screeningCase work.file.screeningCase := by
  obtain ⟨record, fetched, success⟩ := bind_eq_ok_iff.mp success
  obtain ⟨_, _, success⟩ := bind_eq_ok_iff.mp success
  obtain ⟨_, notClear, success⟩ := bind_eq_ok_iff.mp success
  obtain ⟨created, made, success⟩ := bind_eq_ok_iff.mp success
  simp only [openReviewWhen_eq, ok_bind, pure_eq_ok_iff] at success
  subst success
  have found := screeningCase_found (fetchCheck_ok fetched)
  have result : record.result = .notClear := by simpa using refuseIf_eq_ok_iff.mp notClear
  rw [result] at found
  show Move file.screeningCase (convictionsWritten ambient created file).file.screeningCase
  rw [convictionsWritten_case ambient file (convictions_onCheck made)]
  exact .convictions _ found

/-- A withdrawal sets the block; it ends the assignments, which are not part of the case. -/
theorem withdraw_case {work after : Work} (success : withdraw ambient work = .ok after) :
    after.file.screeningCase = work.file.screeningCase.withBlock .withdrawn ∧
      work.file.screeningCase.block ≠ .disqualified := by
  obtain ⟨free, rfl⟩ := withdraw_ok success
  exact ⟨screeningCase_blockSaved work .withdrawn ambient.now, free⟩

theorem recordDiscretionaryOverride_case {check : Nat} {entry : DecisionEntry}
    (success : recordDiscretionaryOverride ambient check entry file = .ok work) :
    Move file.screeningCase work.file.screeningCase := by
  obtain ⟨free, written, items, applied, _, rfl⟩ := recordDiscretionaryOverride_ok success
  obtain ⟨record, fetched, _⟩ := bind_eq_ok_iff.mp success
  have within := (List.getElem?_eq_some_iff.mp (screeningCase_found (fetchCheck_ok fetched))).1
  have added : ({ file with overrides :=
      file.overrides ++ [entry.override check ambient.today] } : VolunteerFile).screeningCase =
      { file.screeningCase with
        decisions := file.screeningCase.decisions ++ [(check, entry.decision)] } := by
    unfold VolunteerFile.screeningCase
    dsimp only
    rw [List.map_append]
    rfl
  have same : written.file.screeningCase = file.screeningCase.decided check entry.decision := by
    unfold applyDecision at applied
    unfold decided
    dsimp only
    rw [← added]
    split at applied
    · next declined =>
        rw [if_pos declined]
        exact (withdraw_case applied).1
    · next approved =>
        rw [if_neg approved]
        split at applied
        · next blocked =>
            obtain ⟨_, rfl⟩ := Work.setScreeningBlock_ok applied
            rw [screeningCase_blockSaved]
            exact (if_pos blocked).symm
        · next unblocked =>
            cases applied
            exact (if_neg unblocked).symm
  show Move file.screeningCase written.file.screeningCase
  rw [same]
  exact .decision entry.decision free within

theorem resolveNotClear_case {check : Nat} {outcome : CRCNotClearOutcome} {notes : String}
    (success : resolveNotClear ambient check outcome notes file = .ok work) :
    Move file.screeningCase work.file.screeningCase := by
  obtain ⟨record, fetched, success⟩ := bind_eq_ok_iff.mp success
  obtain ⟨_, _, success⟩ := bind_eq_ok_iff.mp success
  obtain ⟨_, notClear, success⟩ := bind_eq_ok_iff.mp success
  have found := screeningCase_found (fetchCheck_ok fetched)
  have result : record.result = .notClear := by simpa using refuseIf_eq_ok_iff.mp notClear
  rw [result] at found
  let after : VolunteerFile :=
    { file with crcRecords := file.crcRecords.set check (record.resolved outcome notes) }
  have written : after.screeningCase = { file.screeningCase with
      findings := file.screeningCase.findings.set check (.notClear, some outcome) } := by
    unfold VolunteerFile.screeningCase
    dsimp only [after]
    rw [List.map_set, ← result]
    rfl
  unfold resolveBlock at success
  split at success
  · next withdrew =>
      obtain ⟨same, free⟩ := withdraw_case success
      have resolved : work.file.screeningCase = file.screeningCase.resolved check outcome := by
        unfold ScreeningCase.resolved
        dsimp only
        rw [same, if_pos withdrew, ← written]
        rfl
      rw [resolved]
      exact .resolution outcome (fun _ => free) found
  · next stays =>
      cases success
      have resolved : after.screeningCase = file.screeningCase.resolved check outcome := by
        unfold ScreeningCase.resolved
        dsimp only
        rw [if_neg stays, written]
      show Move file.screeningCase after.screeningCase
      rw [resolved]
      exact .resolution outcome (fun withdrew => absurd withdrew stays) found

theorem storeDocument_case {entry : DocumentEntry}
    (success : storeDocument ambient entry file = .ok after) :
    after.screeningCase = file.screeningCase := by
  obtain ⟨document, written, completed, rfl | ⟨pk, definition, row, completedOn, rfl⟩, rfl⟩ :=
    storeDocument_ok success
  · rfl
  · exact screeningCase_refreshed ambient.settings ambient.today pk _

/-- A retraction lifts a check's block at most, and no finding goes. -/
theorem retractedRows_case (ambient : Ambient) (item : ReviewItem) (file : VolunteerFile) :
    (retractedRows ambient item file).screeningCase = file.screeningCase := by
  rw [retractedRows_eq]
  unfold restorePrevious VolunteerFile.screeningCase
  cases item.beforeState.supersededById with
  | none => rfl
  | some earlier =>
      dsimp only
      congr 1
      apply List.ext_getElem?
      intro other
      rw [List.getElem?_map, List.getElem?_map, List.getElem?_modify]
      by_cases same : earlier = other
      · cases file.crcRecords[other]? <;> simp [same]
      · simp [same]

theorem sendBack_case {user : Core.User} {position : Nat} {reason : String} {outcome : Outcome}
    (success : sendBack ambient user position reason file = .ok (work, outcome)) :
    Move file.screeningCase work.file.screeningCase := by
  obtain ⟨item, reverted, _, _, _, undone, rfl⟩ := sendBack_ok success
  show Move file.screeningCase reverted.file.screeningCase
  obtain ⟨_, _, _, _, _, _, retracted⟩ | ⟨_, _, _, _, rfl⟩ := revert_ok undone
  · rw [retractCheck_eq] at retracted
    cases retracted
    have rows : ((Work.start file).write (retractedRows ambient item)).file.screeningCase =
        file.screeningCase := retractedRows_case ambient item file
    unfold lifted
    split
    · next blocked =>
        have same := screeningCase_blockSaved
          ((Work.start file).write (retractedRows ambient item)) .none ambient.now
        rw [rows] at same
        have notClear : file.screeningCase.block = .crcNotClear := by
          rw [← rows]
          exact blocked
        have move := Move.lifted notClear
        rw [← same] at move
        exact move
    · exact .of_eq rows
  · exact .kept

/-- Whatever is done to a file is a move of its case. -/
theorem perform_case {operation : Operation}
    (success : perform ambient operation file = .ok work) :
    Move file.screeningCase work.file.screeningCase := by
  cases operation with
  | markRequirementComplete =>
      obtain ⟨_, written, rfl⟩ := map_eq_ok_iff.mp success
      obtain ⟨_, _, _, _, _, _, rfl⟩ := markRequirementComplete_ok written
      exact .of_eq (screeningCase_refreshed _ _ _ _)
  | startRequirement =>
      obtain ⟨_, written, rfl⟩ := map_eq_ok_iff.mp success
      obtain ⟨_, _, rfl⟩ := startRequirement_ok written
      dsimp only [Work.start]
      split <;> exact .kept
  | waiveRequirement =>
      obtain ⟨_, written, rfl⟩ := map_eq_ok_iff.mp success
      obtain ⟨_, _, _, _, _, rfl⟩ := waiveRequirement_ok written
      exact .of_eq (screeningCase_refreshed _ _ _ _)
  | reverseWaiver =>
      obtain ⟨_, written, rfl⟩ := map_eq_ok_iff.mp success
      obtain ⟨_, _, _, rfl⟩ := reverseWaiver_ok written
      exact .of_eq (screeningCase_refreshed _ _ _ _)
  | recordCrc => exact recordCrc_case success
  | recordConvictions => exact recordConvictions_case success
  | recordDiscretionaryOverride => exact recordDiscretionaryOverride_case success
  | resolveNotClear => exact resolveNotClear_case success
  | storeDocument =>
      obtain ⟨_, written, rfl⟩ := map_eq_ok_iff.mp success
      exact .of_eq (storeDocument_case written)
  | affirm =>
      obtain ⟨_, written, rfl⟩ := map_eq_ok_iff.mp success
      obtain ⟨_, _, _, _, rfl⟩ := affirm_ok written
      exact .kept
  | sendBack =>
      obtain ⟨⟨_, _⟩, written, rfl⟩ := map_eq_ok_iff.mp success
      exact sendBack_case written
  | assignmentCreate =>
      obtain ⟨_, _, _, rfl⟩ := assignmentCreate_ok success
      exact .kept
  | assignmentEnd =>
      obtain ⟨_, _, _, rfl⟩ := assignmentEnd_ok success
      unfold deactivateIfUnassigned
      split
      · exact .of_eq (screeningCase_saved ⟨{ file with assignments := _ }, 1⟩ rfl rfl)
      · exact .kept
  | volunteerEdit =>
      obtain ⟨_, _, _, rfl⟩ := volunteerEdit_ok success
      exact .of_eq (screeningCase_saved (Work.start file) rfl rfl)
  | volunteerDeactivate =>
      obtain ⟨_, _, _, _, rfl, rfl⟩ := volunteerDeactivate_ok success
      split <;> exact .of_eq (screeningCase_saved (Work.start file) rfl rfl)
  | volunteerReactivate =>
      obtain ⟨_, _, rfl⟩ := volunteerReactivate_ok success
      exact .of_eq (screeningCase_saved (Work.start file) rfl rfl)
  | volunteerResync =>
      obtain ⟨_, rfl⟩ := volunteerResync_ok success
      exact .kept
  | syncVolunteerRequirements =>
      cases success
      exact .kept
  | nightlySweep =>
      cases success
      dsimp only [Work.start, sweepVolunteer]
      split <;> exact .kept

theorem fileChange_case (change : FileChange file after) :
    Move file.screeningCase after.screeningCase := by
  cases change with
  | performed success => exact perform_case success
  | linked subject => exact .of_eq (screeningCase_saved (Work.start file) rfl rfl)
  | synced settings asOf => exact .kept
  | swept settings asOf write =>
      rw [sweepStep_eq]
      exact .kept

end Files

/-- Over the whole life of a church that starts with no files, every file's block is accounted for
by what is recorded in it: who is permanently disqualified has an automatic conviction on a check
that was not clear, and who has one is disqualified; a Not Clear block is the latest check's; a
withdrawal was decided on, or follows a check that was not clear; and a block has its date. -/
theorem blocks_accounted {church : Church} (empty : church.files = [])
    (events : List ChurchEvent) :
    Machine.Always lifeStep
      (fun church => ∀ file ∈ church.files, file.screeningCase.Accounted) church events := by
  refine life_always ?_ ?_ empty events
  · intro file new
    obtain ⟨free, unrecorded, blank⟩ := new
    have blankCase : file.screeningCase = ⟨.none, false, [], [], []⟩ := by
      rw [blank]
      unfold VolunteerFile.screeningCase
      dsimp only [VolunteerFile.opened]
      rw [free, unrecorded]
      rfl
    rw [blankCase]
    exact ⟨⟨by simp, by simp, by simp⟩, by simp, by simp, by simp, by simp⟩
  · intro before after change accounted
    exact accounted.move (fileChange_case change)

namespace Sample

/-- A volunteer whose check was not clear, with an automatic conviction on it, and a sweep that
comes to three of its writes. -/
def barredLife : List ChurchEvent :=
  [.request (visit 0) (.organisation (.volunteerCreate ⟨"Eve", "Hill", "", none, none, false⟩
      (some 1))),
    .request (visit 0) (.screening 0 (.crcRecordCreate
      ⟨.notClear, january 9, true, false, "Police", ""⟩)),
    .request (visit 0) (.screening 0 (.crcConvictionAdd 0
      ⟨"Sexual assault", "", none, true⟩)),
    .night (january 11) 3]

end Sample

theorem blocks_accounted_barred :
    (Machine.run lifeStep (Sample.church Sample.recordCheckOnly []) Sample.barredLife).files.map
        (·.volunteer.screeningBlock) = [.disqualified] ∧
      Machine.Always lifeStep
        (fun church => ∀ file ∈ church.files, file.screeningCase.Accounted)
        (Sample.church Sample.recordCheckOnly []) Sample.barredLife :=
  ⟨by decide +kernel, blocks_accounted rfl Sample.barredLife⟩

end VolunteerScreening
