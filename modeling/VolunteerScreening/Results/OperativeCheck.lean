import VolunteerScreening.Operations
import VolunteerScreening.Review.Supersession

/-!
# At most one operative check

Recording a check supersedes the operative one.  Retracting a check puts its
predecessor back, but nothing marks the check that was retracted, so it stays
operative itself.
-/

namespace VolunteerScreening

open Calendar Documents Fallible Org Requirements Review

open VolunteerFile

/-! ## What one request does to the checks -/

/-- A send-back that the queue and the check's own rule let retract a check. -/
inductive Retracts (file : VolunteerFile) (request : Request) (check : Nat) : Prop where
  | intro {user : Core.User} {position : Nat} {reason : String} {item : ReviewItem}
      {record : CRCRecord} (asked : request.operation = .sendBack user position reason)
      (listed : file.reviewItems[position]? = some item) (kind : item.kind = .crc)
      (covers : item.entity = .crcRecord check)
      (allowed : requireReviewer request.ambient user item = .ok ())
      (short : user.displayName.length ≤ 150) (explained : Text.isBlank reason = false)
      (present : file.crcRecords[check]? = some record)
      (current : retractionRefused check record file = none)

theorem Retracts.operative {file : VolunteerFile} {request : Request} {check : Nat}
    (retracts : Retracts file request check) : file.Operative check := by
  obtain ⟨_, _, _, _, _, _, _, present, current⟩ := retracts
  refine operative_iff.mpr ⟨_, present, ?_⟩
  unfold retractionRefused at current
  split at current
  · cases current
  · split at current
    · cases current
    · next standing => simpa using standing

theorem sendBack_supersessions {ambient : Ambient} {user : Core.User} {position : Nat}
    {reason : String} {file : VolunteerFile} {work : Work} {outcome : Outcome}
    (success : sendBack ambient user position reason file = .ok (work, outcome)) :
    (∃ item check, file.reviewItems[position]? = some item ∧ item.kind = .crc ∧
        item.entity = .crcRecord check ∧ outcome.reverted = true ∧
        Retracts file ⟨ambient, .sendBack user position reason⟩ check ∧
        work.file.supersessions = file.reinstated item.beforeState.supersededById) ∨
      (∀ item, file.reviewItems[position]? = some item → item.kind = .crc →
        outcome.reverted = false) ∧ work.file.supersessions = file.supersessions := by
  obtain ⟨item, reverted, found, allowed, short, explained, undone, rfl⟩ :=
    sendBack_eq_ok_iff.mp success
  obtain ⟨check, record, kind, covers, present, current, retracted⟩ | ⟨refused, _, _, _, rfl⟩ :=
    revert_ok undone
  · obtain ⟨done, checks⟩ := retractCheck_crcRecords retracted
    refine .inl ⟨item, check, found, kind, covers, done,
      ⟨rfl, found, kind, covers, allowed, short, explained, present, current⟩, ?_⟩
    rw [← restorePrevious_supersessions]
    exact supersessions_congr checks
  · refine .inr ⟨?_, rfl⟩
    intro other foundOther kind
    rw [found] at foundOther
    cases foundOther
    exact refused kind

/-- The check whose recording a request retracts: the one a send-back reports reverted. -/
def retractedBy (file : VolunteerFile) (request : Request) : Option Nat :=
  match request.operation with
  | .sendBack user position reason =>
      match sendBack request.ambient user position reason file, file.reviewItems[position]? with
      | .ok (_, outcome), some item =>
          match item.kind, item.entity with
          | .crc, .crcRecord check => if outcome.reverted then some check else none
          | _, _ => none
      | _, _ => none
  | _ => none

theorem Retracts.isSendBack {file : VolunteerFile} {request : Request} {check : Nat}
    (retracts : Retracts file request check) :
    ∃ user position reason, request.operation = .sendBack user position reason := by
  obtain ⟨asked, _, _, _, _, _, _, _, _⟩ := retracts
  exact ⟨_, _, _, asked⟩

theorem Retracts.success {ambient : Ambient} {user : Core.User} {position : Nat}
    {reason : String} {file : VolunteerFile} {check : Nat}
    (retracts : Retracts file ⟨ambient, .sendBack user position reason⟩ check) :
    ∃ item work outcome, file.reviewItems[position]? = some item ∧ item.kind = .crc ∧
      item.entity = .crcRecord check ∧ outcome.reverted = true ∧
      sendBack ambient user position reason file = .ok (work, outcome) := by
  obtain @⟨_, _, _, item, record, asked, listed, kind, covers, allowed, short, explained, present,
    current⟩ := retracts
  obtain ⟨rfl, rfl, rfl⟩ := Operation.sendBack.inj asked
  have undone : revert ambient item reason (Work.start file) =
      .ok (lifted ((Work.start file).write (retractedRows ambient item)),
        ⟨true, ["the check itself is retained, marked as retracted"]⟩) := by
    unfold revert sendBackCrc
    simp only [kind, covers, Work.start, present, current]
    exact retractCheck_eq _ _ _
  exact ⟨item, _, _, listed, kind, covers, rfl, sendBack_eq_ok_iff.mpr
    ⟨item, _, listed, allowed, short, explained, undone, rfl⟩⟩

theorem Retracts.retractedBy_eq {file : VolunteerFile} {request : Request} {check : Nat}
    (retracts : Retracts file request check) : retractedBy file request = some check := by
  obtain ⟨ambient, operation⟩ := request
  obtain ⟨user, position, reason, rfl⟩ := retracts.isSendBack
  obtain ⟨item, work, outcome, listed, kind, covers, reverted, success⟩ := retracts.success
  simp [retractedBy, listed, kind, covers, reverted, success]

theorem Retracts.performs {file : VolunteerFile} {request : Request} {check : Nat}
    (retracts : Retracts file request check) :
    ∃ work, perform request.ambient request.operation file = .ok work := by
  obtain ⟨ambient, operation⟩ := request
  obtain ⟨user, position, reason, rfl⟩ := retracts.isSendBack
  obtain ⟨_, work, outcome, _, _, _, _, success⟩ := retracts.success
  exact ⟨work, map_eq_ok_iff.mpr ⟨(work, outcome), success, rfl⟩⟩

theorem retractedBy_some {file : VolunteerFile} {request : Request} {check : Nat}
    (retracted : retractedBy file request = some check) : Retracts file request check := by
  unfold retractedBy at retracted
  split at retracted
  · next user position reason asked =>
      split at retracted
      · next work outcome item success listed =>
          split at retracted
          · next covered kind covers =>
              rw [Option.ite_none_right_eq_some] at retracted
              obtain ⟨reverted, same⟩ := retracted
              cases same
              obtain ⟨other, found, sameItem, _, alsoCovers, _, retracts, _⟩ | ⟨refused, _⟩ :=
                sendBack_supersessions success
              · obtain rfl := Option.some.inj (listed.symm.trans sameItem)
                obtain rfl := Entity.crcRecord.inj (covers.symm.trans alsoCovers)
                obtain ⟨ambient, operation⟩ := request
                subst asked
                exact retracts
              · rw [refused item listed kind] at reverted
                cases reverted
          · cases retracted
      · cases retracted
  · cases retracted

theorem recordCrc_supersessions {ambient : Ambient} {report : CheckReport} {file : VolunteerFile}
    {work : Work} (success : recordCrc ambient report file = .ok work) :
    work.file.supersessions = file.displaced := by
  obtain ⟨_, _, written, blocked, rfl⟩ := recordCrc_ok success
  have added : (checkWritten ambient report file).file.supersessions = file.displaced := by
    have current : (report.record (crcInstanceFor ambient.settings file)).supersededBy = none := rfl
    rw [← addCheck_supersessions current, checkWritten_eq]
    rfl
  obtain ⟨rfl, _⟩ | ⟨_, _, _, rfl⟩ := setBlockFor_ok blocked <;> exact added

theorem resolveNotClear_supersessions {ambient : Ambient} {check : Nat}
    {outcome : CRCNotClearOutcome} {notes : String} {file : VolunteerFile} {work : Work}
    (success : resolveNotClear ambient check outcome notes file = .ok work) :
    work.file.supersessions = file.supersessions := by
  obtain ⟨record, found, resolved⟩ := resolveNotClear_ok success
  have kept : (file.crcRecords.set check (record.resolved outcome notes)).map (·.supersededBy) =
      file.supersessions := by
    apply List.ext_getElem?
    intro other
    rw [supersessions, List.getElem?_map, List.getElem?_map, List.getElem?_set]
    by_cases same : check = other
    · subst same
      obtain ⟨inFile, rfl⟩ := List.getElem?_eq_some_iff.mp found
      simp [inFile, CRCRecord.resolved]
    · simp [same]
  obtain withdrawn | rfl := resolved
  · obtain ⟨_, rfl⟩ := withdraw_ok withdrawn
    exact kept
  · exact kept

theorem storeDocument_crcRecords {ambient : Ambient} {entry : DocumentEntry}
    {file after : VolunteerFile} (success : storeDocument ambient entry file = .ok after) :
    after.crcRecords = file.crcRecords := by
  obtain ⟨document, written, completed, rfl | ⟨_, _, _, _, rfl⟩, rfl⟩ :=
    storeDocument_ok success
  · rfl
  · rw [refreshDependents_eq]
    rfl

theorem perform_crcRecords {ambient : Ambient} {operation : Operation} {file : VolunteerFile}
    {work : Work} (success : perform ambient operation file = .ok work)
    (notRecorded : ∀ report, operation ≠ .recordCrc report)
    (notResolved : ∀ check outcome notes, operation ≠ .resolveNotClear check outcome notes)
    (notSentBack : ∀ user item reason, operation ≠ .sendBack user item reason) :
    work.file.crcRecords = file.crcRecords := by
  cases operation with
  | markRequirementComplete =>
      obtain ⟨_, written, rfl⟩ := map_eq_ok_iff.mp success
      obtain ⟨_, _, _, _, _, _, rfl⟩ := markRequirementComplete_ok written
      dsimp only [Work.start]
      rw [refreshDependents_eq]
      rfl
  | startRequirement =>
      obtain ⟨_, written, rfl⟩ := map_eq_ok_iff.mp success
      obtain ⟨_, _, rfl⟩ := startRequirement_ok written
      dsimp only [Work.start]
      split <;> rfl
  | waiveRequirement =>
      obtain ⟨_, written, rfl⟩ := map_eq_ok_iff.mp success
      obtain ⟨_, _, _, _, _, rfl⟩ := waiveRequirement_ok written
      dsimp only [Work.start]
      rw [refreshDependents_eq]
      rfl
  | reverseWaiver =>
      obtain ⟨_, written, rfl⟩ := map_eq_ok_iff.mp success
      obtain ⟨_, _, _, rfl⟩ := reverseWaiver_ok written
      dsimp only [Work.start]
      rw [refreshDependents_eq]
      rfl
  | recordCrc report => exact absurd rfl (notRecorded report)
  | recordConvictions =>
      obtain ⟨_, _, _, _, rfl⟩ := recordConvictions_ok success
      dsimp only [convictionsWritten]
      split <;> rfl
  | recordDiscretionaryOverride =>
      obtain ⟨_, _, _, decided, _, rfl⟩ := recordDiscretionaryOverride_ok success
      obtain withdrawn | ⟨_, rfl⟩ | ⟨_, rfl⟩ := applyDecision_ok decided
      · obtain ⟨_, rfl⟩ := withdraw_ok withdrawn
        rfl
      · rfl
      · rfl
  | resolveNotClear check outcome notes => exact absurd rfl (notResolved check outcome notes)
  | storeDocument =>
      obtain ⟨_, written, rfl⟩ := map_eq_ok_iff.mp success
      exact storeDocument_crcRecords written
  | affirm =>
      obtain ⟨_, written, rfl⟩ := map_eq_ok_iff.mp success
      obtain ⟨_, _, _, _, rfl⟩ := affirm_ok written
      rfl
  | sendBack user item reason => exact absurd rfl (notSentBack user item reason)
  | assignmentCreate =>
      obtain ⟨_, _, _, rfl⟩ := assignmentCreate_ok success
      rfl
  | assignmentEnd =>
      obtain ⟨_, _, _, rfl⟩ := assignmentEnd_ok success
      dsimp only [Work.write, deactivateIfUnassigned]
      split <;> rfl
  | volunteerEdit =>
      obtain ⟨_, _, _, rfl⟩ := volunteerEdit_ok success
      rfl
  | volunteerDeactivate =>
      obtain ⟨_, _, _, _, rfl, rfl⟩ := volunteerDeactivate_ok success
      split <;> rfl
  | volunteerReactivate =>
      obtain ⟨_, _, rfl⟩ := volunteerReactivate_ok success
      rfl
  | volunteerResync =>
      obtain ⟨_, rfl⟩ := volunteerResync_ok success
      rfl
  | syncVolunteerRequirements =>
      cases success
      rfl
  | nightlySweep =>
      cases success
      dsimp only [Work.start, sweepVolunteer]
      split <;> rfl

/-- What one transaction does to the checks: a retraction puts one back, a recording displaces
one, and anything else leaves them alone. -/
theorem perform_supersessions {ambient : Ambient} {operation : Operation} {file : VolunteerFile}
    {work : Work} (success : perform ambient operation file = .ok work) :
    (∃ check previous, Retracts file ⟨ambient, operation⟩ check ∧
        work.file.supersessions = file.reinstated previous) ∨
      (∀ check, ¬Retracts file ⟨ambient, operation⟩ check) ∧
        (work.file.supersessions = file.supersessions ∨
          work.file.supersessions = file.displaced) := by
  by_cases sentBack : ∃ user position reason, operation = .sendBack user position reason
  · obtain ⟨user, position, reason, rfl⟩ := sentBack
    obtain ⟨⟨_, outcome⟩, written, rfl⟩ := map_eq_ok_iff.mp success
    obtain ⟨item, check, _, _, _, _, retracts, rows⟩ | ⟨refused, same⟩ :=
      sendBack_supersessions written
    · exact .inl ⟨check, _, retracts, rows⟩
    · refine .inr ⟨?_, .inl same⟩
      intro check retracts
      obtain ⟨item, _, _, listed, kind, _, reverted, again⟩ := retracts.success
      rw [written] at again
      cases again
      rw [refused item listed kind] at reverted
      cases reverted
  · have keeps : ∀ check, ¬Retracts file ⟨ambient, operation⟩ check := by
      rintro check ⟨asked, _, _, _, _, _, _, _, _⟩
      exact sentBack ⟨_, _, _, asked⟩
    refine .inr ⟨keeps, ?_⟩
    by_cases recorded : ∃ report, operation = .recordCrc report
    · obtain ⟨report, rfl⟩ := recorded
      exact .inr (recordCrc_supersessions success)
    · by_cases resolved : ∃ check outcome notes, operation = .resolveNotClear check outcome notes
      · obtain ⟨check, outcome, notes, rfl⟩ := resolved
        exact .inl (resolveNotClear_supersessions success)
      · refine .inl (supersessions_congr (perform_crcRecords success ?_ ?_ ?_))
        · exact fun report same => recorded ⟨report, same⟩
        · exact fun check outcome notes same => resolved ⟨check, outcome, notes, same⟩
        · exact fun user position reason same => sentBack ⟨user, position, reason, same⟩

/-! ## The checks over whole runs -/

/-- A file, and which of its checks were retracted on review. -/
structure CheckHistory where
  file : VolunteerFile
  retracted : List Nat

namespace CheckHistory

def step (history : CheckHistory) (request : Request) : CheckHistory :=
  ⟨VolunteerScreening.step history.file request,
    (retractedBy history.file request).toList ++ history.retracted⟩

/-- At most one check is operative, and none that was retracted is. -/
structure Sound (history : CheckHistory) : Prop where
  unique : ∀ first second, history.file.Operative first → history.file.Operative second →
    first = second
  standing : ∀ check ∈ history.retracted, ¬history.file.Operative check

def InFile (history : CheckHistory) : Prop :=
  ∀ check ∈ history.retracted, check < history.file.supersessions.length

variable {history : CheckHistory} {request : Request}

theorem step_cases (history : CheckHistory) (request : Request) :
    (∃ check previous, Retracts history.file request check ∧
        (history.step request).file.supersessions = history.file.reinstated previous ∧
        (history.step request).retracted = check :: history.retracted) ∨
      (∀ check, ¬Retracts history.file request check) ∧
        (history.step request).retracted = history.retracted ∧
        ((history.step request).file.supersessions = history.file.supersessions ∨
          (history.step request).file.supersessions = history.file.displaced) := by
  have remembered : (∀ check, ¬Retracts history.file request check) →
      (history.step request).retracted = history.retracted := by
    intro keeps
    cases retracted : retractedBy history.file request with
    | none => simp [step, retracted]
    | some check => exact absurd (retractedBy_some retracted) (keeps check)
  obtain ⟨⟨_, refused⟩, same⟩ | ⟨work, success, same⟩ :=
    VolunteerScreening.step_cases history.file request
  · have keeps : ∀ check, ¬Retracts history.file request check := by
      intro check retracts
      obtain ⟨_, performed⟩ := retracts.performs
      rw [refused] at performed
      cases performed
    exact .inr ⟨keeps, remembered keeps, .inl (congrArg supersessions same)⟩
  · have committed : (history.step request).file.supersessions = work.file.supersessions := by
      show (VolunteerScreening.step history.file request).supersessions = _
      rw [same, Work.commit_eq]
      rfl
    obtain ⟨check, previous, retracts, rows⟩ | ⟨keeps, rows⟩ := perform_supersessions success
    · refine .inl ⟨check, previous, retracts, committed.trans rows, ?_⟩
      simp [step, Retracts.retractedBy_eq retracts]
    · refine .inr ⟨keeps, remembered keeps, ?_⟩
      rwa [committed]

theorem step_inFile (inFile : history.InFile) : (history.step request).InFile := by
  obtain ⟨check, previous, retracts, rows, retracted⟩ | ⟨_, retracted, rows⟩ :=
    history.step_cases request
  · have sameLength : (history.step request).file.supersessions.length =
        history.file.supersessions.length := by
      rw [rows]
      unfold reinstated
      cases previous <;> simp
    intro other listed
    rw [retracted] at listed
    rw [sameLength]
    rcases List.mem_cons.mp listed with rfl | earlier
    · exact (List.getElem?_eq_some_iff.mp retracts.operative).1
    · exact inFile other earlier
  · intro other listed
    rw [retracted] at listed
    refine (inFile other listed).trans_le ?_
    rcases rows with same | displaced
    · exact (congrArg List.length same).ge
    · rw [displaced]
      unfold VolunteerFile.displaced
      cases previousCheck history.file.crcRecords <;> simp

theorem operative_after_retraction {check : Nat} {previous : Option Nat}
    (retracts : Retracts history.file request check)
    (rows : (history.step request).file.supersessions = history.file.reinstated previous) :
    (history.step request).file.Operative check := by
  have operative := retracts.operative
  unfold Operative at operative ⊢
  rw [rows]
  unfold reinstated
  cases previous with
  | none => exact operative
  | some earlier =>
      have inFile := (List.getElem?_eq_some_iff.mp operative).1
      rw [List.getElem?_set]
      by_cases same : earlier = check
      · simp [same, inFile]
      · rwa [if_neg same]

theorem Sound.step (sound : history.Sound) (inFile : history.InFile)
    (keeps : ∀ check, ¬Retracts history.file request check) : (history.step request).Sound := by
  obtain ⟨check, _, retracts, _, _⟩ | ⟨_, retracted, rows⟩ := history.step_cases request
  · exact absurd retracts (keeps check)
  · rcases rows with same | displaced
    · refine ⟨?_, ?_⟩
      · unfold Operative
        rw [same]
        exact sound.unique
      · unfold Operative
        rw [same, retracted]
        exact sound.standing
    · have last : ∀ check, (history.step request).file.Operative check →
          check = history.file.supersessions.length := by
        intro check operative
        unfold Operative at operative
        rw [displaced] at operative
        exact displaced_operative sound.unique operative
      refine ⟨?_, ?_⟩
      · intro first second firstOperative secondOperative
        rw [last first firstOperative, last second secondOperative]
      · intro check listed operative
        rw [retracted] at listed
        exact (inFile check listed).ne (last check operative)

theorem sound_step_iff (inFile : history.InFile) (sound : history.Sound) :
    (history.step request).Sound ↔ ∀ check, ¬Retracts history.file request check := by
  constructor
  · intro stillSound check retracts
    obtain ⟨other, previous, also, rows, retracted⟩ | ⟨keeps, _⟩ := history.step_cases request
    · refine stillSound.standing other ?_ (operative_after_retraction also rows)
      rw [retracted]
      exact List.mem_cons_self
    · exact keeps check retracts
  · intro keeps
    exact sound.step inFile keeps

end CheckHistory

open CheckHistory

def newHistories (volunteers : List Volunteer) : List CheckHistory :=
  (newChurch volunteers).map fun file => ⟨file, []⟩

/-- In every state of a run each volunteer has at most one operative check, and never a retracted
one, exactly when no send-back of the run reaches a check its rule lets go. -/
theorem operative_check_iff (volunteers : List Volunteer) (requests : List (Nat × Request)) :
    Machine.Always (Machine.stepAt CheckHistory.step) (Machine.Each CheckHistory.Sound)
        (newHistories volunteers) requests ↔
      Machine.Guarded (Machine.stepAt CheckHistory.step)
        (Machine.guardAt fun history request => ∀ check, ¬Retracts history.file request check)
        (newHistories volunteers) requests := by
  have blank : ∀ (component : Nat) (history : CheckHistory),
      (newHistories volunteers)[component]? = some history →
        history.file.crcRecords = [] ∧ history.retracted = [] := by
    intro component history found
    simp only [newHistories, newChurch, List.map_map, List.getElem?_map,
      Option.map_eq_some_iff] at found
    obtain ⟨volunteer, _, rfl⟩ := found
    exact ⟨rfl, rfl⟩
  refine Machine.always_each_iff_guarded CheckHistory.step _ CheckHistory.InFile _
    (fun _ _ inFile _ _ => step_inFile inFile) (fun _ _ inFile sound => sound_step_iff inFile sound)
    ?_ ?_ requests
  · intro component history found check listed
    rw [(blank component history found).2] at listed
    cases listed
  · intro component history found
    obtain ⟨noChecks, noneRetracted⟩ := blank component history found
    refine ⟨?_, ?_⟩
    · intro first _ operative _
      obtain ⟨record, present, _⟩ := operative_iff.mp operative
      rw [noChecks] at present
      cases present
    · rw [noneRetracted]
      intro check listed
      cases listed

/-- A scoped administrator records a cleared check, and it is sent back. -/
def retractingRun : List (Nat × Request) :=
  [(0, ⟨Sample.byDepartmentAdmin Sample.recordCheckOnly (Sample.march 0),
      .recordCrc ⟨.cleared, Sample.february 0, true, false, "", ""⟩⟩),
    (0, ⟨Sample.byPrimaryAdmin Sample.recordCheckOnly (Sample.march 1),
      .sendBack Sample.primaryAdmin 0 "Wrong volunteer"⟩)]

/-- The check that was retracted is still the operative one. -/
theorem retracted_check_operative :
    ∃ history, (Machine.run (Machine.stepAt CheckHistory.step) (newHistories [Sample.adult])
        retractingRun)[0]? = some history ∧
      0 ∈ history.retracted ∧ history.file.Operative 0 ∧ ¬history.Sound := by
  refine ⟨_, rfl, by decide, rfl, ?_⟩
  intro sound
  exact sound.standing 0 (by decide) rfl

end VolunteerScreening
