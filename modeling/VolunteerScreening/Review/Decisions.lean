import VolunteerScreening.Requirements.RecordChecks

/-!
# Affirming an entry, or sending it back

Both decisions need an open item and a church-wide reviewer.  A send-back undoes
what each kind of entry allows and names what it keeps.
-/

namespace VolunteerScreening.Review

open Calendar Fallible Org Requirements

def mayReview (administration : Core.Administration) (user : Core.User) (item : ReviewItem) :
    Option String :=
  if !administration.isUnscoped user then
    some "Only an administrator with access to the whole church can review an entry."
  else if item.recordedByUserId = some user.pk ∧
      administration.anotherUnscopedAdminExists user.pk then
    some "You cannot affirm an entry you recorded yourself."
  else none

def requireReviewer (ambient : Ambient) (user : Core.User) (item : ReviewItem) :
    Except Refusal Unit :=
  match mayReview ambient.settings.administration user item with
  | some why => .error (.invalid why)
  | none =>
      refuseIf (item.isOpen = false)
        (Refusal.invalid s!"This entry was already {item.status.displayLower}.")

def fetchItem (position : Nat) (file : VolunteerFile) : Except Refusal ReviewItem :=
  match file.reviewItems[position]? with
  | some item => .ok item
  | none => .error .notFound

theorem fetchItem_eq_ok_iff {position : Nat} {file : VolunteerFile} {item : ReviewItem} :
    fetchItem position file = .ok item ↔ file.reviewItems[position]? = some item := by
  unfold fetchItem
  cases file.reviewItems[position]? <;> simp

theorem mayReview_eq_none_iff {administration : Core.Administration} {user : Core.User}
    {item : ReviewItem} :
    mayReview administration user item = none ↔
      administration.isUnscoped user = true ∧
        ¬(item.recordedByUserId = some user.pk ∧
          administration.anotherUnscopedAdminExists user.pk = true) := by
  unfold mayReview
  split
  · next limited =>
      have narrow : administration.isUnscoped user = false := by simpa using limited
      simp [narrow]
  · next unscoped =>
      have wide : administration.isUnscoped user = true := by simpa using unscoped
      split
      · next own => simp [own]
      · next others => simpa [wide] using others

theorem requireReviewer_eq_ok_iff {ambient : Ambient} {user : Core.User} {item : ReviewItem}
    {done : Unit} :
    requireReviewer ambient user item = .ok done ↔
      mayReview ambient.settings.administration user item = none ∧ item.isOpen = true := by
  unfold requireReviewer
  cases mayReview ambient.settings.administration user item <;> simp

theorem requireReviewer_ok {ambient : Ambient} {user : Core.User} {item : ReviewItem}
    (success : requireReviewer ambient user item = .ok ()) :
    ambient.settings.administration.isUnscoped user = true ∧ item.isOpen = true := by
  obtain ⟨allowed, opened⟩ := requireReviewer_eq_ok_iff.mp success
  exact ⟨(mayReview_eq_none_iff.mp allowed).1, opened⟩

/-- Confirm the entry is correct.  Changes no data, only the sign-off. -/
def affirm (ambient : Ambient) (user : Core.User) (position : Nat) (file : VolunteerFile) :
    Except Refusal VolunteerFile := do
  let item ← fetchItem position file
  requireReviewer ambient user item
  let affirmed ← item.affirm user ambient.now
  return { file with reviewItems := file.reviewItems.set position affirmed }

/-- What it takes for an affirmation to go through, and what it leaves. -/
theorem affirm_eq_ok_iff {ambient : Ambient} {user : Core.User} {position : Nat}
    {file after : VolunteerFile} :
    affirm ambient user position file = .ok after ↔
      ∃ item, file.reviewItems[position]? = some item ∧
        requireReviewer ambient user item = .ok () ∧ user.displayName.length ≤ 150 ∧
        after = { file with
          reviewItems := file.reviewItems.set position
            (item.closed .affirmed (some user) "" ambient.now) } := by
  unfold affirm ReviewItem.affirm
  simp only [bind_eq_ok_iff, fetchItem_eq_ok_iff, ReviewItem.close_eq_ok_iff, Option.map_some,
    Option.getD_some, pure_eq_ok_iff]
  constructor
  · rintro ⟨item, found, _, allowed, _, ⟨_, short, _, rfl⟩, written⟩
    exact ⟨item, found, allowed, short, written.symm⟩
  · rintro ⟨item, found, allowed, short, rfl⟩
    exact ⟨item, found, (), allowed, _, ⟨(requireReviewer_ok allowed).2, short, by simp, rfl⟩, rfl⟩

theorem affirm_ok {ambient : Ambient} {user : Core.User} {position : Nat}
    {file after : VolunteerFile} (success : affirm ambient user position file = .ok after) :
    ∃ item, file.reviewItems[position]? = some item ∧ item.isOpen = true ∧
      ambient.settings.administration.isUnscoped user = true ∧
      after = { file with
        reviewItems := file.reviewItems.set position
          (item.closed .affirmed (some user) "" ambient.now) } := by
  obtain ⟨item, found, allowed, _, written⟩ := affirm_eq_ok_iff.mp success
  obtain ⟨unscoped, opened⟩ := requireReviewer_ok allowed
  exact ⟨item, found, opened, unscoped, written⟩

/-- Whether a send-back reverted the entry, and what it could not undo. -/
structure Outcome where
  reverted : Bool
  kept : List String
  deriving DecidableEq, Repr

/-- The row a snapshot puts back, before its status is recomputed: the dates as they were, and
the status that follows from them. -/
def restoredRow (state : Snapshot) (row : RequirementInstance) : RequirementInstance :=
  let row := { row with
    completedOn := state.completedOn
    expiresOn := state.expiresOn
    dueOn := state.dueOn
    dueReason := state.dueReason
    startedOn := state.startedOn.or row.startedOn }
  { row with status := row.statusAfterReversal }

/-- Put the dates back, then let the existing rules decide the status. -/
def restoreFromSnapshot (ambient : Ambient) (pk : Pk) (state : Snapshot)
    (file : VolunteerFile) : VolunteerFile :=
  match file.requirementInstances pk with
  | none => file
  | some row =>
      refreshDependents ambient.settings ambient.today pk
        (file.saveInstance pk ((restoredRow state row).recompute ambient.today))

def instanceFrom (item : ReviewItem) (file : VolunteerFile) : Option Pk :=
  item.coveredInstance.filter fun pk => (file.requirementInstances pk).isSome

theorem instanceFrom_of_covered {file : VolunteerFile} {item : ReviewItem} {pk : Pk}
    (covered : item.coveredInstance = some pk)
    (present : (file.requirementInstances pk).isSome = true) :
    instanceFrom item file = some pk := by
  unfold instanceFrom
  rw [covered]
  simp [Option.filter, present]

theorem instanceFrom_of_absent {file : VolunteerFile} {item : ReviewItem} {pk : Pk}
    (covered : item.coveredInstance = some pk)
    (absent : ¬(file.requirementInstances pk).isSome = true) :
    instanceFrom item file = none := by
  unfold instanceFrom
  rw [covered]
  simp [Option.filter, absent]

def sendBackCompletion (ambient : Ambient) (item : ReviewItem) (work : Work) : Work × Outcome :=
  match instanceFrom item work.file with
  | none => (work, ⟨false, ["the requirement could not be found"]⟩)
  | some pk =>
      if (work.file.requirementInstances pk).map (·.status) ≠ some .complete then
        (work, ⟨false, ["the requirement has already changed since this entry was recorded"]⟩)
      else (work.write (restoreFromSnapshot ambient pk item.beforeState), ⟨true, []⟩)

/-- The document an item covers stops being current, if it still is. -/
def retireDocument (item : ReviewItem) (work : Work) : Work × List String :=
  match item.entity with
  | .document position =>
      if work.file.documents[position]?.map Documents.Document.isCurrent = some true then
        (work.write fun file =>
          { file with
            documents := file.documents.modify position fun document =>
              { document with isCurrent := false } },
          ["the document itself is retained, marked as not current"])
      else (work, [])
  | _ => (work, [])

/-- The document survives, no longer current; the completion it caused does not. -/
def sendBackDocument (ambient : Ambient) (item : ReviewItem) (work : Work) : Work × Outcome :=
  let retired := retireDocument item work
  match instanceFrom item work.file with
  | none => (retired.1, ⟨false, retired.2⟩)
  | some pk =>
      (retired.1.write (restoreFromSnapshot ambient pk item.beforeState), ⟨true, retired.2⟩)

def endedText (ended : List String) : List String :=
  if ended.isEmpty then []
  else
    [s!"{ended.length} role assignment(s) ended by this decision (" ++ ", ".intercalate ended ++
      ") must be re-created by hand if it was wrong"]

/-- Sending convictions back records a dispute and undoes nothing. -/
def disputeConvictions (item : ReviewItem) (work : Work) : Outcome :=
  ⟨false,
    ["the convictions are permanently retained and cannot be removed"] ++
      (if work.file.volunteer.screeningBlock = .disqualified then
        ["the permanent disqualification stands — the Plan to Protect policy provides no route " ++
          "back, here or anywhere"]
      else []) ++ endedText item.beforeState.ended⟩

def retractionRefused (position : Nat) (record : CRCRecord) (file : VolunteerFile) :
    Option String :=
  if file.convictions.any (·.crcRecord == position) ∨
      file.overrides.any (·.crcRecord == position) then
    some ("this check carries recorded convictions or a leadership decision, so it cannot be " ++
      "retracted — record a corrective check instead")
  else if record.supersededBy.isSome then some "a later check has already replaced this one"
  else none

def restorePrevious (previous : Option Nat) (file : VolunteerFile) : VolunteerFile :=
  match previous with
  | some earlier =>
      { file with
        crcRecords := file.crcRecords.modify earlier fun check =>
          { check with supersededBy := none } }
  | none => file

def liftNotClear (ambient : Ambient) (work : Work) : Except Refusal Work :=
  if work.file.volunteer.screeningBlock = .crcNotClear then
    work.setScreeningBlock .none ambient.now
  else .ok work

/-- Undo a recorded check: the instance, the supersession, the block. -/
def retractCheck (ambient : Ambient) (item : ReviewItem) (work : Work) :
    Except Refusal (Work × Outcome) := do
  let restored := work.write fun file =>
    match instanceFrom item file with
    | some pk => restoreFromSnapshot ambient pk item.beforeState file
    | none => file
  let lifted ← liftNotClear ambient
    (restored.write (restorePrevious item.beforeState.supersededById))
  return (lifted, ⟨true, ["the check itself is retained, marked as retracted"]⟩)

/-- A retraction, never a reversal, and only of the current check with nothing recorded on it. -/
def sendBackCrc (ambient : Ambient) (item : ReviewItem) (work : Work) :
    Except Refusal (Work × Outcome) :=
  match item.entity with
  | .disqualifyingConviction _ => .ok (work, disputeConvictions item work)
  | .crcRecord position =>
      match work.file.crcRecords[position]? with
      | none => .ok (work, ⟨false, ["the check could not be found"]⟩)
      | some record =>
          match retractionRefused position record work.file with
          | some why => .ok (work, ⟨false, [why]⟩)
          | none => retractCheck ambient item work
  | _ => .ok (work, ⟨false, ["the check could not be found"]⟩)

def sendBackWaiver (ambient : Ambient) (item : ReviewItem) (reason : String) (work : Work) :
    Except Refusal (Work × Outcome) :=
  match instanceFrom item work.file with
  | none => .ok (work, ⟨false, ["the requirement could not be found"]⟩)
  | some pk =>
      if (work.file.requirementInstances pk).map (·.status) ≠ some .waived then
        .ok (work, ⟨false, ["the waiver has already been reversed or replaced"]⟩)
      else do
        let restoreDue :=
          if item.beforeState = .empty then none
          else some (item.beforeState.dueOn, item.beforeState.dueReason)
        let file ← reverseWaiver ambient pk reason restoreDue work.file
        return ({ work with file := file }, ⟨true, []⟩)

/-- An override cannot be erased; the reviewer records their own. -/
def sendBackOverride (item : ReviewItem) (work : Work) : Work × Outcome :=
  (work, ⟨false,
    ["the recorded decision is permanently retained — record your own to supersede it"] ++
      endedText item.beforeState.ended⟩)

def revert (ambient : Ambient) (item : ReviewItem) (reason : String) (work : Work) :
    Except Refusal (Work × Outcome) :=
  match item.kind with
  | .requirementCompletion => .ok (sendBackCompletion ambient item work)
  | .document => .ok (sendBackDocument ambient item work)
  | .crc => sendBackCrc ambient item work
  | .waiver => sendBackWaiver ambient item reason work
  | .override => .ok (sendBackOverride item work)

/-- Reject the entry, and undo what can honestly be undone. -/
def sendBack (ambient : Ambient) (user : Core.User) (position : Nat) (reason : String)
    (file : VolunteerFile) : Except Refusal (Work × Outcome) := do
  let item ← fetchItem position file
  requireReviewer ambient user item
  refuseIf (Text.isBlank reason) (Refusal.field "reason" "Say why this entry is being sent back.")
  let (work, outcome) ← revert ambient item reason (Work.start file)
  let decided ← item.sendBack user reason ambient.now
  return (work.write fun file =>
    { file with reviewItems := file.reviewItems.set position decided }, outcome)

/-- What it takes for a send-back to go through, and what it leaves: the undo its kind allows,
and the item sent back. -/
theorem sendBack_eq_ok_iff {ambient : Ambient} {user : Core.User} {position : Nat}
    {reason : String} {file : VolunteerFile} {work : Work} {outcome : Outcome} :
    sendBack ambient user position reason file = .ok (work, outcome) ↔
      ∃ item reverted, file.reviewItems[position]? = some item ∧
        requireReviewer ambient user item = .ok () ∧ user.displayName.length ≤ 150 ∧
        Text.isBlank reason = false ∧
        revert ambient item reason (Work.start file) = .ok (reverted, outcome) ∧
        work = reverted.write fun file =>
          { file with
            reviewItems := file.reviewItems.set position
              (item.closed .sentBack (some user) reason ambient.now) } := by
  unfold sendBack
  simp only [bind_eq_ok_iff, fetchItem_eq_ok_iff, refuseIf_eq_ok_iff,
    ReviewItem.sendBack_eq_ok_iff, pure_eq_ok_iff]
  constructor
  · rintro ⟨item, found, _, allowed, _, explained, ⟨reverted, _⟩, undone, _, ⟨_, short, _, rfl⟩,
      written⟩
    cases written
    exact ⟨item, reverted, found, allowed, short, by simpa using explained, undone, rfl⟩
  · rintro ⟨item, reverted, found, allowed, short, explained, undone, rfl⟩
    exact ⟨item, found, (), allowed, (), by simp [explained], (reverted, outcome), undone, _,
      ⟨(requireReviewer_ok allowed).2, short, explained, rfl⟩, rfl⟩

theorem sendBack_ok {ambient : Ambient} {user : Core.User} {position : Nat} {reason : String}
    {file : VolunteerFile} {work : Work} {outcome : Outcome}
    (success : sendBack ambient user position reason file = .ok (work, outcome)) :
    ∃ item reverted, file.reviewItems[position]? = some item ∧ item.isOpen = true ∧
      ambient.settings.administration.isUnscoped user = true ∧
      revert ambient item reason (Work.start file) = .ok (reverted, outcome) ∧
      work = reverted.write fun file =>
        { file with
          reviewItems := file.reviewItems.set position
            (item.closed .sentBack (some user) reason ambient.now) } := by
  obtain ⟨item, reverted, found, allowed, _, _, undone, written⟩ := sendBack_eq_ok_iff.mp success
  obtain ⟨unscoped, opened⟩ := requireReviewer_ok allowed
  exact ⟨item, reverted, found, opened, unscoped, undone, written⟩

theorem restoreFromSnapshot_eq (ambient : Ambient) (pk : Pk) (state : Snapshot)
    (file : VolunteerFile) :
    restoreFromSnapshot ambient pk state file =
      { file with
        requirementInstances :=
          (restoreFromSnapshot ambient pk state file).requirementInstances } := by
  unfold restoreFromSnapshot
  split
  · rfl
  · rw [refreshDependents_eq]
    rfl

theorem restoreFromSnapshot_work (ambient : Ambient) (pk : Pk) (state : Snapshot) (work : Work) :
    work.write (restoreFromSnapshot ambient pk state) = work.write fun file =>
      { file with
        requirementInstances :=
          (restoreFromSnapshot ambient pk state work.file).requirementInstances } := by
  unfold Work.write
  rw [restoreFromSnapshot_eq]

theorem retireDocument_eq (item : ReviewItem) (work : Work) :
    ∃ documents, documents.length = work.file.documents.length ∧
      (retireDocument item work).1 =
        work.write fun file => { file with documents := documents } := by
  unfold retireDocument
  split
  · split
    · exact ⟨_, List.length_modify .., rfl⟩
    · exact ⟨work.file.documents, rfl, rfl⟩
  · exact ⟨work.file.documents, rfl, rfl⟩

def lifted (work : Work) : Work :=
  if work.file.volunteer.screeningBlock = .crcNotClear then
    work.saveVolunteer { work.file.volunteer with
      screeningBlock := .none
      screeningBlockRecordedAt := none }
  else work

theorem liftNotClear_eq (ambient : Ambient) (work : Work) :
    liftNotClear ambient work = .ok (lifted work) := by
  unfold liftNotClear lifted
  split
  · next blocked =>
      have free : work.file.volunteer.screeningBlock ≠ .disqualified := by
        intro disqualified
        cases blocked.symm.trans disqualified
      unfold Work.setScreeningBlock
      rw [Volunteer.setScreeningBlock_of_ne _ free]
      rfl
  · rfl

/-- The rows of a retraction, before the block is looked at. -/
def retractedRows (ambient : Ambient) (item : ReviewItem) (file : VolunteerFile) :
    VolunteerFile :=
  restorePrevious item.beforeState.supersededById
    (match instanceFrom item file with
    | some pk => restoreFromSnapshot ambient pk item.beforeState file
    | none => file)

theorem retractCheck_eq (ambient : Ambient) (item : ReviewItem) (work : Work) :
    retractCheck ambient item work =
      .ok (lifted (work.write (retractedRows ambient item)),
        ⟨true, ["the check itself is retained, marked as retracted"]⟩) :=
  bind_eq_ok_iff.mpr ⟨_, liftNotClear_eq ambient _, rfl⟩

theorem retractedRows_eq (ambient : Ambient) (item : ReviewItem) (file : VolunteerFile) :
    retractedRows ambient item file =
      { restorePrevious item.beforeState.supersededById file with
        requirementInstances := (retractedRows ambient item file).requirementInstances } := by
  unfold retractedRows restorePrevious
  cases instanceFrom item file with
  | none => cases item.beforeState.supersededById <;> rfl
  | some pk =>
      dsimp only
      rw [restoreFromSnapshot_eq]
      cases item.beforeState.supersededById <;> rfl

/-- Sending a document's item back restores the instance it covers, whatever becomes of the
document. -/
theorem sendBack_document {ambient : Ambient} {user : Core.User} {position : Nat}
    {reason : String} {file : VolunteerFile} {work : Work} {outcome : Outcome} {item : ReviewItem}
    {pk : Pk} (success : sendBack ambient user position reason file = .ok (work, outcome))
    (found : file.reviewItems[position]? = some item) (kind : item.kind = .document)
    (covered : instanceFrom item file = some pk) :
    ∃ retired : VolunteerFile, retired.volunteer = file.volunteer ∧
      retired.assignments = file.assignments ∧
      retired.requirementInstances = file.requirementInstances ∧
      (work.commit ambient).requirementInstances =
        (restoreFromSnapshot ambient pk item.beforeState retired).requirementInstances := by
  obtain ⟨other, reverted, foundOther, _, _, _, undone, rfl⟩ := sendBack_eq_ok_iff.mp success
  obtain rfl := Option.some.inj (found.symm.trans foundOther)
  obtain ⟨documents, _, retired⟩ := retireDocument_eq item (Work.start file)
  refine ⟨{ file with documents := documents }, rfl, rfl, rfl, ?_⟩
  have coveredStart : instanceFrom item (Work.start file).file = some pk := covered
  unfold revert sendBackDocument at undone
  simp only [kind, retired, coveredStart] at undone
  cases undone
  rfl

theorem restoreFromSnapshot_of_some (ambient : Ambient) {pk : Pk} (state : Snapshot)
    {file : VolunteerFile} {row : RequirementInstance}
    (present : file.requirementInstances pk = some row) :
    restoreFromSnapshot ambient pk state file =
      refreshDependents ambient.settings ambient.today pk
        (file.saveInstance pk ((restoredRow state row).recompute ambient.today)) := by
  unfold restoreFromSnapshot
  rw [present]

theorem sendBackWaiver_eq {ambient : Ambient} {item : ReviewItem} {reason : String}
    {work after : Work} {outcome : Outcome}
    (success : sendBackWaiver ambient item reason work = .ok (after, outcome)) :
    ∃ rows, after = work.write fun file => { file with requirementInstances := rows } := by
  unfold sendBackWaiver at success
  split at success
  · cases success
    exact ⟨work.file.requirementInstances, rfl⟩
  · split at success
    · cases success
      exact ⟨work.file.requirementInstances, rfl⟩
    · obtain ⟨file, reversed, success⟩ := bind_eq_ok_iff.mp success
      cases success
      obtain ⟨_, _, _, rfl⟩ := reverseWaiver_ok reversed
      rw [refreshDependents_eq]
      exact ⟨_, rfl⟩

def Undoable (catalogue : Catalogue) (item : ReviewItem) (file : VolunteerFile) : Prop :=
  item.kind = .waiver → ∀ pk row, instanceFrom item file = some pk →
    file.requirementInstances pk = some row → row.status = .waived →
    (catalogue.get pk).isSome = true

theorem revert_succeeds_iff {ambient : Ambient} {item : ReviewItem} {reason : String} {work : Work}
    (explained : Text.isBlank reason = false) :
    (∃ outcome, revert ambient item reason work = .ok outcome) ↔
      Undoable ambient.settings.catalogue item work.file := by
  unfold revert Undoable
  cases kind : item.kind with
  | requirementCompletion => simp
  | document => simp
  | override => simp
  | crc =>
      simp only [reduceCtorEq, false_implies, iff_true]
      unfold sendBackCrc
      split
      · exact ⟨_, rfl⟩
      · split
        · exact ⟨_, rfl⟩
        · split
          · exact ⟨_, rfl⟩
          · exact ⟨_, retractCheck_eq ambient item work⟩
      · exact ⟨_, rfl⟩
  | waiver =>
      unfold sendBackWaiver
      cases covered : instanceFrom item work.file with
      | none => simp
      | some pk =>
          by_cases waived : (work.file.requirementInstances pk).map (·.status) = some .waived
          · obtain ⟨row, present, inForce⟩ := Option.map_eq_some_iff.mp waived
            simp only [waived, ne_eq, not_true_eq_false, if_false]
            constructor
            · rintro ⟨outcome, undone⟩ _ other row' same present' _
              cases same
              obtain ⟨_, reversed, _⟩ := bind_eq_ok_iff.mp undone
              obtain ⟨definition, _, defined, _⟩ := reverseWaiver_eq_ok_iff.mp reversed
              rw [defined]
              rfl
            · intro defined
              obtain ⟨definition, found⟩ :=
                Option.isSome_iff_exists.mp (defined trivial pk row rfl present inForce)
              have goesThrough : ∀ restoreDue, ∃ after,
                  reverseWaiver ambient pk reason restoreDue work.file = .ok after := by
                intro restoreDue
                exact ⟨_, reverseWaiver_eq_ok_iff.mpr
                  ⟨definition, row, found, present, inForce, explained, rfl⟩⟩
              obtain ⟨after, reversed⟩ := goesThrough _
              exact ⟨_, bind_eq_ok_iff.mpr ⟨after, reversed, rfl⟩⟩
          · simp only [waived, ne_eq, not_false_eq_true, if_true]
            constructor
            · rintro _ _ other row same present inForce
              cases same
              rw [present, Option.map_some, inForce] at waived
              exact absurd rfl waived
            · intro _
              exact ⟨_, rfl⟩

/-- A send-back retracts a check through that check's own item; any other writes at most the
instances and the documents. -/
theorem revert_ok {ambient : Ambient} {item : ReviewItem} {reason : String} {work after : Work}
    {outcome : Outcome} (success : revert ambient item reason work = .ok (after, outcome)) :
    (∃ check record, item.kind = .crc ∧ item.entity = .crcRecord check ∧
        work.file.crcRecords[check]? = some record ∧
        retractionRefused check record work.file = none ∧
        retractCheck ambient item work = .ok (after, outcome)) ∨
      (item.kind = .crc → outcome.reverted = false) ∧
        ∃ rows documents, documents.length = work.file.documents.length ∧
          after = work.write fun file =>
            { file with requirementInstances := rows, documents := documents } := by
  have untouched : ∃ rows documents, documents.length = work.file.documents.length ∧
      work = work.write fun file =>
        { file with requirementInstances := rows, documents := documents } :=
    ⟨work.file.requirementInstances, work.file.documents, rfl, rfl⟩
  unfold revert at success
  split at success
  · next kind =>
      refine .inr ⟨fun crc => absurd (kind.symm.trans crc) (by decide), ?_⟩
      unfold sendBackCompletion at success
      split at success
      · cases success
        exact untouched
      · split at success
        · cases success
          exact untouched
        · cases success
          rw [restoreFromSnapshot_work]
          exact ⟨_, _, rfl, rfl⟩
  · next kind =>
      refine .inr ⟨fun crc => absurd (kind.symm.trans crc) (by decide), ?_⟩
      obtain ⟨documents, sameLength, retired⟩ := retireDocument_eq item work
      unfold sendBackDocument at success
      simp only [retired] at success
      split at success
      · cases success
        exact ⟨work.file.requirementInstances, _, sameLength, rfl⟩
      · cases success
        rw [restoreFromSnapshot_work]
        exact ⟨_, _, sameLength, rfl⟩
  · next kind =>
      unfold sendBackCrc at success
      split at success
      · cases success
        exact .inr ⟨fun _ => rfl, untouched⟩
      · next check covers =>
          split at success
          · cases success
            exact .inr ⟨fun _ => rfl, untouched⟩
          · next record present =>
              split at success
              · cases success
                exact .inr ⟨fun _ => rfl, untouched⟩
              · next current =>
                  exact .inl ⟨check, record, kind, covers, present, current, success⟩
      · cases success
        exact .inr ⟨fun _ => rfl, untouched⟩
  · next kind =>
      obtain ⟨rows, written⟩ := sendBackWaiver_eq success
      exact .inr ⟨fun crc => absurd (kind.symm.trans crc) (by decide), rows, work.file.documents,
        rfl, written⟩
  · next kind =>
      refine .inr ⟨fun crc => absurd (kind.symm.trans crc) (by decide), ?_⟩
      cases success
      exact untouched

theorem retractedRows_frame (ambient : Ambient) (item : ReviewItem) (file : VolunteerFile) :
    (retractedRows ambient item file).volunteer = file.volunteer ∧
      (retractedRows ambient item file).assignments = file.assignments ∧
      (retractedRows ambient item file).crcRecords =
        (restorePrevious item.beforeState.supersededById file).crcRecords := by
  rw [retractedRows_eq]
  cases item.beforeState.supersededById <;> exact ⟨rfl, rfl, rfl⟩

theorem retractCheck_crcRecords {ambient : Ambient} {item : ReviewItem} {work after : Work}
    {outcome : Outcome} (success : retractCheck ambient item work = .ok (after, outcome)) :
    outcome.reverted = true ∧ after.file.crcRecords =
      (restorePrevious item.beforeState.supersededById work.file).crcRecords := by
  rw [retractCheck_eq] at success
  cases success
  refine ⟨rfl, ?_⟩
  have rows : (retractedRows ambient item work.file).crcRecords =
      (restorePrevious item.beforeState.supersededById work.file).crcRecords := by
    rw [retractedRows_eq]
  unfold lifted
  split <;> exact rows

end VolunteerScreening.Review
