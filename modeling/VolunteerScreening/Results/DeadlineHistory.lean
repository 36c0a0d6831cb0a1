import VolunteerScreening.Requirements.Deadlines
import VolunteerScreening.Transactions.Queue
import VolunteerScreening.Transactions.Writes

/-!
# What a record check's deadline remembers

A history remembers, beside the file, whose requirements age once held back.  A
turning-18 deadline stands only there exactly as long as no record check is
switched on that was parked for another reason; and then two adults with the
same roles have the same check, however they came to them.
-/

namespace VolunteerScreening

open Calendar Org Requirements Review

namespace Move

def date : Move → Date
  | transact request => request.operation.date request.ambient
  | sync _ asOf => asOf
  | sweep _ asOf _ _ => asOf

/-- A transaction that goes through is about something else than this instance. -/
def Spares (file : VolunteerFile) (pk : Pk) : Move → Prop
  | transact request => ∀ work, perform request.ambient request.operation file = .ok work →
      request.operation.spares file pk
  | sync _ _ => True
  | sweep _ _ _ _ => True

end Move

/-- A transaction switches a parked record check on, and dates it by the eighteenth birthday. -/
def Move.SwitchesOn (file : VolunteerFile) (pk : Pk) (move : Move) : Prop :=
  ∃ definition row rows volunteer, definition.pk = pk ∧
    move.Activates file definition row rows volunteer ∧ DatesByBirthday definition volunteer

/-- Whether a requirement that the roles ask for reads not applicable for the age of a volunteer
who is known to be under 18. -/
def heldForAge (settings : Settings) (date : Date) (file : VolunteerFile) (pk : Pk) : Bool :=
  file.volunteer.hasBirthDate &&
    (file.requirementInstances pk).any (·.status == .notApplicable) &&
    settings.catalogue.active.any fun definition =>
      definition.pk == pk && definition.isAgeExempt file.volunteer date &&
        definition.appliesToVolunteer (file.activeRoles settings)

/-- A file, and which of its requirements age has ever held back. -/
structure History where
  file : VolunteerFile
  exempted : Pk → Bool

namespace History

def opened (volunteer : Volunteer) : History :=
  ⟨.opened volunteer.deriveBirth, fun _ => false⟩

def step (history : History) (move : Move) : History :=
  let after := move.after history.file
  ⟨after, fun pk => history.exempted pk || heldForAge move.settings move.date after pk⟩

def lived (volunteer : Volunteer) (moves : List Move) : History :=
  Machine.run step (opened volunteer) moves

/-- A turning-18 deadline stands only where age once held the requirement back. -/
def Sound (history : History) : Prop :=
  ∀ pk row, history.file.requirementInstances pk = some row →
    IsTurning18 row.dueOn row.dueReason → history.exempted pk = true

/-- A transaction switches on no record check that age never held back. -/
def Warranted (history : History) (move : Move) : Prop :=
  ∀ pk, move.SwitchesOn history.file pk → history.exempted pk = true

/-- The queue keeps no turning-18 deadline for a requirement that age never held back. -/
def QueueSound (history : History) : Prop :=
  ∀ item ∈ history.file.reviewItems, ∀ pk, item.coveredInstance = some pk →
    IsTurning18 item.beforeState.dueOn item.beforeState.dueReason → history.exempted pk = true

end History

/-! ## Where a turning-18 deadline comes from -/

section Origin

variable {file : VolunteerFile} {pk : Pk} {row : RequirementInstance}

/-- A file holds a turning-18 deadline on an instance, or keeps one for it in its queue. -/
def Dates (file : VolunteerFile) (pk : Pk) : Prop :=
  (∃ row, file.requirementInstances pk = some row ∧ IsTurning18 row.dueOn row.dueReason) ∨
    ∃ item ∈ file.reviewItems, item.coveredInstance = some pk ∧
      IsTurning18 item.beforeState.dueOn item.beforeState.dueReason

theorem Saved.dates (saved : Saved file pk row) (dated : IsTurning18 row.dueOn row.dueReason) :
    Dates file pk := by
  cases saved with
  | kept there => exact .inl ⟨row, there, dated⟩
  | undated _ undated =>
      rw [undated] at dated
      exact absurd dated (not_isTurning18_none _)
  | rewritten there _ sameDate sameReason =>
      rw [sameDate, sameReason] at dated
      exact .inl ⟨_, there, dated⟩
  | restored listed covers _ sameDate sameReason =>
      rw [sameDate, sameReason] at dated
      exact .inr ⟨_, listed, covers, dated⟩

theorem move_dates {move : Move} (present : (move.after file).requirementInstances pk = some row)
    (dated : IsTurning18 row.dueOn row.dueReason) :
    Dates file pk ∨ move.SwitchesOn file pk := by
  revert dated
  refine @Move.row_induction (fun row => IsTurning18 row.dueOn row.dueReason →
    Dates file pk ∨ move.SwitchesOn file pk) file pk move ?_ ?_ ?_ ?_ ?_ ?_ ?_ row present
  · intro row there dated
    exact .inl (.inl ⟨row, there, dated⟩)
  · intro request work row _ _ written dated
    exact .inl (written.saved.dates dated)
  · intro subject rows definition dated
    refine absurd dated ?_
    unfold SyncSubject.createdRow
    split <;> exact not_isTurning18_none _
  · intro row reason _ _ dated
    exact absurd dated (not_isTurning18_none _)
  · rintro definition row rows volunteer rfl activates dated
    obtain already | byBirthday := activate_turning18 dated
    · exact .inl (.inl ⟨row, activates.found.1, already⟩)
    · exact .inr ⟨definition, row, rows, volunteer, rfl, activates, byBirthday⟩
  · intro catalogue rows definition row deadline reason _ _ _ derived dated
    exact absurd dated (not_isTurning18_of_prerequisite derived)
  · intro settings asOf write planned row _ there dated
    rw [RequirementInstance.recompute_dueOn, RequirementInstance.recompute_dueReason] at dated
    exact .inl (.inl ⟨row, there, dated⟩)

theorem move_queue {move : Move} {item : ReviewItem}
    (listed : item ∈ (move.after file).reviewItems) (covers : item.coveredInstance = some pk)
    (dated : IsTurning18 item.beforeState.dueOn item.beforeState.dueReason) : Dates file pk := by
  cases (Move.after_keeps listed).remembers with
  | said there same =>
      rw [← ReviewItem.coveredInstance_of_said same] at covers
      rw [← ReviewItem.beforeState_of_said same] at dated
      exact .inr ⟨_, there, covers, dated⟩
  | had covers' there sameDate sameReason =>
      cases covers.symm.trans covers'
      rw [sameDate, sameReason] at dated
      exact .inl ⟨_, there, dated⟩
  | undated undated =>
      rw [undated] at dated
      exact absurd dated (not_isTurning18_none _)

end Origin

/-! ## One history -/

namespace History

variable {history : History}

theorem exempted_of_dates (queue : history.QueueSound) (sound : history.Sound) {pk : Pk}
    (dates : Dates history.file pk) : history.exempted pk = true := by
  obtain ⟨row, there, dated⟩ | ⟨item, listed, covers, dated⟩ := dates
  · exact sound pk row there dated
  · exact queue item listed pk covers dated

theorem exempted_step (move : Move) {pk : Pk} (exempted : history.exempted pk = true) :
    (history.step move).exempted pk = true := by
  simp [step, exempted]

theorem exempted_of_step {move : Move} {pk : Pk} {row : RequirementInstance}
    (present : (history.step move).file.requirementInstances pk = some row)
    (unparked : row.status ≠ .notApplicable)
    (exempted : (history.step move).exempted pk = true) : history.exempted pk = true := by
  have free : heldForAge move.settings move.date (move.after history.file) pk = false := by
    have there : (move.after history.file).requirementInstances pk = some row := present
    simp [heldForAge, there, unparked]
  simpa [step, free] using exempted

theorem queueSound_step (queue : history.QueueSound) (sound : history.Sound) (move : Move) :
    (history.step move).QueueSound := by
  intro item listed pk covers dated
  apply exempted_step
  exact exempted_of_dates queue sound (move_queue listed covers dated)

theorem sound_step_iff (queue : history.QueueSound) (sound : history.Sound) (move : Move) :
    (history.step move).Sound ↔ history.Warranted move := by
  constructor
  · rintro soundAfter pk ⟨definition, row, rows, volunteer, rfl, activates, byBirthday⟩
    obtain ⟨trigger, kept, switched⟩ := byBirthday.activate
    have present := activates.leaves
    rw [switched] at present
    refine exempted_of_step present (by simp [turnedOn]) ?_
    exact soundAfter _ _ present (isTurning18_turnedOn kept row)
  · intro warranted pk row present dated
    apply exempted_step
    obtain dates | switched := move_dates present dated
    · exact exempted_of_dates queue sound dates
    · exact warranted pk switched

theorem always_sound_iff (volunteer : Volunteer) (moves : List Move) :
    Machine.Always step Sound (opened volunteer) moves ↔
      Machine.Guarded step Warranted (opened volunteer) moves := by
  refine Machine.always_iff_guarded step Warranted QueueSound Sound ?_ ?_ ?_ ?_ moves
  · intro history move queue sound _
    exact queueSound_step queue sound move
  · intro history move queue sound
    exact sound_step_iff queue sound move
  · intro item listed
    cases listed
  · intro pk row present
    cases present

end History

/-! ## An instance nobody has touched -/

/-- Not started or parked, and without a deadline. -/
structure Requirements.RequirementInstance.Untouched (row : RequirementInstance) : Prop where
  open_or_parked : row.status = .notStarted ∨ row.status = .notApplicable
  undated : row.dueOn = none

namespace Requirements

variable {row : RequirementInstance} {definition : RequirementDefinition}

theorem untouched_recompute (untouched : row.Untouched) (asOf : Date) :
    row.recompute asOf = row := by
  unfold RequirementInstance.recompute
  obtain ⟨notStarted | parked, undated⟩ := untouched
  · simp [notStarted, undated]
  · simp [parked]

theorem untouched_hold (reason : String) : (holdNotApplicable row reason).Untouched :=
  ⟨.inr rfl, rfl⟩

theorem untouched_activate {catalogue : Catalogue} {rows : Instances} {volunteer : Volunteer}
    (untouched : row.Untouched)
    (ungated : definition.isGated = true → prerequisiteDeadline catalogue rows definition = none) :
    (activate catalogue rows volunteer definition row).Untouched ∨
      definition.isCrc = true ∧ definition.ageRule = .adultsOnly ∧
        ∃ trigger, volunteer.eighteenthBirthdayTriggerDate = some trigger := by
  obtain ⟨trigger, crc, adults, known, _⟩ | ⟨gated, _, _, derived, _⟩ | switched :=
    activate_cases catalogue rows volunteer definition row
  · exact .inr ⟨crc, adults, trigger, known⟩
  · rw [ungated gated] at derived
    cases derived
  · rw [switched]
    exact .inl ⟨.inl rfl, untouched.undated⟩

theorem SyncSubject.untouched_created (subject : SyncSubject) (rows : Instances)
    (definition : RequirementDefinition) : (subject.createdRow rows definition).Untouched := by
  unfold createdRow
  split
  · exact ⟨.inr rfl, rfl⟩
  · exact ⟨.inl rfl, rfl⟩

theorem SyncSubject.untouched_reconciled (subject : SyncSubject) {rows : Instances}
    (untouched : row.Untouched)
    (ungated : definition.isGated = true →
      prerequisiteDeadline subject.catalogue rows definition = none) :
    (subject.reconciled rows definition row).Untouched ∨
      row.status = .notApplicable ∧ subject.parkingReason rows definition = none ∧
        definition.isCrc = true ∧ definition.ageRule = .adultsOnly ∧
          ∃ trigger, subject.volunteer.eighteenthBirthdayTriggerDate = some trigger := by
  unfold reconciled
  split
  · split
    · exact .inl (untouched_hold _)
    · exact .inl untouched
  · next free =>
    split
    · next parked =>
        exact (untouched_activate untouched ungated).imp_right fun dates => ⟨parked, free, dates⟩
    · split
      · next derives =>
          rw [Bool.and_eq_true, Bool.and_eq_true] at derives
          have unchanged :
              refreshPrerequisiteDeadline subject.catalogue rows definition row = none := by
            unfold refreshPrerequisiteDeadline
            rw [ungated derives.1.1]
          rw [unchanged]
          exact .inl untouched
      · exact .inl untouched

variable {settings : Settings} {asOf : Date} {file : VolunteerFile} {pk : Pk}

/-- No gate in force dates this instance. -/
def Ungated (catalogue : Catalogue) (rows : Instances) (pk : Pk) : Prop :=
  ∀ definition ∈ catalogue.active, definition.pk = pk → definition.isGated = true →
    prerequisiteDeadline catalogue rows definition = none

theorem untouched_synced
    (untouched : ∀ row, file.requirementInstances pk = some row → row.Untouched)
    (ungated : Ungated settings.catalogue file.requirementInstances pk)
    (present : (synced settings asOf file).requirementInstances pk = some row) :
    row.Untouched ∨ ∃ definition before, definition.pk = pk ∧
      Releases settings asOf file definition before ∧ definition.isCrc = true ∧
      definition.ageRule = .adultsOnly ∧
      ∃ trigger, file.volunteer.eighteenthBirthdayTriggerDate = some trigger := by
  obtain there | ⟨definition, listed, rfl, ⟨_, rfl⟩ | ⟨before, there, rfl⟩⟩ :=
    synced_instance present
  · exact .inl (untouched row there)
  · exact .inl (SyncSubject.untouched_created _ _ _)
  · have undated : definition.isGated = true →
        prerequisiteDeadline settings.catalogue
          ((syncSubject settings asOf file).rowsAt definition) definition = none := by
      intro gated
      rw [← ungated definition listed rfl gated]
      exact (syncSubject settings asOf file).prerequisiteDeadline_rowsAt definition listed _
    obtain still | ⟨parked, free, dates⟩ :=
      (syncSubject settings asOf file).untouched_reconciled (untouched before there) undated
    · exact .inl still
    · exact .inr ⟨definition, before, rfl, ⟨listed, there, parked, free⟩, dates⟩

theorem ungated_congr {catalogue : Catalogue} {rows rows' : Instances}
    (completions : ∀ pk, (rows pk).bind (·.completedOn) = (rows' pk).bind (·.completedOn))
    (pk : Pk) : Ungated catalogue rows pk ↔ Ungated catalogue rows' pk := by
  unfold Ungated
  simp only [prerequisiteDeadline_congr completions]

end Requirements

/-- An adult by the age rule, whose eighteenth birthday is a date. -/
def Org.Volunteer.IsOfAge (volunteer : Volunteer) (date : Date) : Prop :=
  volunteer.isAdultOn date = true ∧
    ∀ trigger, volunteer.eighteenthBirthdayTriggerDate = some trigger → Date.InRange trigger

namespace History

/-- A transaction that neither records nor dates this check, of somebody who is an adult whenever
they have it; and it does not switch it on unwarranted. -/
structure Unrecorded (pk : Pk) (history : History) (move : Move) : Prop where
  spares : move.Spares history.file pk
  ofAge : ((move.after history.file).requirementInstances pk).isSome = true →
    (move.after history.file).volunteer.IsOfAge move.date
  ungated : Ungated move.settings.catalogue (move.after history.file).requirementInstances pk
  warranted : move.SwitchesOn history.file pk → history.exempted pk = true

/-- Age has never held the check back, and nothing else has touched it. -/
structure Idle (pk : Pk) (history : History) : Prop where
  untouched : ∀ row, history.file.requirementInstances pk = some row → row.Untouched
  unexempted : history.exempted pk = false

section Steps

variable {pk : Pk} {history : History} {row : RequirementInstance}

theorem move_untouched {move : Move} (idle : history.Idle pk)
    (unrecorded : history.Unrecorded pk move)
    (present : (move.after history.file).requirementInstances pk = some row) :
    row.Untouched ∨ move.SwitchesOn history.file pk := by
  have ofAge := unrecorded.ofAge (by rw [present]; rfl)
  have ungated := unrecorded.ungated
  cases move with
  | transact request =>
      obtain same | ⟨work, single, success, written⟩ :=
        Move.transact_cases request history.file
      · rw [same] at present
        exact .inl (idle.untouched row present)
      · rw [written] at present ofAge ungated
        obtain ⟨between, saves⟩ := perform_writes single success
        obtain ⟨spared, sameVolunteer⟩ := saves.spared pk (unrecorded.spares work success)
        obtain same | same := saves.synced
        · rw [same, spared] at present
          exact .inl (idle.untouched row present)
        · rw [same] at present ungated
          have before := (ungated_congr
            (syncSubject request.ambient.settings _ between).result_completedOn pk).mp ungated
          obtain still | ⟨definition, earlier, samePk, releases, crc, adults, trigger, known⟩ :=
            untouched_synced (by rw [spared]; exact idle.untouched) before present
          · exact .inl still
          · have kept := ofAge.2 trigger (sameVolunteer ▸ known)
            exact .inr ⟨definition, earlier, _, _, samePk,
              .resynced single success saves same releases, crc, adults, trigger, kept, known⟩
  | sync settings asOf =>
      have before := (ungated_congr
        (syncSubject settings asOf history.file).result_completedOn pk).mp ungated
      obtain still | ⟨definition, earlier, samePk, releases, crc, adults, trigger, known⟩ :=
        untouched_synced idle.untouched before present
      · exact .inl still
      · exact .inr ⟨definition, earlier, _, _, samePk, .synced releases, crc, adults, trigger,
          ofAge.2 trigger known, known⟩
  | sweep settings asOf write planned =>
      have before := (ungated_congr
        (Core.sweepStep_completedOn history.file write) pk).mp ungated
      have sameVolunteer :
          (Move.after history.file (.sweep settings asOf write planned)).volunteer =
            history.file.volunteer := Core.sweepStep_volunteer history.file write
      rw [sameVolunteer] at ofAge
      obtain there | ⟨rfl, serving, synced⟩ |
        ⟨definition, earlier, rfl, there, serving, parked, turns, rfl, rfl⟩ |
        ⟨earlier, there, rfl⟩ := Core.sweepStep_row present
      · exact .inl (idle.untouched row there)
      · obtain still | ⟨definition, earlier, samePk, releases, crc, adults, trigger, known⟩ :=
          untouched_synced idle.untouched before synced
        · exact .inl still
        · exact .inr ⟨definition, earlier, _, _, samePk, .swept serving releases, crc, adults,
            trigger, ofAge.2 trigger known, known⟩
      · have inForce : definition ∈ settings.catalogue.active := by
          simpa [Core.fileSteps] using planned
        obtain still | ⟨crc, adults, trigger, known⟩ :=
          untouched_activate (idle.untouched earlier there) (before definition inForce rfl)
        · exact .inl still
        · exact .inr ⟨definition, earlier, _, _, rfl, .scanned serving there parked turns, crc,
            adults, trigger, ofAge.2 trigger known, known⟩
      · rw [untouched_recompute (idle.untouched earlier there)]
        exact .inl (idle.untouched earlier there)

theorem idle_step {move : Move} (idle : history.Idle pk)
    (unrecorded : history.Unrecorded pk move) : (history.step move).Idle pk := by
  have untouched : ∀ row, (history.step move).file.requirementInstances pk = some row →
      row.Untouched := by
    intro row present
    obtain still | switched := move_untouched idle unrecorded present
    · exact still
    · have exempted := unrecorded.warranted switched
      rw [idle.unexempted] at exempted
      cases exempted
  refine ⟨untouched, ?_⟩
  have free : heldForAge move.settings move.date (move.after history.file) pk = false := by
    cases present : (move.after history.file).requirementInstances pk with
    | none => simp [heldForAge, present]
    | some row =>
        have adult := (unrecorded.ofAge (by rw [present]; rfl)).1
        simp [heldForAge, RequirementDefinition.isAgeExempt, adult]
  simp [step, idle.unexempted, free]

theorem idle_opened (volunteer : Volunteer) (pk : Pk) : (opened volunteer).Idle pk := by
  refine ⟨?_, rfl⟩
  intro row present
  cases present

theorem idle_lived {volunteer : Volunteer} {moves : List Move}
    (guarded : Machine.Guarded step (fun history => history.Unrecorded pk) (opened volunteer)
      moves) : (lived volunteer moves).Idle pk := by
  have always : Machine.Always step (fun history => history.Idle pk) (opened volunteer) moves := by
    refine Machine.always_of_guarded step _ _ ?_ (idle_opened volunteer pk) guarded
    intro history move idle unrecorded
    exact idle_step idle unrecorded
  exact always.run

end Steps

end History

/-! ## Two histories -/

/-- Two files that a sync of this requirement reads alike: the same roles, and a gate that holds
for both or for neither. -/
structure StandAlike (settings : Settings) (asOf : Date) (definition : RequirementDefinition)
    (first second : VolunteerFile) : Prop where
  roles : ∀ role, role ∈ first.activeRoles settings ↔ role ∈ second.activeRoles settings
  gate : (unmetPrerequisite settings.catalogue
      ((syncSubject settings asOf first).rowsAt definition) definition).isSome =
    (unmetPrerequisite settings.catalogue
      ((syncSubject settings asOf second).rowsAt definition) definition).isSome

section Alike

variable {settings : Settings} {asOf : Date} {definition : RequirementDefinition}
  {file : VolunteerFile} {row : RequirementInstance}

theorem untouched_status (listed : definition ∈ settings.catalogue.active)
    (untouched : ∀ row, file.requirementInstances definition.pk = some row → row.Untouched)
    (present : (synced settings asOf file).requirementInstances definition.pk = some row) :
    row.status =
      if ((syncSubject settings asOf file).parkingReason
        ((syncSubject settings asOf file).rowsAt definition) definition).isSome then
          .notApplicable
      else .notStarted := by
  obtain ⟨_, _, rfl⟩ | ⟨before, there, rfl⟩ := synced_instance_of_mem listed present
  · unfold SyncSubject.createdRow
    cases (syncSubject settings asOf file).parkingReason _ definition <;> rfl
  · rw [SyncSubject.reconciled_status]
    obtain ⟨notStarted | parked, _⟩ := untouched before there
    · simp [notStarted]
    · simp [parked]

theorem parkingReason_of_adult (adult : file.volunteer.isAdultOn asOf = true) :
    ((syncSubject settings asOf file).parkingReason
        ((syncSubject settings asOf file).rowsAt definition) definition).isSome =
      (!definition.appliesToVolunteer (file.activeRoles settings) ||
        (unmetPrerequisite settings.catalogue
          ((syncSubject settings asOf file).rowsAt definition) definition).isSome) := by
  have included : (syncSubject settings asOf file).exempt definition = false := by
    unfold SyncSubject.exempt RequirementDefinition.isAgeExempt syncSubject
    simp [adult]
  have applies : (syncSubject settings asOf file).applies definition =
      definition.appliesToVolunteer (file.activeRoles settings) := rfl
  unfold SyncSubject.parkingReason
  rw [included, applies]
  cases definition.appliesToVolunteer (file.activeRoles settings)
  · rfl
  · simp [syncSubject]

/-- Where a record check stands in the end: no deadline, and a status that the roles and the gate
decide. -/
theorem settled_row {volunteer : Volunteer} {moves : List Move}
    (listed : definition ∈ settings.catalogue.active)
    (guarded : Machine.Guarded History.step (fun history => history.Unrecorded definition.pk)
      (.opened volunteer) (moves ++ [.sync settings asOf]))
    (present : (recomputeAllStatuses asOf (synced settings asOf
      (History.lived volunteer moves).file)).requirementInstances definition.pk = some row) :
    row.dueOn = none ∧ row.status =
      if !definition.appliesToVolunteer
            ((History.lived volunteer moves).file.activeRoles settings) ||
          (unmetPrerequisite settings.catalogue
            ((syncSubject settings asOf (History.lived volunteer moves).file).rowsAt definition)
            definition).isSome then
        .notApplicable
      else .notStarted := by
  obtain ⟨before, there, rfl⟩ := Option.map_eq_some_iff.mp present
  have idleAfter := History.idle_lived guarded
  obtain ⟨earlier, last, _⟩ := Machine.guarded_append.mp guarded
  have idleBefore := History.idle_lived earlier
  have untouched : before.Untouched := by
    refine idleAfter.untouched before ?_
    unfold History.lived
    rw [Machine.run_append]
    exact there
  have adult : (History.lived volunteer moves).file.volunteer.isAdultOn asOf = true :=
    (last.ofAge (Option.isSome_iff_exists.mpr ⟨before, there⟩)).1
  rw [untouched_recompute untouched, untouched_status listed idleBefore.untouched there,
    parkingReason_of_adult adult]
  exact ⟨untouched.undated, rfl⟩

end Alike

/-- In every history, a turning-18 deadline stands only where age once held the check back exactly
as long as no transaction switches on a check that age never held back.  Between two adults'
histories of that kind, which did nothing else to the check, the roles alone decide. -/
theorem deadline_forgets_history (first : Volunteer) (firstMoves : List Move) :
    (Machine.Always History.step History.Sound (.opened first) firstMoves ↔
        Machine.Guarded History.step History.Warranted (.opened first) firstMoves) ∧
      ∀ (second : Volunteer) (secondMoves : List Move) (settings : Settings) (asOf : Date)
        (definition : RequirementDefinition), definition ∈ settings.catalogue.active →
        Machine.Guarded History.step (fun history => history.Unrecorded definition.pk)
          (.opened first) (firstMoves ++ [.sync settings asOf]) →
        Machine.Guarded History.step (fun history => history.Unrecorded definition.pk)
          (.opened second) (secondMoves ++ [.sync settings asOf]) →
        StandAlike settings asOf definition (History.lived first firstMoves).file
          (History.lived second secondMoves).file →
        ∀ row row' : RequirementInstance,
          (recomputeAllStatuses asOf (synced settings asOf
              (History.lived first firstMoves).file)).requirementInstances definition.pk =
            some row →
          (recomputeAllStatuses asOf (synced settings asOf
              (History.lived second secondMoves).file)).requirementInstances definition.pk =
            some row' →
          row.status = row'.status ∧ row.dueOn = row'.dueOn := by
  refine ⟨History.always_sound_iff first firstMoves, ?_⟩
  intro second secondMoves settings asOf definition listed guarded guarded' alike row row' present
    present'
  obtain ⟨undated, status⟩ := settled_row listed guarded present
  obtain ⟨undated', status'⟩ := settled_row listed guarded' present'
  have applies : definition.appliesToVolunteer
        ((History.lived first firstMoves).file.activeRoles settings) =
      definition.appliesToVolunteer
        ((History.lived second secondMoves).file.activeRoles settings) := by
    unfold RequirementDefinition.appliesToVolunteer
    rw [Bool.eq_iff_iff, List.any_eq_true, List.any_eq_true]
    simp only [alike.roles]
  rw [status, status', applies, alike.gate, undated, undated']
  exact ⟨rfl, rfl⟩

/-! ## Adults who left a role and came back -/

namespace Sample

def nurseryCheck : RequirementDefinition :=
  { recordCheck with
    appliesTo := .specificRoles
    roles := [1] }

def nurseryCheckOnly : Catalogue where
  definitions := [nurseryCheck]
  uniquePk := by decide
  uniqueName := by decide
  ordered := by decide

def twoRoles : Settings :=
  { settings nurseryCheckOnly with
    roles := [⟨1, 1, "Nursery helper", false, true⟩, ⟨2, 1, "Greeter", false, true⟩] }

def inTwoRoles (today : Date) : Ambient :=
  { byPrimaryAdmin nurseryCheckOnly today with settings := twoRoles }

def joins (role : Pk) (today : Date) : Move :=
  .transact ⟨inTwoRoles today, .assignmentCreate primaryAdmin role today⟩

def leaves (assignment : Nat) (today : Date) : Move :=
  .transact ⟨inTwoRoles today, .assignmentEnd primaryAdmin assignment (some today)⟩

def bothRoles : List Move := [joins 1 (january 5), joins 2 (january 5)]

def resumedNursery : List Move := bothRoles ++ [leaves 0 (january 8), joins 1 (january 9)]

def oneRole : List Move := [joins 1 (january 5)]

def greetedOnce : List Move := bothRoles ++ [leaves 1 (january 8)]

def settled (moves : List Move) : Instances :=
  (recomputeAllStatuses (january 20)
    (synced twoRoles (january 20) (History.lived adult moves).file)).requirementInstances

end Sample

theorem resumed_role_owes_a_deadline :
    let steady := (History.lived Sample.adult Sample.bothRoles).file
    let resumed := (History.lived Sample.adult Sample.resumedNursery).file
    Sample.adult.isAdultOn (Sample.january 5) = true ∧
      resumed.volunteer = steady.volunteer ∧
      resumed.activeRoles Sample.twoRoles = steady.activeRoles Sample.twoRoles ∧
      resumed.crcRecords = [] ∧ steady.crcRecords = [] ∧
      (Sample.settled Sample.bothRoles 9).map (fun row => (row.status, row.dueOn)) =
        some (.notStarted, none) ∧
      (Sample.settled Sample.resumedNursery 9).map (fun row => (row.status, row.dueOn)) =
        some (.overdue, some (.firstOf 2008 ⟨8, by decide⟩)) ∧
      ¬(History.lived Sample.adult Sample.resumedNursery).Sound := by
  refine ⟨by decide +kernel, by decide +kernel, by decide +kernel, by decide +kernel,
    by decide +kernel, by decide +kernel, by decide +kernel, ?_⟩
  intro sound
  have unexempted : (History.lived Sample.adult Sample.resumedNursery).exempted 9 = false := by
    decide +kernel
  have dated : ((History.lived Sample.adult Sample.resumedNursery).file.requirementInstances 9).map
      (fun row => (row.dueOn, row.dueReason)) =
      some (some ((Date.firstOf 2008 ⟨5, by decide⟩).addMonths turning18CrcDeadlineMonths),
        turning18Reason (.firstOf 2008 ⟨5, by decide⟩)) := by decide +kernel
  obtain ⟨row, there, reads⟩ := Option.map_eq_some_iff.mp dated
  have exempted := sound 9 row there
    ⟨.firstOf 2008 ⟨5, by decide⟩, ⟨by decide, by decide⟩, congrArg Prod.fst reads,
      congrArg Prod.snd reads⟩
  rw [unexempted] at exempted
  cases exempted

namespace Sample

theorem unrecorded {history : History} {move : Move} (here : move.settings = twoRoles)
    (spares : move.Spares history.file 9)
    (grown : (move.after history.file).volunteer.isAdultOn move.date = true)
    (birthday : (move.after history.file).volunteer.eighteenthBirthdayTriggerDate =
      some (.firstOf 2008 ⟨5, by decide⟩))
    (unparked : (history.file.requirementInstances 9).map (·.status) ≠ some .notApplicable) :
    history.Unrecorded 9 move := by
  refine ⟨spares, ?_, ?_, ?_⟩
  · refine fun _ => ⟨grown, ?_⟩
    intro trigger known
    obtain rfl := Option.some.inj (birthday.symm.trans known)
    exact ⟨by decide, by decide⟩
  · intro definition listed _ gated
    rw [here] at listed
    have free : ∀ definition ∈ twoRoles.catalogue.active, definition.isGated = false := by decide
    rw [free definition listed] at gated
    cases gated
  · rintro ⟨definition, row, _, _, samePk, activates, _⟩
    obtain ⟨there, parked⟩ := activates.found
    rw [samePk] at there
    rw [there, Option.map_some, parked] at unparked
    exact absurd rfl unparked

end Sample

theorem deadline_forgets_greeting :
    Machine.Always History.step History.Sound (.opened Sample.adult) Sample.oneRole ∧
      ∃ row row', Sample.settled Sample.oneRole 9 = some row ∧
        Sample.settled Sample.greetedOnce 9 = some row' ∧
        row.status = row'.status ∧ row.dueOn = row'.dueOn := by
  have sync : ∀ {history : History},
      (history.file.volunteer.isAdultOn (Sample.january 20) = true ∧
        history.file.volunteer.eighteenthBirthdayTriggerDate =
          some (.firstOf 2008 ⟨5, by decide⟩) ∧
        (history.file.requirementInstances 9).map (·.status) ≠ some .notApplicable) →
      history.Unrecorded 9 (.sync Sample.twoRoles (Sample.january 20)) := by
    rintro history ⟨grown, birthday, unparked⟩
    exact Sample.unrecorded rfl trivial grown birthday unparked
  have joined : (History.opened Sample.adult).Unrecorded 9 (Sample.joins 1 (Sample.january 5)) :=
    Sample.unrecorded rfl (fun _ _ => trivial) (by decide +kernel) (by decide +kernel)
      (by decide +kernel)
  have stayed : Machine.Guarded History.step (fun history => history.Unrecorded 9)
      (.opened Sample.adult)
      (Sample.oneRole ++ [.sync Sample.twoRoles (Sample.january 20)]) :=
    ⟨joined, sync (by decide +kernel), trivial⟩
  have greeted : Machine.Guarded History.step (fun history => history.Unrecorded 9)
      (.opened Sample.adult)
      (Sample.greetedOnce ++ [.sync Sample.twoRoles (Sample.january 20)]) := by
    refine ⟨joined, ?_, ?_, sync (by decide +kernel), trivial⟩
    · exact Sample.unrecorded rfl (fun _ _ => trivial) (by decide +kernel) (by decide +kernel)
        (by decide +kernel)
    · exact Sample.unrecorded rfl (fun _ _ => trivial) (by decide +kernel) (by decide +kernel)
        (by decide +kernel)
  have warranted : Machine.Guarded History.step History.Warranted (.opened Sample.adult)
      Sample.oneRole := by
    refine ⟨?_, trivial⟩
    rintro pk ⟨_, _, _, _, _, activates, _⟩
    cases activates.found.1
  have alike : StandAlike Sample.twoRoles (Sample.january 20) Sample.nurseryCheck
      (History.lived Sample.adult Sample.oneRole).file
      (History.lived Sample.adult Sample.greetedOnce).file := by
    have roles : (History.lived Sample.adult Sample.oneRole).file.activeRoles Sample.twoRoles =
        (History.lived Sample.adult Sample.greetedOnce).file.activeRoles Sample.twoRoles := by
      decide +kernel
    exact ⟨fun role => by rw [roles], by decide +kernel⟩
  have present : (Sample.settled Sample.oneRole 9).isSome = true := by decide +kernel
  have present' : (Sample.settled Sample.greetedOnce 9).isSome = true := by decide +kernel
  obtain ⟨row, there⟩ := Option.isSome_iff_exists.mp present
  obtain ⟨row', there'⟩ := Option.isSome_iff_exists.mp present'
  obtain ⟨sound, agree⟩ := deadline_forgets_history Sample.adult Sample.oneRole
  exact ⟨sound.mpr warranted, row, row', there, there', agree Sample.adult Sample.greetedOnce
    Sample.twoRoles (Sample.january 20) Sample.nurseryCheck (by decide) stayed greeted alike row
    row' there there'⟩

end VolunteerScreening
