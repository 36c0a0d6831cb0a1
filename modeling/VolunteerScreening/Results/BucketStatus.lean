import VolunteerScreening.Results.DeadlineHistory
import VolunteerScreening.Results.SkippedNights

/-!
# The overdue column and the stored status

The column reads the dates each time it is asked; the status is stored, and
recomputing follows only some of the dates.  They part where an instance is
switched back on with the expiry of what was completed before it was parked, and
where undoing a waiver gives a deadline to what has been completed since.
-/

namespace VolunteerScreening

open Calendar Org Requirements Review

namespace Requirements.RequirementInstance

variable {row : RequirementInstance} {completedOn expiresOn dueOn : Option Date}
  {today later asOf : Date}

/-- Dates of one life: nothing runs out that was not completed, and from this day on no deadline
of what was completed passes before that has run out. -/
structure OneLife (completedOn expiresOn dueOn : Option Date) (today : Date) : Prop where
  unexpiring : completedOn = none → expiresOn = none
  outlasted : completedOn.isSome = true → ∀ later, today ≤ later →
    isBefore dueOn later = true → isBefore expiresOn later = true

theorem OneLife.mono (life : OneLife completedOn expiresOn dueOn today) (after : today ≤ later) :
    OneLife completedOn expiresOn dueOn later :=
  ⟨life.unexpiring, fun completed last after' => life.outlasted completed last (after.trans after')⟩

theorem oneLife_of_undated (unexpiring : completedOn = none → expiresOn = none) :
    OneLife completedOn expiresOn none today := by
  refine ⟨unexpiring, ?_⟩
  intro _ _ _ passed
  cases passed

theorem oneLife_of_incomplete (dueOn : Option Date) : OneLife none none dueOn today := by
  refine ⟨fun _ => rfl, ?_⟩
  intro completed
  cases completed

/-- What has run out outlasts every deadline. -/
theorem oneLife_of_expired (completed : completedOn.isSome = true)
    (expired : isBefore expiresOn today = true) : OneLife completedOn expiresOn dueOn today := by
  constructor
  · intro incomplete
    rw [incomplete] at completed
    cases completed
  · intro _ last after _
    exact isBefore_mono expired after

/-- The dates are of one life, and what was completed and is owed again is past its deadline. -/
structure InStep (row : RequirementInstance) (today : Date) : Prop where
  life : OneLife row.completedOn row.expiresOn row.dueOn today
  owed : row.status = .notStarted ∨ row.status = .inProgress → row.completedOn.isSome = true →
    row.isPastDueDate today = true

theorem InStep.mono (inStep : row.InStep today) (after : today ≤ later) : row.InStep later :=
  ⟨inStep.life.mono after, fun open_ completed => isBefore_mono (inStep.owed open_ completed) after⟩

theorem inStep_of_closed (life : OneLife row.completedOn row.expiresOn row.dueOn today)
    (closed : ¬(row.status = .notStarted ∨ row.status = .inProgress)) : row.InStep today :=
  ⟨life, fun open_ => absurd open_ closed⟩

theorem inStep_of_incomplete (incomplete : row.completedOn = none)
    (unexpiring : row.expiresOn = none) : row.InStep today := by
  refine ⟨?_, ?_⟩
  · rw [incomplete, unexpiring]
    exact oneLife_of_incomplete row.dueOn
  · intro _ completed
    rw [incomplete] at completed
    cases completed

theorem inStep_of_reversal (life : OneLife row.completedOn row.expiresOn row.dueOn today)
    (fits : row.status = row.statusAfterReversal) : row.InStep today := by
  refine ⟨life, ?_⟩
  intro open_ completed
  rw [fits, statusAfterReversal, if_pos completed] at open_
  simp at open_

theorem inStep_unwaivedRow {restoreDue : Option (Option Date × String)}
    (life : OneLife row.completedOn row.expiresOn (unwaivedRow row restoreDue).dueOn today) :
    (unwaivedRow row restoreDue).InStep today := by
  cases restoreDue with
  | none => exact @inStep_of_reversal (unwaivedRow row none) today life rfl
  | some kept => exact @inStep_of_reversal (unwaivedRow row (some kept)) today life rfl

theorem open_of_recompute
    (open_ : (row.recompute asOf).status = .notStarted ∨
      (row.recompute asOf).status = .inProgress) :
    row.recompute asOf = row := by
  by_cases complete : row.status = .complete
  · rw [recompute_complete complete] at open_ ⊢
    split at open_
    · simp at open_
    · simp [complete] at open_
  by_cases overdue : row.status = .overdue
  · rw [recompute_overdue overdue] at open_ ⊢
    split at open_
    · simp at open_
    · simp [overdue] at open_
  by_cases still : row.status = .notStarted ∨ row.status = .inProgress
  · rw [recompute_open still] at open_ ⊢
    split at open_
    · simp at open_
    · next current => exact if_neg current
  · have undated : row.status = .notApplicable ∨ row.status = .waived ∨ row.status = .blocked := by
      cases status : row.status <;> simp_all
    exact row.recompute_status_of_not_dated asOf undated

theorem InStep.recompute (inStep : row.InStep today) (asOf : Date) :
    (row.recompute asOf).InStep today := by
  refine ⟨by simpa using inStep.life, ?_⟩
  intro open_
  have same := open_of_recompute open_
  rw [same] at open_ ⊢
  exact inStep.owed open_

theorem bucket_overdue_of_status (listed : row.status = .overdue ∨ row.status = .blocked) :
    row.bucket today = .overdue := by
  unfold bucket
  obtain overdue | blocked := listed
  · simp [overdue]
  · simp [blocked]

theorem bucket_ne_overdue (unlisted : ¬(row.status = .overdue ∨ row.status = .blocked))
    (valid : row.isExpired today = false) (current : row.isPastDueDate today = false) :
    row.bucket today ≠ .overdue := by
  rw [not_or] at unlisted
  unfold bucket
  rw [valid, current]
  simp only [unlisted, Bool.false_eq_true, or_self, if_false]
  split
  · simp
  · split
    · split
      · split <;> simp
      · simp
    · simp

theorem valid_of_recompute (complete : (row.recompute asOf).status = .complete) :
    row.isExpired asOf = false ∧ (row.completedOn = none → row.isPastDueDate asOf = false) := by
  by_cases before : row.status = .complete
  · rw [recompute_complete before] at complete
    split at complete
    · cases complete
    · next valid =>
        rw [not_or, not_and, Bool.not_eq_true] at valid
        refine ⟨valid.1, fun incomplete => ?_⟩
        rw [← Bool.not_eq_true]
        exact fun past => valid.2 past incomplete
  by_cases overdue : row.status = .overdue
  · rw [recompute_overdue overdue] at complete
    split at complete
    · next back =>
        refine ⟨back.2, fun incomplete => ?_⟩
        rw [incomplete] at back
        cases back.1
    · exact absurd complete before
  · have same : row.recompute asOf = row ∨ (row.recompute asOf).status = .overdue := by
      by_cases open_ : row.status = .notStarted ∨ row.status = .inProgress
      · rw [recompute_open open_]
        split
        · exact .inr rfl
        · exact .inl rfl
      · refine .inl (row.recompute_status_of_not_dated asOf ?_)
        cases status : row.status <;> simp_all
    obtain same | same := same
    · rw [same] at complete
      exact absurd complete before
    · cases same.symm.trans complete

theorem InStep.bucket_recompute (inStep : row.InStep today) (after : today ≤ later) :
    (row.recompute later).bucket later = .overdue ↔
      (row.recompute later).status = .overdue ∨ (row.recompute later).status = .blocked := by
  refine ⟨?_, bucket_overdue_of_status⟩
  intro inColumn
  by_contra unlisted
  revert inColumn
  by_cases done : (row.recompute later).status = .notApplicable ∨
      (row.recompute later).status = .waived
  · simp [bucket, done]
  by_cases complete : (row.recompute later).status = .complete
  · obtain ⟨valid, current⟩ := valid_of_recompute complete
    refine bucket_ne_overdue unlisted (by simpa [isExpired] using valid) ?_
    rw [← Bool.not_eq_true]
    intro past
    rw [isPastDueDate, recompute_dueOn] at past
    cases completed : row.completedOn with
    | none => cases past.symm.trans (current completed)
    | some completedOn =>
        have expired := inStep.life.outlasted (by rw [completed]; rfl) later after past
        cases expired.symm.trans valid
  · have open_ : (row.recompute later).status = .notStarted ∨
        (row.recompute later).status = .inProgress := by
      cases status : (row.recompute later).status <;> simp_all
    have same := open_of_recompute open_
    rw [same] at open_ unlisted ⊢
    have current : row.isPastDueDate later = false := by
      rw [← Bool.not_eq_true]
      intro past
      rw [recompute_open open_, if_pos past] at same
      exact unlisted (.inl (congrArg status same).symm)
    refine bucket_ne_overdue unlisted ?_ current
    cases completed : row.completedOn with
    | none => rw [isExpired, inStep.life.unexpiring completed, isBefore_none]
    | some completedOn =>
        have past := isBefore_mono (inStep.owed open_ (by rw [completed]; rfl)) after
        cases past.symm.trans current

end Requirements.RequirementInstance

/-! ## Every transaction -/

/-- A file, and the latest day that anything was done to it. -/
structure DatedFile where
  file : VolunteerFile
  day : Date

namespace DatedFile

open RequirementInstance

def opened (volunteer : Volunteer) (day : Date) : DatedFile :=
  ⟨.opened volunteer.deriveBirth, day⟩

def dayAfter (dated : DatedFile) (move : Move) : Date := max dated.day move.today

def step (dated : DatedFile) (move : Move) : DatedFile :=
  ⟨move.after dated.file, dated.dayAfter move⟩

/-- Directly after the statuses of an active volunteer are recomputed, on this day or a later one,
the column and the status agree. -/
def BucketsAgree (dated : DatedFile) : Prop :=
  ∀ today, dated.day ≤ today → dated.file.volunteer.isActive = true → ∀ pk row,
    (recomputeAllStatuses today dated.file).requirementInstances pk = some row →
    (row.bucket today = .overdue ↔ row.status = .overdue ∨ row.status = .blocked)

/-- A transaction carries no date from one life of an instance into another.  It switches no
instance back on that was completed before it was parked, unless with a deadline that has passed;
and it undoes no waiver of a completed instance whose item kept a deadline that passes before that
runs out. -/
structure KeepsLivesApart (dated : DatedFile) (move : Move) : Prop where
  switched : ∀ definition row rows volunteer,
    move.Activates dated.file definition row rows volunteer → row.completedOn.isSome = true →
    (activate move.settings.catalogue rows volunteer definition row).isPastDueDate
      (dated.dayAfter move) = true
  reversed : ∀ ambient user position reason work item pk before,
    move = .transact ⟨ambient, .sendBack user position reason⟩ →
    perform ambient (.sendBack user position reason) dated.file = .ok work →
    dated.file.reviewItems[position]? = some item → item.kind = .waiver →
    item.coveredInstance = some pk → dated.file.requirementInstances pk = some before →
    before.status = .waived → before.completedOn.isSome = true →
    ∀ later, dated.dayAfter move ≤ later → isBefore item.beforeState.dueOn later = true →
      before.isExpired later = true

structure Sound (dated : DatedFile) : Prop where
  rows : ∀ pk row, dated.file.requirementInstances pk = some row → row.InStep dated.day
  lapsed : Lapsed dated.day dated.file
  queue : ∀ item ∈ dated.file.reviewItems, OneLife item.beforeState.completedOn
    item.beforeState.expiresOn item.beforeState.dueOn dated.day

variable {dated : DatedFile} {move : Move}

theorem Sound.bucketsAgree (sound : dated.Sound) : dated.BucketsAgree := by
  intro today after _ pk row present
  obtain ⟨before, there, rfl⟩ := recomputeAllStatuses_row present
  exact (sound.rows pk before there).bucket_recompute after

theorem le_dayAfter (dated : DatedFile) (move : Move) : dated.day ≤ dated.dayAfter move :=
  le_max_left _ _

theorem Sound.written (sound : dated.Sound) (apart : dated.KeepsLivesApart move)
    {request : Request} {work : Work} (transacts : move = .transact request)
    (success : perform request.ambient request.operation dated.file = .ok work) {pk : Pk}
    {row : RequirementInstance}
    (written : Written request.ambient request.operation dated.file pk row) :
    row.InStep (dated.dayAfter move) := by
  have rows : ∀ before, dated.file.requirementInstances pk = some before →
      before.InStep (dated.dayAfter move) := fun before there =>
    (sound.rows pk before there).mono (dated.le_dayAfter move)
  cases written with
  | kept there => exact rows row there
  | completed there definition completedOn notes =>
      refine inStep_of_closed (oneLife_of_undated ?_) ?_
      · intro incomplete
        cases incomplete
      · simp [markComplete]
  | cleared there reportDate =>
      refine inStep_of_closed (oneLife_of_undated ?_) ?_
      · intro incomplete
        cases incomplete
      · simp [clearedRow]
  | notClear there => exact inStep_of_incomplete rfl rfl
  | blocked there outstanding => exact inStep_of_closed (rows _ there).life (by simp)
  | @started before there startable =>
      refine ⟨(rows before there).life, ?_⟩
      intro open_ completed
      obtain notStarted | overdue := startable
      · exact (rows before there).owed (.inl notStarted) completed
      · simp [overdue] at open_
  | waived there reason waivedBy =>
      exact inStep_of_closed (oneLife_of_undated (rows _ there).life.unexpiring)
        (by simp [waivedRow])
  | @reversed before there waived =>
      exact (@inStep_unwaivedRow before _ none (rows before there).life).recompute _
  | @sentBack user position reason item _ sends found covers undone =>
      have listed := List.mem_of_getElem? found
      cases undone with
      | snapshot there =>
          have life := (sound.queue item listed).mono (dated.le_dayAfter move)
          exact (inStep_of_reversal life rfl).recompute _
      | @waiver before restoreDue there kind waived gives =>
          have life := (rows before there).life
          refine InStep.recompute (inStep_unwaivedRow ?_) _
          obtain rfl | rfl := gives
          · exact life
          · refine ⟨life.unexpiring, ?_⟩
            exact apart.reversed request.ambient user position reason work item pk before
              (by rw [transacts, ← sends]) (by rw [← sends]; exact success) found kind covers there
              waived

theorem Sound.rows_step (sound : dated.Sound) (apart : dated.KeepsLivesApart move) {pk : Pk}
    {row : RequirementInstance}
    (present : (dated.step move).file.requirementInstances pk = some row) :
    row.InStep (dated.dayAfter move) := by
  refine @Move.row_induction (·.InStep (dated.dayAfter move)) dated.file pk move ?_ ?_ ?_ ?_ ?_ ?_
    ?_ row present
  · intro row there
    exact (sound.rows pk row there).mono (dated.le_dayAfter move)
  · intro request work row transacts success written
    exact sound.written apart transacts success written
  · intro subject rows definition
    unfold SyncSubject.createdRow
    split <;> exact inStep_of_incomplete rfl rfl
  · intro row reason inStep _
    exact inStep_of_closed (oneLife_of_undated inStep.life.unexpiring) (by simp [holdNotApplicable])
  · rintro definition row rows volunteer rfl activates
    obtain ⟨there, parked⟩ := activates.found
    obtain ⟨dueOn, dueReason, written⟩ :=
      activate_eq move.settings.catalogue rows volunteer definition row
    by_cases incomplete : row.completedOn = none
    · rw [written]
      exact inStep_of_incomplete incomplete
        ((sound.rows _ row there).life.unexpiring incomplete)
    · have done : row.completedOn.isSome = true := Option.isSome_iff_ne_none.mpr incomplete
      have expired := sound.lapsed _ row there (by simp [parked]) (by simp [parked]) done
      have past := apart.switched definition row rows volunteer activates done
      rw [written] at past ⊢
      exact ⟨oneLife_of_expired done (isBefore_mono expired (dated.le_dayAfter move)),
        fun _ _ => past⟩
  · intro _ _ _ row deadline reason inStep incomplete _ _
    exact inStep_of_incomplete incomplete (inStep.life.unexpiring incomplete)
  · intro settings asOf write planned row _ there
    exact ((sound.rows pk row there).mono (dated.le_dayAfter move)).recompute asOf

theorem Sound.queue_step (sound : dated.Sound) {item : ReviewItem}
    (listed : item ∈ (dated.step move).file.reviewItems) :
    OneLife item.beforeState.completedOn item.beforeState.expiresOn item.beforeState.dueOn
      (dated.dayAfter move) := by
  cases Move.after_keeps listed with
  | said there same =>
      rw [← ReviewItem.beforeState_of_said same]
      exact (sound.queue _ there).mono (dated.le_dayAfter move)
  | snapshot covers there kept =>
      have life := (sound.rows _ _ there).life.mono (dated.le_dayAfter move)
      unfold Snapshot.completedOn Snapshot.expiresOn Snapshot.dueOn
      rw [kept]
      exact life
  | nothing blank =>
      unfold Snapshot.completedOn Snapshot.expiresOn Snapshot.dueOn
      rw [blank]
      exact oneLife_of_incomplete none

theorem Sound.step (sound : dated.Sound) (apart : dated.KeepsLivesApart move) :
    (dated.step move).Sound where
  rows := fun _ _ present => sound.rows_step apart present
  lapsed := by
    have lapsed : Lapsed (dated.dayAfter move) dated.file := fun pk row there =>
      (sound.lapsed pk row there).mono (dated.le_dayAfter move)
    exact lapsed_after lapsed (le_max_right _ _)
  queue := fun _ listed => sound.queue_step listed

end DatedFile

/-- In a run whose transactions carry no date from one life of an instance into another, the
overdue column and the status agree after every recompute, whatever the file has come to. -/
theorem buckets_follow_status (volunteer : Volunteer) (day : Date) {moves : List Move}
    (apart : Machine.Guarded DatedFile.step DatedFile.KeepsLivesApart (.opened volunteer day)
      moves) :
    Machine.Always DatedFile.step DatedFile.BucketsAgree (.opened volunteer day) moves := by
  have opened : (DatedFile.opened volunteer day).Sound := by
    refine ⟨?_, ?_, ?_⟩
    · intro pk row present
      cases present
    · intro pk row present
      cases present
    · intro item listed
      cases listed
  exact (Machine.always_of_guarded DatedFile.step DatedFile.KeepsLivesApart DatedFile.Sound
    (fun _ _ sound apart => sound.step apart) opened apart).imp
    fun _ sound => sound.bucketsAgree

/-! ## A training that a role asks for every year -/

namespace Sample

def nurseryTraining : RequirementDefinition :=
  { requirement 3 "Nursery training" 120 with
    cadence := .annual
    appliesTo := .specificRoles
    roles := [1] }

def nurseryTrainingOnly : Catalogue where
  definitions := [nurseryTraining]
  uniquePk := by decide
  uniqueName := by decide
  ordered := by decide

def trainingRoles : Settings := { twoRoles with catalogue := nurseryTrainingOnly }

def training (today : Date) (operation : Operation) : Move :=
  .transact ⟨{ inTwoRoles today with settings := trainingRoles }, operation⟩

def reassigned (today : Date) (operation : Operation) : List Move :=
  [training today operation, .sync trainingRoles today]

def trainedOnce : List Move :=
  [training (january 6) (.markRequirementComplete 3 (january 6) ""),
    .sweep trainingRoles ((january 7).addMonths 12) (.recompute nurseryTraining)
      (by simp [Core.fileSteps, trainingRoles, nurseryTrainingOnly])]

def nextYear : Date := (january 8).addMonths 12

def nurseryAgain (trained : List Move) : List Move :=
  reassigned (january 5) (.assignmentCreate primaryAdmin 1 (january 5)) ++
    reassigned (january 5) (.assignmentCreate primaryAdmin 2 (january 5)) ++ trained ++
    reassigned nextYear (.assignmentEnd primaryAdmin 0 (some nextYear)) ++
    reassigned nextYear (.assignmentCreate primaryAdmin 1 nextYear)

end Sample

theorem resumed_training_parts :
    let resumed := Machine.run DatedFile.step (.opened Sample.adult (Sample.january 5))
      (Sample.nurseryAgain Sample.trainedOnce)
    resumed.day = Sample.nextYear ∧ resumed.file.volunteer.isActive = true ∧
      ((recomputeAllStatuses Sample.nextYear resumed.file).requirementInstances 3).map
        (fun row => (row.status, row.bucket Sample.nextYear)) = some (.notStarted, .overdue) ∧
      ¬Machine.Always DatedFile.step DatedFile.BucketsAgree
        (.opened Sample.adult (Sample.january 5)) (Sample.nurseryAgain Sample.trainedOnce) := by
  intro resumed
  have day : resumed.day = Sample.nextYear := by decide +kernel
  have active : resumed.file.volunteer.isActive = true := by decide +kernel
  have parts : ((recomputeAllStatuses Sample.nextYear resumed.file).requirementInstances 3).map
      (fun row => (row.status, row.bucket Sample.nextYear)) = some (.notStarted, .overdue) := by
    decide +kernel
  refine ⟨day, active, parts, ?_⟩
  intro always
  obtain ⟨row, present, reads⟩ := Option.map_eq_some_iff.mp parts
  have agree := always.run Sample.nextYear (le_of_eq day) active 3 row present
  rw [show row.status = .notStarted from congrArg Prod.fst reads,
    show row.bucket Sample.nextYear = .overdue from congrArg Prod.snd reads] at agree
  simp at agree

theorem Written.there {ambient : Ambient} {operation : Operation} {file : VolunteerFile} {pk : Pk}
    {row : RequirementInstance} (written : Written ambient operation file pk row) :
    ∃ before, file.requirementInstances pk = some before := by
  cases written with
  | sentBack _ _ _ undone => cases undone <;> exact ⟨_, by assumption⟩
  | _ => exact ⟨_, by assumption⟩

theorem synced_absent {settings : Settings} {asOf : Date} {file : VolunteerFile} {pk : Pk}
    (absent : file.requirementInstances pk = none)
    (unlisted : ∀ definition ∈ settings.catalogue.active, definition.pk ≠ pk) :
    (synced settings asOf file).requirementInstances pk = none := by
  obtain same | ⟨definition, listed, visited⟩ := (syncSubject settings asOf file).result_cases pk
  · exact same.trans absent
  · exact absurd visited (unlisted definition listed)

theorem Move.after_absent {file : VolunteerFile} {pk : Pk} {move : Move}
    (absent : file.requirementInstances pk = none)
    (unlisted : ∀ definition ∈ move.settings.catalogue.active, definition.pk ≠ pk) :
    (move.after file).requirementInstances pk = none := by
  cases move with
  | transact request =>
      obtain same | ⟨work, single, success, left⟩ := transact_cases request file
      · rw [same]
        exact absent
      · obtain ⟨between, writes⟩ := perform_writes single success
        have still : between.requirementInstances pk = none := by
          rw [Option.eq_none_iff_forall_ne_some]
          intro row present
          obtain ⟨before, there⟩ := (writes.written pk row present).there
          cases absent.symm.trans there
        rw [left]
        obtain same | same := writes.synced
        · rw [same]
          exact still
        · rw [same]
          exact synced_absent still unlisted
  | sync settings asOf => exact synced_absent absent unlisted
  | sweep settings asOf write planned =>
      rw [Option.eq_none_iff_forall_ne_some]
      intro row present
      obtain there | ⟨_, _, swept⟩ | ⟨_, before, _, there, _⟩ | ⟨before, there, _⟩ :=
        Core.sweepStep_row present
      · cases absent.symm.trans there
      · cases (synced_absent absent unlisted).symm.trans swept
      · cases absent.symm.trans there
      · cases absent.symm.trans there

namespace Sample

/-- A transaction of these roles, where the training is parked only if it was never completed, and
nothing waits for review. -/
def Unreviewed (dated : DatedFile) (move : Move) : Prop :=
  move.settings = trainingRoles ∧
    (dated.file.requirementInstances 3).all
      (fun row => row.status != .notApplicable || row.completedOn.isNone) = true ∧
    dated.file.reviewItems.isEmpty = true

theorem keepsLivesApart_of_unreviewed {dated : DatedFile} {move : Move}
    (only : ∀ pk, pk ≠ 3 → dated.file.requirementInstances pk = none)
    (unreviewed : Unreviewed dated move) : dated.KeepsLivesApart move := by
  obtain ⟨_, free, empty⟩ := unreviewed
  constructor
  · intro definition row rows volunteer activates completed
    obtain ⟨there, parked⟩ := activates.found
    by_cases same : definition.pk = 3
    · rw [same] at there
      have done : row.completedOn ≠ none := Option.isSome_iff_ne_none.mp completed
      simp [there, parked, done] at free
    · cases (only _ same).symm.trans there
  · intro ambient user position reason work item pk before _ _ found
    rw [List.isEmpty_iff.mp empty] at found
    cases found

theorem guarded_of_unreviewed {moves : List Move}
    (unreviewed : Machine.Guarded DatedFile.step Unreviewed (.opened adult (january 5)) moves) :
    Machine.Guarded DatedFile.step DatedFile.KeepsLivesApart (.opened adult (january 5)) moves := by
  refine Machine.guarded_of_guarded DatedFile.step Unreviewed DatedFile.KeepsLivesApart
    (fun dated => ∀ pk, pk ≠ 3 → dated.file.requirementInstances pk = none) ?_ ?_ ?_ unreviewed
  · intro dated move only unreviewed pk other
    refine Move.after_absent (only pk other) ?_
    rw [unreviewed.1]
    intro definition listed
    obtain rfl := List.mem_singleton.mp (show definition ∈ [nurseryTraining] from listed)
    exact Ne.symm other
  · intro dated move only unreviewed
    exact keepsLivesApart_of_unreviewed only unreviewed
  · intro pk _
    rfl

def trainedLater : List Move :=
  nurseryAgain [] ++ [training nextYear (.markRequirementComplete 3 nextYear "")]

end Sample

theorem buckets_follow_later_training :
    Machine.Always DatedFile.step DatedFile.BucketsAgree
      (.opened Sample.adult (Sample.january 5)) Sample.trainedLater := by
  refine buckets_follow_status Sample.adult (Sample.january 5) (Sample.guarded_of_unreviewed ?_)
  refine ⟨⟨rfl, ?_⟩, ⟨rfl, ?_⟩, ⟨rfl, ?_⟩, ⟨rfl, ?_⟩, ⟨rfl, ?_⟩, ⟨rfl, ?_⟩, ⟨rfl, ?_⟩, ⟨rfl, ?_⟩,
    ⟨rfl, ?_⟩, trivial⟩ <;> decide +kernel

end VolunteerScreening
