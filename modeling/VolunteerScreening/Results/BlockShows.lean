import VolunteerScreening.Operations
import VolunteerScreening.Requirements.Showing

/-!
# A screening block shows on the record check

Checks and convictions set the block; syncs move the instance.  The two stay in
step exactly as long as no sync holds up the record check of a blocked
volunteer, and no conviction disqualifies one whose record check is satisfied.
-/

namespace VolunteerScreening

open Calendar Fallible Org Requirements Review

/-- What the office asks of a file that bears on its record check. -/
inductive ScreeningRequest where
  | recordCrc (report : CheckReport)
  | recordConvictions (check : Nat) (entries : List ConvictionEntry)
  | assignmentCreate (user : Core.User) (role : Pk) (startedOn : Date)
  | assignmentEnd (user : Core.User) (assignment : Nat) (endedOn : Option Date)
  | volunteerEdit (user : Core.User) (form : VolunteerForm)
  | volunteerDeactivate (user : Core.User) (stoppedServingOn : Date) (endAssignments : Bool)
  | volunteerReactivate (user : Core.User)
  | recordDiscretionaryOverride (check : Nat) (entry : DecisionEntry)
  | resolveNotClear (check : Nat) (outcome : CRCNotClearOutcome) (notes : String)
  | waiveRequirement (definition : Pk) (reason waivedBy : String)
  | reverseWaiver (definition : Pk) (reason : String)

def ScreeningRequest.operation : ScreeningRequest → Operation
  | .recordCrc report => .recordCrc report
  | .recordConvictions check entries => .recordConvictions check entries
  | .assignmentCreate user role startedOn => .assignmentCreate user role startedOn
  | .assignmentEnd user assignment endedOn => .assignmentEnd user assignment endedOn
  | .volunteerEdit user form => .volunteerEdit user form
  | .volunteerDeactivate user stoppedServingOn endAssignments =>
      .volunteerDeactivate user stoppedServingOn endAssignments
  | .volunteerReactivate user => .volunteerReactivate user
  | .recordDiscretionaryOverride check entry => .recordDiscretionaryOverride check entry
  | .resolveNotClear check outcome notes => .resolveNotClear check outcome notes
  | .waiveRequirement definition reason waivedBy => .waiveRequirement definition reason waivedBy
  | .reverseWaiver definition reason => .reverseWaiver definition reason

/-- The requests that leave the block as it is. -/
def ScreeningRequest.leavesBlock : ScreeningRequest → Bool
  | .recordCrc _ => false
  | .recordConvictions _ _ => false
  | .recordDiscretionaryOverride _ _ => false
  | .resolveNotClear _ _ _ => false
  | _ => true

/-- A request's transaction, or what runs by itself: the resync a save queued for after its
commit, and the three passes of the nightly sweep. -/
inductive ScreeningAction where
  | request (actor : Core.Actor) (today : Date) (now : Nat) (request : ScreeningRequest)
  | resync (asOf : Date)
  | activateTurning18Checks (asOf : Date)
  | recomputeAllStatuses (asOf : Date)

/-- What a transaction commits, before any resync it queued has run. -/
def committed (ambient : Ambient) (operation : Operation) (file : VolunteerFile) :
    Except Refusal VolunteerFile :=
  (perform ambient operation file).map (·.file)

def screeningStep (settings : Settings) (file : VolunteerFile) : ScreeningAction → VolunteerFile
  | .request actor today now request =>
      Machine.attempt (committed ⟨settings, actor, today, now⟩ request.operation) file
  | .resync asOf => synced settings asOf file
  | .activateTurning18Checks asOf =>
      if file.volunteer.isActive then activateTurning18Checks settings asOf file else file
  | .recomputeAllStatuses asOf =>
      if file.volunteer.isActive then recomputeAllStatuses asOf file else file

theorem step_eq_screening (ambient : Ambient) (request : ScreeningRequest)
    (file : VolunteerFile) :
    ∃ resyncs, step file ⟨ambient, request.operation⟩ =
      Machine.run (screeningStep ambient.settings) file
        (.request ambient.actor ambient.today ambient.now request ::
          List.replicate resyncs (.resync ambient.today)) := by
  have resynced : ∀ (resyncs : Nat) (middle : VolunteerFile),
      (Work.mk middle resyncs).commit ambient =
        Machine.run (screeningStep ambient.settings) middle
          (List.replicate resyncs (.resync ambient.today)) := by
    intro resyncs
    induction resyncs with
    | zero => intro middle; rfl
    | succ resyncs inductionHypothesis =>
        intro middle
        rw [Work.commit_succ, inductionHypothesis]
        rfl
  rcases step_cases file ⟨ambient, request.operation⟩ with
    ⟨⟨refusal, refused⟩, unchanged⟩ | ⟨work, success, written⟩
  · refine ⟨0, unchanged.trans (Eq.symm ?_)⟩
    refine @Machine.attempt_error _ _ _ _ refusal ?_
    unfold committed
    exact congrArg _ refused
  · refine ⟨work.resyncs, ?_⟩
    have first : screeningStep ambient.settings file
        (.request ambient.actor ambient.today ambient.now request) = work.file := by
      refine Machine.attempt_ok ?_
      unfold committed
      exact congrArg _ success
    rw [written, Machine.run_cons, first]
    exact resynced work.resyncs work.file

theorem sweep_eq_screening (settings : Settings) (asOf : Date) (file : VolunteerFile)
    (active : file.volunteer.isActive = true) :
    sweepVolunteer settings asOf file =
      Machine.run (screeningStep settings) file
        [.resync asOf, .activateTurning18Checks asOf, .recomputeAllStatuses asOf] := by
  unfold sweepVolunteer
  rw [if_pos active]
  have stillActive : (synced settings asOf file).volunteer.isActive = true := active
  have stillActiveThen : (activateTurning18Checks settings asOf
      (synced settings asOf file)).volunteer.isActive = true := active
  simp only [Machine.run_cons, Machine.run_nil, screeningStep, stillActive, stillActiveThen,
    if_true]

/-! ## The law -/

namespace VolunteerFile

def IsScreened (blocks : List ScreeningBlock) (file : VolunteerFile) : Prop :=
  file.volunteer.screeningBlock ∈ blocks

/-- A block of these shows on the record check, if the volunteer has one. -/
def BlockShows (blocks : List ScreeningBlock) (settings : Settings) (file : VolunteerFile) :
    Prop :=
  file.IsScreened blocks → CheckShows settings file

/-- While the block stands, no date can settle the record check. -/
def StaysBlocked (blocks : List ScreeningBlock) (settings : Settings) (file : VolunteerFile) :
    Prop :=
  file.IsScreened blocks → Undated settings file

def assignmentEnded (file : VolunteerFile) (assignment : RoleAssignment) (position : Nat)
    (endedOn : Date) : VolunteerFile :=
  (deactivateIfUnassigned endedOn
    ⟨{ file with assignments := file.assignments.set position (assignment.finish endedOn) },
      1⟩).file

end VolunteerFile

open VolunteerFile

/-- The blocks that a record check brings. -/
def crcBlocks : List ScreeningBlock := [.crcNotClear, .disqualified]

/-- Where a request keeps the block showing: the sync it runs does not hold up the record check of
a blocked volunteer, and a conviction disqualifies no one whose record check is satisfied. -/
def RequestKeeps (blocks : List ScreeningBlock) (ambient : Ambient) (file : VolunteerFile) :
    ScreeningRequest → Prop
  | .recordCrc report =>
      ∀ pk row, report.result = .notClear → crcInstanceFor ambient.settings file = some pk →
        file.requirementInstances pk = some row → hasDependents ambient.settings pk = true →
        ¬HeldUp ambient.settings ambient.today (file.saveInstance pk (notClearRow row))
  | .recordConvictions _ entries =>
      entries.any (·.isAutomaticDisqualifier) = true → CheckShows ambient.settings file
  | .assignmentCreate _ role startedOn =>
      file.IsScreened blocks → ¬HeldUp ambient.settings ambient.today { file with
        assignments := file.assignments ++ [⟨role, startedOn, none, true⟩] }
  | .assignmentEnd _ position endedOn =>
      ∀ assignment, file.assignments[position]? = some assignment → file.IsScreened blocks →
        ¬HeldUp ambient.settings ambient.today
          (file.assignmentEnded assignment position (endedOn.getD ambient.today))
  | .volunteerEdit _ _ => True
  | .volunteerDeactivate _ _ _ => True
  | .volunteerReactivate _ => True
  | .recordDiscretionaryOverride _ _ => True
  | .resolveNotClear _ _ _ => True
  | .waiveRequirement pk reason waivedBy =>
      ∀ row, file.requirementInstances pk = some row → file.IsScreened blocks →
        hasDependents ambient.settings pk = true →
        ¬HeldUp ambient.settings ambient.today
          (file.saveInstance pk (waivedRow row reason waivedBy ambient.today))
  | .reverseWaiver pk _ =>
      ∀ row, file.requirementInstances pk = some row → file.IsScreened blocks →
        hasDependents ambient.settings pk = true →
        ¬HeldUp ambient.settings ambient.today
          (file.saveInstance pk ((unwaivedRow row none).recompute ambient.today))

def KeepsShowing (blocks : List ScreeningBlock) (settings : Settings) (file : VolunteerFile) :
    ScreeningAction → Prop
  | .request actor today now request =>
      ∀ work, perform ⟨settings, actor, today, now⟩ request.operation file = .ok work →
        RequestKeeps blocks ⟨settings, actor, today, now⟩ file request
  | .resync asOf => file.IsScreened blocks → ¬HeldUp settings asOf file
  | .activateTurning18Checks _ => True
  | .recomputeAllStatuses _ => True

/-- What a step that shows the block exactly under a condition leaves. -/
structure Decides (blocks : List ScreeningBlock) (settings : Settings) (condition : Prop)
    (after : VolunteerFile) : Prop where
  shows : BlockShows blocks settings after ↔ condition
  stays : BlockShows blocks settings after → StaysBlocked blocks settings after

theorem Decides.of_only {Row : Type} {blocks : List ScreeningBlock} {settings : Settings}
    {condition : Row → Prop}
    {after : VolunteerFile} {found : Option Row} {row : Row}
    (decides : Decides blocks settings (condition row) after) (present : found = some row) :
    Decides blocks settings (∀ other, found = some other → condition other) after := by
  refine ⟨decides.shows.trans ⟨?_, ?_⟩, decides.stays⟩
  · intro holds other presentOther
    obtain rfl := Option.some.inj (present.symm.trans presentOther)
    exact holds
  · intro holds
    exact holds row present

section Steps

variable {blocks : List ScreeningBlock} {settings : Settings} {asOf : Date}
  {file after : VolunteerFile}

theorem decides_of_same (shows : BlockShows blocks settings file)
    (stays : StaysBlocked blocks settings file)
    (rows : after.requirementInstances = file.requirementInstances)
    (block : after.volunteer.screeningBlock = file.volunteer.screeningBlock) :
    Decides blocks settings True after := by
  have screened : after.IsScreened blocks → file.IsScreened blocks := by
    unfold IsScreened
    rw [block]
    exact id
  refine ⟨iff_of_true ?_ trivial, fun _ => ?_⟩
  · intro now
    exact (checkShows_congr rows).mpr (shows (screened now))
  · intro now
    exact (undated_congr rows).mpr (stays (screened now))

theorem decides_of_unscreened {condition : Prop} (free : ¬after.IsScreened blocks)
    (holds : condition) : Decides blocks settings condition after :=
  ⟨iff_of_true (fun screened => absurd screened free) holds, fun _ screened => absurd screened free⟩

theorem decides_synced (shows : BlockShows blocks settings file)
    (stays : StaysBlocked blocks settings file) :
    Decides blocks settings (file.IsScreened blocks → ¬HeldUp settings asOf file)
      (synced settings asOf file) := by
  refine ⟨⟨?_, ?_⟩, ?_⟩
  · intro stillShows screened
    exact (checkShows_synced_iff (shows screened)).mp (stillShows screened)
  · intro free screened
    exact (checkShows_synced_iff (shows screened)).mpr (free screened)
  · intro stillShows screened
    exact undated_synced (stays screened) (stillShows screened)

variable {ambient : Ambient} {work : Work}

/-- A Not Clear check shows unless refreshing what hangs on it holds it up; a cleared one leaves
no block, where the volunteer had not withdrawn. -/
theorem recordCrc_decides {report : CheckReport} (unblocked : ScreeningBlock.none ∉ blocks)
    (blocking : ScreeningBlock.crcNotClear ∈ blocks)
    (present : report.result = .cleared → file.volunteer.screeningBlock ∈ blocks →
      file.volunteer.screeningBlock ≠ .withdrawn)
    (success : recordCrc ambient report file = .ok work) :
    Decides blocks ambient.settings
      (∀ pk row, report.result = .notClear → crcInstanceFor ambient.settings file = some pk →
        file.requirementInstances pk = some row → hasDependents ambient.settings pk = true →
        ¬HeldUp ambient.settings ambient.today (file.saveInstance pk (notClearRow row)))
      work.file := by
  obtain ⟨rows, notClears, clears⟩ := recordCrc_block success
  cases result : report.result with
  | cleared =>
      refine decides_of_unscreened ?_ (fun _ _ impossible => nomatch impossible)
      unfold IsScreened
      rcases clears result with lifted | ⟨same, notBlocked, free⟩
      · rw [lifted]
        exact unblocked
      · rw [same]
        intro screened
        have stays := present result screened
        cases block : file.volunteer.screeningBlock with
        | none => exact unblocked (block ▸ screened)
        | crcNotClear => exact notBlocked block
        | disqualified => exact free block
        | withdrawn => exact stays block
  | notClear =>
      have screened : work.file.IsScreened blocks := by
        unfold IsScreened
        rw [notClears result]
        exact blocking
      obtain ⟨shown, undated⟩ := @checkWritten_shows file ambient report result
      rw [← checkShows_congr rows] at shown undated
      rw [← undated_congr rows] at undated
      refine ⟨⟨?_, ?_⟩, ?_⟩
      · intro shows pk row _
        exact shown.mp (shows screened) pk row
      · intro each _
        exact shown.mpr fun pk row => each pk row rfl
      · intro shows _
        exact undated (shows screened)

theorem recordConvictions_decides {check : Nat} {entries : List ConvictionEntry}
    (blocking : ScreeningBlock.disqualified ∈ blocks)
    (shows : BlockShows blocks ambient.settings file)
    (stays : StaysBlocked blocks ambient.settings file)
    (success : recordConvictions ambient check entries file = .ok work) :
    Decides blocks ambient.settings
      (entries.any (·.isAutomaticDisqualifier) = true → CheckShows ambient.settings file)
      work.file := by
  obtain ⟨created, items, alike, _, rfl⟩ := recordConvictions_ok success
  unfold convictionsWritten
  by_cases disqualifies : created.any (·.isAutomaticDisqualifier) = true
  · simp only [if_pos disqualifies]
    have screened : VolunteerFile.IsScreened blocks { (applyPermanentDisqualification ambient
        (Work.start { file with convictions := file.convictions ++ created })).file with
          reviewItems := items } := by
      show (applyPermanentDisqualification ambient (Work.start { file with
        convictions := file.convictions ++ created })).file.volunteer.screeningBlock ∈ blocks
      rw [applyPermanentDisqualification_block]
      exact blocking
    obtain ⟨shown, undated⟩ := @checkShows_blockOutstanding ambient.settings file
      { (applyPermanentDisqualification ambient
        (Work.start { file with convictions := file.convictions ++ created })).file with
          reviewItems := items } rfl
    refine ⟨⟨?_, ?_⟩, ?_⟩
    · intro showsAfter _
      exact shown.mp (showsAfter screened)
    · intro showed _
      exact shown.mpr (showed (alike.symm.trans disqualifies))
    · intro showsAfter _
      exact undated (showsAfter screened)
  · simp only [if_neg disqualifies]
    have decides : Decides blocks ambient.settings True
        { file with convictions := file.convictions ++ created, reviewItems := items } :=
      decides_of_same shows stays rfl rfl
    refine ⟨⟨?_, fun _ => decides.shows.mpr trivial⟩, decides.stays⟩
    intro _ automatic
    exact absurd (alike.trans automatic) disqualifies

theorem assignmentCreate_decides {user : Core.User} {role : Pk} {startedOn : Date}
    (shows : BlockShows blocks ambient.settings file)
    (stays : StaysBlocked blocks ambient.settings file)
    (success : assignmentCreate ambient user role startedOn file = .ok work) :
    Decides blocks ambient.settings
      (file.IsScreened blocks → ¬HeldUp ambient.settings ambient.today { file with
        assignments := file.assignments ++ [⟨role, startedOn, none, true⟩] })
      work.file := by
  obtain ⟨_, _, _, rfl⟩ := assignmentCreate_ok success
  have placed : BlockShows blocks ambient.settings { file with
      assignments := file.assignments ++ [⟨role, startedOn, none, true⟩] } := shows
  exact decides_synced placed stays

theorem assignmentEnd_decides {user : Core.User} {position : Nat} {endedOn : Option Date}
    (shows : BlockShows blocks ambient.settings file)
    (stays : StaysBlocked blocks ambient.settings file)
    (success : assignmentEnd ambient user position endedOn file = .ok work) :
    ∃ assignment, file.assignments[position]? = some assignment ∧
      Decides blocks ambient.settings
        (file.IsScreened blocks → ¬HeldUp ambient.settings ambient.today
          (file.assignmentEnded assignment position (endedOn.getD ambient.today)))
        work.file := by
  obtain ⟨assignment, fetched, _, rfl⟩ := assignmentEnd_ok success
  refine ⟨assignment, (fetchAssignment_eq_ok_iff.mp fetched).1, ?_⟩
  · have rows : (file.assignmentEnded assignment position
          (endedOn.getD ambient.today)).requirementInstances = file.requirementInstances := by
      unfold assignmentEnded deactivateIfUnassigned
      split <;> rfl
    have block : (file.assignmentEnded assignment position
          (endedOn.getD ambient.today)).volunteer.screeningBlock =
        file.volunteer.screeningBlock := by
      unfold assignmentEnded deactivateIfUnassigned
      split
      · exact Volunteer.deriveBirth_screeningBlock _
      · rfl
    have ended := decides_of_same shows stays rows block
    have showsEnded := ended.shows.mpr trivial
    have decides := @decides_synced blocks ambient.settings ambient.today _ showsEnded
      (ended.stays showsEnded)
    have screened : (file.assignmentEnded assignment position
        (endedOn.getD ambient.today)).IsScreened blocks ↔ file.IsScreened blocks := by
      unfold IsScreened
      rw [block]
    rw [screened] at decides
    exact decides

/-- Saving the volunteer's own row for anything but the block decides nothing. -/
theorem volunteerEdit_decides {user : Core.User} {form : VolunteerForm}
    (shows : BlockShows blocks ambient.settings file)
    (stays : StaysBlocked blocks ambient.settings file)
    (success : volunteerEdit ambient user form file = .ok work) :
    Decides blocks ambient.settings True work.file := by
  obtain ⟨_, _, _, rfl⟩ := volunteerEdit_ok success
  exact decides_of_same shows stays rfl (Volunteer.deriveBirth_screeningBlock _)

theorem volunteerDeactivate_decides {user : Core.User} {stoppedServingOn : Date}
    {endAssignments : Bool} (shows : BlockShows blocks ambient.settings file)
    (stays : StaysBlocked blocks ambient.settings file)
    (success : volunteerDeactivate ambient user stoppedServingOn endAssignments file =
      .ok work) : Decides blocks ambient.settings True work.file := by
  obtain ⟨_, _, _, _, rfl, rfl⟩ := volunteerDeactivate_ok success
  split <;> exact decides_of_same shows stays rfl (Volunteer.deriveBirth_screeningBlock _)

theorem volunteerReactivate_decides {user : Core.User}
    (shows : BlockShows blocks ambient.settings file)
    (stays : StaysBlocked blocks ambient.settings file)
    (success : volunteerReactivate ambient user file = .ok work) :
    Decides blocks ambient.settings True work.file := by
  obtain ⟨_, _, rfl⟩ := volunteerReactivate_ok success
  exact decides_of_same shows stays rfl (Volunteer.deriveBirth_screeningBlock _)

/-- A leadership decision leaves a volunteer without a block from a check. -/
theorem recordDiscretionaryOverride_decides {check : Nat} {entry : DecisionEntry}
    (success : recordDiscretionaryOverride ambient check entry file = .ok work) :
    Decides crcBlocks ambient.settings True work.file := by
  obtain ⟨free, written, items, decided, _, rfl⟩ := recordDiscretionaryOverride_ok success
  refine decides_of_unscreened ?_ trivial
  show written.file.volunteer.screeningBlock ∉ crcBlocks
  obtain withdrawn | ⟨_, rfl⟩ | ⟨notBlocked, rfl⟩ := applyDecision_ok decided
  · rw [(withdraw_block withdrawn).1]
    decide
  · rw [Work.saveVolunteer_screeningBlock]
    show ScreeningBlock.none ∉ crcBlocks
    decide
  · simp only [crcBlocks, List.mem_cons, List.not_mem_nil, or_false, not_or]
    exact ⟨notBlocked, free⟩

theorem resolveNotClear_decides {check : Nat} {outcome : CRCNotClearOutcome} {notes : String}
    (shows : BlockShows crcBlocks ambient.settings file)
    (stays : StaysBlocked crcBlocks ambient.settings file)
    (success : resolveNotClear ambient check outcome notes file = .ok work) :
    Decides crcBlocks ambient.settings True work.file := by
  obtain ⟨_, _, withdrawn | rfl⟩ := resolveNotClear_ok success
  · refine decides_of_unscreened ?_ trivial
    unfold IsScreened
    rw [(withdraw_block withdrawn).1]
    decide
  · exact decides_of_same shows stays rfl rfl

/-- Writing an instance that does not count decides by the refresh that follows, whatever happens
to the queue. -/
theorem refreshed_decides {pk : Pk} {row : RequirementInstance} {items : List ReviewItem}
    (shows : BlockShows blocks settings file) (stays : StaysBlocked blocks settings file)
    (present : (file.requirementInstances pk).isSome = true)
    (uncounted : file.IsScreened blocks → crcInstanceFor settings file ≠ some pk) :
    Decides blocks settings
      (file.IsScreened blocks → hasDependents settings pk = true →
        ¬HeldUp settings asOf (file.saveInstance pk row))
      (refreshDependents settings asOf pk
        { file.saveInstance pk row with reviewItems := items }) := by
  have showsSaved : BlockShows blocks settings (file.saveInstance pk row) := fun screened =>
    (checkShows_saveInstance_other present (uncounted screened)).1.mpr (shows screened)
  have staysSaved : StaysBlocked blocks settings (file.saveInstance pk row) := fun screened =>
    (checkShows_saveInstance_other present (uncounted screened)).2.mpr (stays screened)
  have queued := @decides_of_same blocks settings _
    { file.saveInstance pk row with reviewItems := items }
    showsSaved staysSaved rfl rfl
  have showsQueued := queued.shows.mpr trivial
  unfold refreshDependents
  by_cases hangs : hasDependents settings pk = true
  · rw [if_pos hangs]
    obtain ⟨decides, kept⟩ :=
      @decides_synced blocks settings asOf _ showsQueued (queued.stays showsQueued)
    refine ⟨decides.trans ⟨?_, ?_⟩, kept⟩
    · intro free screened _
      exact free screened
    · intro free screened
      exact free screened hangs
  · rw [if_neg hangs]
    refine ⟨iff_of_true showsQueued ?_, queued.stays⟩
    intro _ hangsThere
    exact absurd hangsThere hangs

theorem waiveRequirement_decides {pk : Pk} {reason waivedBy : String} {after : VolunteerFile}
    (shows : BlockShows blocks ambient.settings file)
    (stays : StaysBlocked blocks ambient.settings file)
    (success : waiveRequirement ambient pk reason waivedBy file = .ok after) :
    ∃ row, file.requirementInstances pk = some row ∧
      Decides blocks ambient.settings
        (file.IsScreened blocks → hasDependents ambient.settings pk = true →
          ¬HeldUp ambient.settings ambient.today
            (file.saveInstance pk (waivedRow row reason waivedBy ambient.today)))
        after := by
  obtain ⟨definition, row, listed, present, notCrc, rfl⟩ := waiveRequirement_ok success
  refine ⟨row, present, refreshed_decides shows stays (by rw [present]; rfl) fun _ counts => ?_⟩
  obtain ⟨counted, inForce, rfl, isCrc, _⟩ := crcInstanceFor_some counts
  have found := ambient.settings.catalogue.get_of_mem
    (ambient.settings.catalogue.mem_active.mp inForce).1
  obtain rfl := Option.some.inj (found.symm.trans listed)
  rw [isCrc] at notCrc
  cases notCrc

theorem reverseWaiver_decides {pk : Pk} {reason : String} {after : VolunteerFile}
    (shows : BlockShows blocks ambient.settings file)
    (stays : StaysBlocked blocks ambient.settings file)
    (success : reverseWaiver ambient pk reason none file = .ok after) :
    ∃ row, file.requirementInstances pk = some row ∧
      Decides blocks ambient.settings
        (file.IsScreened blocks → hasDependents ambient.settings pk = true →
          ¬HeldUp ambient.settings ambient.today
            (file.saveInstance pk ((unwaivedRow row none).recompute ambient.today)))
        after := by
  obtain ⟨row, present, waived, rfl⟩ := reverseWaiver_ok success
  have decides := @refreshed_decides blocks ambient.settings ambient.today file pk
    ((unwaivedRow row none).recompute ambient.today) file.reviewItems shows stays
    (by rw [present]; rfl)
  refine ⟨row, present, decides fun screened counts => ?_⟩
  have owed := shows screened pk row counts present
  rw [waived] at owed
  exact owed (by decide)

theorem nightly_decides {passed : VolunteerFile} (shows : BlockShows blocks settings file)
    (stays : StaysBlocked blocks settings file)
    (block : passed.volunteer.screeningBlock = file.volunteer.screeningBlock)
    (pass : CheckShows settings file → Undated settings file →
      CheckShows settings passed ∧ Undated settings passed) :
    Decides blocks settings True passed := by
  have screened : passed.IsScreened blocks → file.IsScreened blocks := by
    unfold IsScreened
    rw [block]
    exact id
  have kept :
      ∀ now : passed.IsScreened blocks, CheckShows settings passed ∧ Undated settings passed :=
    fun now => pass (shows (screened now)) (stays (screened now))
  exact ⟨iff_of_true (fun now => (kept now).1) trivial, fun _ now => (kept now).2⟩

theorem decides_of_leavesBlock {request : ScreeningRequest}
    (leaves : request.leavesBlock = true) (shows : BlockShows blocks ambient.settings file)
    (stays : StaysBlocked blocks ambient.settings file)
    (success : perform ambient request.operation file = .ok work) :
    Decides blocks ambient.settings (RequestKeeps blocks ambient file request) work.file := by
  cases request with
  | recordCrc => cases leaves
  | recordConvictions => cases leaves
  | recordDiscretionaryOverride => cases leaves
  | resolveNotClear => cases leaves
  | assignmentCreate => exact assignmentCreate_decides shows stays success
  | assignmentEnd user position endedOn =>
      obtain ⟨assignment, found, decides⟩ := assignmentEnd_decides shows stays success
      exact decides.of_only found
  | volunteerEdit => exact volunteerEdit_decides shows stays success
  | volunteerDeactivate => exact volunteerDeactivate_decides shows stays success
  | volunteerReactivate => exact volunteerReactivate_decides shows stays success
  | waiveRequirement pk reason waivedBy =>
      obtain ⟨_, written, rfl⟩ := map_eq_ok_iff.mp success
      obtain ⟨row, present, decides⟩ := waiveRequirement_decides shows stays written
      exact decides.of_only present
  | reverseWaiver pk reason =>
      obtain ⟨_, written, rfl⟩ := map_eq_ok_iff.mp success
      obtain ⟨row, present, decides⟩ := reverseWaiver_decides shows stays written
      exact decides.of_only present

theorem request_decides {request : ScreeningRequest}
    (shows : BlockShows crcBlocks ambient.settings file)
    (stays : StaysBlocked crcBlocks ambient.settings file)
    (success : perform ambient request.operation file = .ok work) :
    Decides crcBlocks ambient.settings (RequestKeeps crcBlocks ambient file request) work.file := by
  by_cases leaves : request.leavesBlock = true
  · exact decides_of_leavesBlock leaves shows stays success
  · cases request with
    | recordCrc =>
        refine recordCrc_decides (by decide) (by decide) (fun _ screened withdrawn => ?_) success
        rw [withdrawn] at screened
        exact absurd screened (by decide)
    | recordConvictions => exact recordConvictions_decides (by decide) shows stays success
    | recordDiscretionaryOverride => exact recordDiscretionaryOverride_decides success
    | resolveNotClear => exact resolveNotClear_decides shows stays success
    | _ => exact absurd rfl leaves

theorem screeningStep_decides (shows : BlockShows crcBlocks settings file)
    (stays : StaysBlocked crcBlocks settings file) (action : ScreeningAction) :
    Decides crcBlocks settings (KeepsShowing crcBlocks settings file action)
      (screeningStep settings file action) := by
  have same := decides_of_same shows stays rfl rfl
  cases action with
  | request actor today now request =>
      cases performed : perform ⟨settings, actor, today, now⟩ request.operation file with
      | error refusal =>
          have unchanged : screeningStep settings file (.request actor today now request) =
              file := by
            apply Machine.attempt_error
            unfold committed
            rw [performed]
            rfl
          rw [unchanged]
          refine ⟨iff_of_true shows ?_, fun _ => stays⟩
          intro work success
          cases performed.symm.trans success
      | ok work =>
          have written : screeningStep settings file (.request actor today now request) =
              work.file := by
            apply Machine.attempt_ok
            unfold committed
            rw [performed]
            rfl
          have decides := @request_decides file ⟨settings, actor, today, now⟩ work request shows
            stays performed
          rw [written]
          refine ⟨decides.shows.trans ⟨fun keeps _ _ => keeps, ?_⟩, decides.stays⟩
          intro keeps
          exact keeps work performed
  | resync asOf => exact decides_synced shows stays
  | activateTurning18Checks asOf =>
      show Decides crcBlocks settings True
        (if file.volunteer.isActive then activateTurning18Checks settings asOf file else file)
      split
      · exact nightly_decides shows stays rfl activateTurning18Checks_shows
      · exact same
  | recomputeAllStatuses asOf =>
      show Decides crcBlocks settings True
        (if file.volunteer.isActive then recomputeAllStatuses asOf file else file)
      split
      · exact nightly_decides shows stays rfl recomputeAllStatuses_shows
      · exact same

end Steps

/-- In every state of a run each block shows on the record check exactly when every step keeps
it showing. -/
theorem block_shows_iff (settings : Settings) (volunteers : List Volunteer)
    (actions : List (Nat × ScreeningAction)) :
    Machine.Always (Machine.stepAt (screeningStep settings))
        (Machine.Each (BlockShows crcBlocks settings))
        (newChurch volunteers) actions ↔
      Machine.Guarded (Machine.stepAt (screeningStep settings))
        (Machine.guardAt (KeepsShowing crcBlocks settings)) (newChurch volunteers) actions := by
  have uncounted : ∀ (component : Nat) (file : VolunteerFile),
      (newChurch volunteers)[component]? = some file → ∀ pk row,
        file.requirementInstances pk ≠ some row := by
    intro component file found pk row present
    simp only [newChurch, List.getElem?_map, Option.map_eq_some_iff] at found
    obtain ⟨volunteer, _, rfl⟩ := found
    cases present
  refine Machine.always_each_iff_guarded (screeningStep settings) (KeepsShowing crcBlocks settings)
    (StaysBlocked crcBlocks settings) (BlockShows crcBlocks settings) ?_ ?_ ?_ ?_ actions
  · intro file action stays shows stillShows
    exact (screeningStep_decides shows stays action).stays stillShows
  · intro file action stays shows
    exact (screeningStep_decides shows stays action).shows
  · intro component file found _ pk row _ present
    exact absurd present (uncounted component file found pk row)
  · intro component file found _ pk row _ present
    exact absurd present (uncounted component file found pk row)

/-- A serving volunteer's check comes back Not Clear and a conviction disqualifies them; then the
resyncs run that the ended assignment and the saved block queued. -/
def hidingRun : List (Nat × ScreeningAction) :=
  let today := Sample.march 0
  let admin : Core.Actor := ⟨some 1, "Primary Admin", false, false, []⟩
  [(0, .request admin today 0 (.assignmentCreate Sample.primaryAdmin 1 today)),
    (0, .resync today),
    (0, .request admin today 0
      (.recordCrc ⟨.notClear, Sample.february 0, true, false, "", ""⟩)),
    (0, .resync today),
    (0, .request admin today 0 (.recordConvictions 0 [⟨"Abduction", true, "", none, ""⟩])),
    (0, .resync today),
    (0, .resync today)]

/-- The record check of the disqualified volunteer then reads not applicable. -/
theorem disqualification_hidden :
    ∃ file row,
      (Machine.run (Machine.stepAt (screeningStep (Sample.settings Sample.recordCheckOnly)))
        (newChurch [Sample.adult]) hidingRun)[0]? = some file ∧
      file.volunteer.screeningBlock = .disqualified ∧
      crcInstanceFor (Sample.settings Sample.recordCheckOnly) file = some 9 ∧
      file.requirementInstances 9 = some row ∧ row.status = .notApplicable ∧
      ¬BlockShows crcBlocks (Sample.settings Sample.recordCheckOnly) file := by
  refine ⟨_, _, rfl, rfl, rfl, rfl, rfl, ?_⟩
  intro shows
  exact shows (List.mem_of_elem_eq_true rfl) 9 _ rfl rfl (by decide)

end VolunteerScreening
