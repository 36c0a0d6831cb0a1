import VolunteerScreening.Reporting.Compliance
import VolunteerScreening.Results.BlockShows

/-!
# Blocked volunteers on the compliance report

The report's verdict is counted from the instances it looks at, so it keeps a
blocked volunteer off the compliant list exactly when one of those is owed.  A
report that looks at record checks does so throughout every run that leaves the
record check of each blocked volunteer owing.
-/

namespace VolunteerScreening

open Calendar Fallible Org Requirements Review Reporting VolunteerFile

/-- The compliant list holds no blocked volunteer, and the labels agree with the verdicts. -/
structure TellsBlockedApart (today : Date) (report : ComplianceReport) : Prop where
  unblocked : ∀ row ∈ report.compliant,
    row.volunteer.screeningBlock ∉ ScreeningBlock.blockingValues
  labelled : ∀ row ∈ report.rows,
    (row.statusLabel today = "Compliant" ∨ row.statusLabel today = "Coming due") ↔
      row.isCompliant today = true

/-- Every blocked volunteer on the report owes something that the report looks at. -/
def BlockedOwe (settings : Settings) (today : Date) (query : ReportQuery)
    (files : List VolunteerFile) : Prop :=
  ∀ file ∈ files, query.shows settings file = true → file.volunteer.screeningBlock ≠ .none →
    ∃ definition ∈ settings.catalogue.definitions, ∃ row, query.covers definition = true ∧
      file.requirementInstances definition.pk = some row ∧ Owes today row

theorem mem_blockingValues_iff {block : ScreeningBlock} :
    block ∈ ScreeningBlock.blockingValues ↔ block ≠ .none := by
  cases block <;> decide

theorem tellsBlockedApart_iff {settings : Settings} {today : Date} {query : ReportQuery}
    {files : List VolunteerFile} :
    TellsBlockedApart today (buildComplianceReport settings today query files) ↔
      BlockedOwe settings today query files := by
  have listed : ∀ row, row ∈ (buildComplianceReport settings today query files).rows ↔
      ∃ file ∈ files, query.shows settings file = true ∧ query.row settings file = row := by
    intro row
    refine List.mem_map.trans ?_
    simp only [ReportQuery.mem_shown, and_assoc]
  have verdict : ∀ file, (query.row settings file).isCompliant today = true ↔
      ¬∃ definition ∈ settings.catalogue.definitions, ∃ row, query.covers definition = true ∧
        file.requirementInstances definition.pk = some row ∧ Owes today row := by
    intro file
    rw [VolunteerRow.isCompliant_iff]
    constructor
    · rintro none_ ⟨definition, inCatalogue, row, covered, present, owed⟩
      exact none_ (definition, row) (ReportQuery.mem_instances.mpr
        ⟨inCatalogue, covered, present⟩) owed
    · intro none_ entry inRow owed
      obtain ⟨inCatalogue, covered, present⟩ := ReportQuery.mem_instances.mp inRow
      exact none_ ⟨entry.1, inCatalogue, entry.2, covered, present, owed⟩
  constructor
  · intro apart file inChurch shown blocked
    by_contra nothing
    have compliant := (verdict file).mpr nothing
    have label := (apart.labelled _ ((listed _).mpr ⟨file, inChurch, shown, rfl⟩)).mpr compliant
    exact blocked (VolunteerRow.statusLabel_iff.mp label).1
  · intro owe
    have free : ∀ row, row ∈ (buildComplianceReport settings today query files).rows →
        row.isCompliant today = true → row.volunteer.screeningBlock = .none := by
      intro row inRows compliant
      obtain ⟨file, inChurch, shown, rfl⟩ := (listed row).mp inRows
      by_contra blocked
      exact (verdict file).mp compliant (owe file inChurch shown blocked)
    refine ⟨?_, ?_⟩
    · intro row inCompliant
      obtain ⟨inRows, compliant⟩ := List.mem_filter.mp inCompliant
      rw [mem_blockingValues_iff, not_not]
      exact free row inRows compliant
    · intro row inRows
      rw [VolunteerRow.statusLabel_iff]
      exact ⟨And.right, fun compliant => ⟨free row inRows compliant, compliant⟩⟩

/-! ## Runs that leave the record check of each blocked volunteer owing -/

/-- The volunteer has a record check that shows and that no date can settle. -/
structure CheckOwed (settings : Settings) (file : VolunteerFile) : Prop where
  counts : (crcInstanceFor settings file).isSome = true
  shows : CheckShows settings file
  undated : Undated settings file

/-- A blocked volunteer owes a record check. -/
def Owing (settings : Settings) (file : VolunteerFile) : Prop :=
  file.volunteer.screeningBlock ≠ .none → CheckOwed settings file

/-- A report that looks at record checks: unfiltered, or filtered to just these. -/
def LooksAtChecks (query : ReportQuery) : Prop :=
  query.requirementType = none ∨ query.requirementType = some .criminalRecordCheck

theorem blockedOwe_of_owing {settings : Settings} {files : List VolunteerFile}
    (owing : ∀ file ∈ files, Owing settings file) (today : Date) {query : ReportQuery}
    (looks : LooksAtChecks query) : BlockedOwe settings today query files := by
  intro file inChurch _ blocked
  obtain ⟨counts, shows, _⟩ := owing file inChurch blocked
  obtain ⟨pk, counts⟩ := Option.isSome_iff_exists.mp counts
  obtain ⟨definition, inForce, rfl, isCrc, had⟩ := crcInstanceFor_some counts
  obtain ⟨row, present⟩ := Option.isSome_iff_exists.mp had
  obtain ⟨inCatalogue, isActive⟩ := settings.catalogue.mem_active.mp inForce
  have covered : query.covers definition = true := by
    unfold RequirementDefinition.isCrc at isCrc
    unfold ReportQuery.covers
    rcases looks with unfiltered | filtered
    · simp [isActive, unfiltered]
    · simpa [isActive, filtered] using isCrc
  have owed := (RequirementStatus.isOutstanding_iff _).mpr (shows _ row counts present)
  refine ⟨definition, inCatalogue, row, covered, present, .inl ?_⟩
  simpa [RequirementStatus.isOutstanding] using owed

def KeepsInstances (before after : VolunteerFile) : Prop :=
  ∀ pk, (before.requirementInstances pk).isSome = true →
    (after.requirementInstances pk).isSome = true

namespace KeepsInstances

variable {before middle after : VolunteerFile} {settings : Settings}

theorem of_same (rows : after.requirementInstances = before.requirementInstances) :
    KeepsInstances before after := fun _ had => by rwa [rows]

theorem trans (first : KeepsInstances before middle) (second : KeepsInstances middle after) :
    KeepsInstances before after := fun pk had => second pk (first pk had)

theorem saveInstance (file : VolunteerFile) (pk : Pk) (row : RequirementInstance) :
    KeepsInstances file (file.saveInstance pk row) := by
  intro other had
  by_cases self : other = pk
  · rw [self, saveInstance_self]
    rfl
  · rwa [saveInstance_other _ self]

theorem synced (settings : Settings) (asOf : Date) (file : VolunteerFile) :
    KeepsInstances file (synced settings asOf file) := by
  intro pk had
  obtain same | ⟨definition, listed, rfl⟩ := (syncSubject settings asOf file).result_cases pk
  · exact (congrArg Option.isSome same).trans had
  · refine ((syncSubject settings asOf file).result_isSome definition listed).trans ?_
    exact Bool.or_eq_true_iff.mpr (.inl had)

theorem refreshed (settings : Settings) (today : Date) (pk : Pk) (file : VolunteerFile) :
    KeepsInstances file (refreshDependents settings today pk file) := by
  unfold refreshDependents
  split
  · exact synced settings today file
  · exact of_same rfl

theorem counts (kept : KeepsInstances before after)
    (counted : (crcInstanceFor settings before).isSome = true) :
    (crcInstanceFor settings after).isSome = true := by
  unfold crcInstanceFor at counted ⊢
  rw [Option.isSome_map, List.find?_isSome] at counted ⊢
  obtain ⟨definition, listed, suits⟩ := counted
  rw [Bool.and_eq_true] at suits
  exact ⟨definition, listed, Bool.and_eq_true_iff.mpr ⟨suits.1, kept _ suits.2⟩⟩

end KeepsInstances

section Steps

variable {ambient : Ambient} {file : VolunteerFile} {work : Work}

theorem checkWritten_keepsInstances (report : CheckReport) :
    KeepsInstances file (checkWritten ambient report file).file := by
  unfold checkWritten writeOutcome
  dsimp only [Work.write, Work.start]
  split
  · refine KeepsInstances.trans ?_ (KeepsInstances.refreshed _ _ _ _)
    refine KeepsInstances.trans ?_ (KeepsInstances.saveInstance _ _ _)
    exact KeepsInstances.of_same rfl
  · exact KeepsInstances.of_same rfl

theorem request_keepsInstances {request : ScreeningRequest}
    (success : perform ambient request.operation file = .ok work) :
    KeepsInstances file work.file := by
  cases request with
  | recordCrc report =>
      intro pk had
      rw [(recordCrc_block success).1]
      exact checkWritten_keepsInstances report pk had
  | recordConvictions =>
      obtain ⟨created, _, _, _, rfl⟩ := recordConvictions_ok success
      unfold convictionsWritten
      dsimp only
      split
      · intro pk had
        exact Option.isSome_map.trans had
      · exact KeepsInstances.of_same rfl
  | assignmentCreate =>
      obtain ⟨_, _, _, rfl⟩ := assignmentCreate_ok success
      refine KeepsInstances.trans ?_ (KeepsInstances.synced _ _ _)
      exact KeepsInstances.of_same rfl
  | assignmentEnd =>
      obtain ⟨_, _, _, rfl⟩ := assignmentEnd_ok success
      refine KeepsInstances.trans ?_ (KeepsInstances.synced _ _ _)
      unfold deactivateIfUnassigned
      split <;> exact KeepsInstances.of_same rfl
  | volunteerEdit =>
      obtain ⟨_, _, _, rfl⟩ := volunteerEdit_ok success
      exact KeepsInstances.of_same rfl
  | volunteerDeactivate =>
      obtain ⟨_, _, _, _, rfl, rfl⟩ := volunteerDeactivate_ok success
      split <;> exact KeepsInstances.of_same rfl
  | volunteerReactivate =>
      obtain ⟨_, _, rfl⟩ := volunteerReactivate_ok success
      exact KeepsInstances.of_same rfl
  | recordDiscretionaryOverride =>
      obtain ⟨_, written, items, decided, _, rfl⟩ := recordDiscretionaryOverride_ok success
      obtain withdrawn | ⟨_, rfl⟩ | ⟨_, rfl⟩ := applyDecision_ok decided
      · exact KeepsInstances.of_same (withdraw_block withdrawn).2
      · exact KeepsInstances.of_same rfl
      · exact KeepsInstances.of_same rfl
  | resolveNotClear =>
      obtain ⟨_, _, withdrawn | rfl⟩ := resolveNotClear_ok success
      · exact KeepsInstances.of_same (withdraw_block withdrawn).2
      · exact KeepsInstances.of_same rfl
  | waiveRequirement =>
      obtain ⟨_, written, rfl⟩ := map_eq_ok_iff.mp success
      obtain ⟨_, _, _, _, _, rfl⟩ := waiveRequirement_ok written
      refine KeepsInstances.trans ?_ (KeepsInstances.refreshed _ _ _ _)
      exact KeepsInstances.saveInstance _ _ _
  | reverseWaiver =>
      obtain ⟨_, written, rfl⟩ := map_eq_ok_iff.mp success
      obtain ⟨_, _, _, rfl⟩ := reverseWaiver_ok written
      refine KeepsInstances.trans ?_ (KeepsInstances.refreshed _ _ _ _)
      exact KeepsInstances.saveInstance _ _ _

/-- What a block that a request sets, or leaves on a volunteer who has withdrawn, rests on. -/
def BlockRests (ambient : Ambient) (file : VolunteerFile) : ScreeningRequest → Prop
  | .recordCrc report =>
      (report.result = .notClear → (crcInstanceFor ambient.settings file).isSome = true) ∧
        (report.result = .cleared → file.volunteer.screeningBlock ≠ .withdrawn)
  | .recordConvictions _ entries =>
      entries.any (·.isAutomaticDisqualifier) = true →
        (crcInstanceFor ambient.settings file).isSome = true
  | .recordDiscretionaryOverride _ entry =>
      entry.decision = .declined → CheckOwed ambient.settings file
  | .resolveNotClear _ outcome _ => outcome = .withdrew → CheckOwed ambient.settings file
  | _ => True

/-- Where a step leaves the record check of each blocked volunteer owing. -/
def KeepsOwing (settings : Settings) (file : VolunteerFile) (action : ScreeningAction) : Prop :=
  KeepsShowing ScreeningBlock.blockingValues settings file action ∧
    match action with
    | .request actor today now request =>
        ∀ work, perform ⟨settings, actor, today, now⟩ request.operation file = .ok work →
          BlockRests ⟨settings, actor, today, now⟩ file request
    | _ => True

theorem Owing.showing {settings : Settings} (owing : Owing settings file) :
    BlockShows ScreeningBlock.blockingValues settings file ∧
      StaysBlocked ScreeningBlock.blockingValues settings file :=
  ⟨fun screened => (owing (mem_blockingValues_iff.mp screened)).shows,
    fun screened => (owing (mem_blockingValues_iff.mp screened)).undated⟩

theorem owing_of_decides {settings : Settings} {condition : Prop} {after : VolunteerFile}
    (decides : Decides ScreeningBlock.blockingValues settings condition after)
    (holds : condition)
    (counts : after.volunteer.screeningBlock ≠ .none →
      (crcInstanceFor settings after).isSome = true) : Owing settings after := by
  intro blocked
  have shows := decides.shows.mpr holds
  have screened := mem_blockingValues_iff.mpr blocked
  exact ⟨counts blocked, shows screened, decides.stays shows screened⟩

theorem block_of_leavesBlock {request : ScreeningRequest} (leaves : request.leavesBlock = true)
    (success : perform ambient request.operation file = .ok work) :
    work.file.volunteer.screeningBlock = file.volunteer.screeningBlock := by
  cases request with
  | recordCrc => cases leaves
  | recordConvictions => cases leaves
  | recordDiscretionaryOverride => cases leaves
  | resolveNotClear => cases leaves
  | assignmentCreate =>
      obtain ⟨_, _, _, rfl⟩ := assignmentCreate_ok success
      rfl
  | assignmentEnd =>
      obtain ⟨_, _, _, rfl⟩ := assignmentEnd_ok success
      dsimp only [Work.write, deactivateIfUnassigned]
      split
      · exact Volunteer.deriveBirth_screeningBlock _
      · rfl
  | volunteerEdit =>
      obtain ⟨_, _, _, rfl⟩ := volunteerEdit_ok success
      exact Volunteer.deriveBirth_screeningBlock _
  | volunteerDeactivate =>
      obtain ⟨_, _, _, _, rfl, rfl⟩ := volunteerDeactivate_ok success
      split <;> exact Volunteer.deriveBirth_screeningBlock _
  | volunteerReactivate =>
      obtain ⟨_, _, rfl⟩ := volunteerReactivate_ok success
      exact Volunteer.deriveBirth_screeningBlock _
  | waiveRequirement =>
      obtain ⟨_, written, rfl⟩ := map_eq_ok_iff.mp success
      obtain ⟨_, _, _, _, _, rfl⟩ := waiveRequirement_ok written
      dsimp only [Work.start]
      rw [refreshDependents_eq]
      rfl
  | reverseWaiver =>
      obtain ⟨_, written, rfl⟩ := map_eq_ok_iff.mp success
      obtain ⟨_, _, _, rfl⟩ := reverseWaiver_ok written
      dsimp only [Work.start]
      rw [refreshDependents_eq]
      rfl

theorem CheckOwed.congr {settings : Settings} {after : VolunteerFile}
    (owed : CheckOwed settings file)
    (rows : after.requirementInstances = file.requirementInstances) : CheckOwed settings after :=
  ⟨(KeepsInstances.of_same rows).counts owed.counts, (checkShows_congr rows).mpr owed.shows,
    (undated_congr rows).mpr owed.undated⟩

theorem Owing.congr {settings : Settings} {after : VolunteerFile} (owing : Owing settings file)
    (rows : after.requirementInstances = file.requirementInstances)
    (block : after.volunteer.screeningBlock = file.volunteer.screeningBlock) :
    Owing settings after := by
  intro blocked
  rw [block] at blocked
  exact (owing blocked).congr rows

theorem recordCrc_owing {report : CheckReport} (owing : Owing ambient.settings file)
    (keeps : RequestKeeps ScreeningBlock.blockingValues ambient file (.recordCrc report))
    (rests : BlockRests ambient file (.recordCrc report))
    (success : recordCrc ambient report file = .ok work) : Owing ambient.settings work.file := by
  obtain ⟨notClear, cleared⟩ := rests
  have kept := @request_keepsInstances ambient file work (.recordCrc report) success
  refine owing_of_decides (recordCrc_decides (by decide) (by decide)
    (fun clears _ => cleared clears) success) keeps ?_
  intro blocked
  cases result : report.result with
  | notClear => exact kept.counts (notClear result)
  | cleared =>
      rcases (recordCrc_block success).2.2 result with lifted | ⟨unchanged, _⟩
      · exact absurd lifted blocked
      · rw [unchanged] at blocked
        exact kept.counts (owing blocked).counts

theorem recordConvictions_owing {check : Nat} {entries : List ConvictionEntry}
    (owing : Owing ambient.settings file)
    (keeps : RequestKeeps ScreeningBlock.blockingValues ambient file
      (.recordConvictions check entries))
    (rests : BlockRests ambient file (.recordConvictions check entries))
    (success : recordConvictions ambient check entries file = .ok work) :
    Owing ambient.settings work.file := by
  have kept := @request_keepsInstances ambient file work (.recordConvictions check entries) success
  obtain ⟨shows, stays⟩ := owing.showing
  by_cases automatic : entries.any (·.isAutomaticDisqualifier) = true
  · exact owing_of_decides (recordConvictions_decides (by decide) shows stays success) keeps
      fun _ => kept.counts (rests automatic)
  · obtain ⟨created, items, alike, _, rfl⟩ := recordConvictions_ok success
    rw [← alike] at automatic
    unfold convictionsWritten
    simp only [if_neg automatic]
    exact owing.congr rfl rfl

theorem recordDiscretionaryOverride_owing {check : Nat} {entry : DecisionEntry}
    (owing : Owing ambient.settings file)
    (rests : BlockRests ambient file (.recordDiscretionaryOverride check entry))
    (success : recordDiscretionaryOverride ambient check entry file = .ok work) :
    Owing ambient.settings work.file := by
  obtain ⟨_, written, items, decided, _, rfl⟩ := recordDiscretionaryOverride_ok success
  unfold applyDecision at decided
  split at decided
  · next declined =>
      have rows := (withdraw_block decided).2
      exact fun _ => CheckOwed.congr (rests declined) rows
  · split at decided
    · obtain ⟨_, rfl⟩ := Work.setScreeningBlock_ok decided
      intro blocked
      exact absurd (Volunteer.deriveBirth_screeningBlock _) blocked
    · cases decided
      exact owing.congr rfl rfl

theorem resolveNotClear_owing {check : Nat} {outcome : CRCNotClearOutcome} {notes : String}
    (owing : Owing ambient.settings file)
    (rests : BlockRests ambient file (.resolveNotClear check outcome notes))
    (success : resolveNotClear ambient check outcome notes file = .ok work) :
    Owing ambient.settings work.file := by
  obtain ⟨_, _, success⟩ := bind_eq_ok_iff.mp success
  obtain ⟨_, _, success⟩ := bind_eq_ok_iff.mp success
  obtain ⟨_, _, success⟩ := bind_eq_ok_iff.mp success
  unfold resolveBlock at success
  split at success
  · next withdrew =>
      have rows := (withdraw_block success).2
      exact fun _ => CheckOwed.congr (rests withdrew) rows
  · cases success
    exact owing.congr rfl rfl

theorem request_owing {request : ScreeningRequest} (owing : Owing ambient.settings file)
    (keeps : RequestKeeps ScreeningBlock.blockingValues ambient file request)
    (rests : BlockRests ambient file request)
    (success : perform ambient request.operation file = .ok work) :
    Owing ambient.settings work.file := by
  by_cases leaves : request.leavesBlock = true
  · obtain ⟨shows, stays⟩ := owing.showing
    refine owing_of_decides (decides_of_leavesBlock leaves shows stays success) keeps ?_
    intro blocked
    rw [block_of_leavesBlock leaves success] at blocked
    exact (request_keepsInstances success).counts (owing blocked).counts
  · cases request with
    | recordCrc => exact recordCrc_owing owing keeps rests success
    | recordConvictions => exact recordConvictions_owing owing keeps rests success
    | recordDiscretionaryOverride => exact recordDiscretionaryOverride_owing owing rests success
    | resolveNotClear => exact resolveNotClear_owing owing rests success
    | _ => exact absurd rfl leaves

theorem screeningStep_owing {settings : Settings} (owing : Owing settings file)
    {action : ScreeningAction} (keeps : KeepsOwing settings file action) :
    Owing settings (screeningStep settings file action) := by
  obtain ⟨shows, stays⟩ := owing.showing
  cases action with
  | request actor today now request =>
      obtain ⟨showing, resting⟩ := keeps
      refine Machine.attempt_induction owing ?_
      intro after success
      obtain ⟨work, performed, rfl⟩ := map_eq_ok_iff.mp success
      exact request_owing owing (showing work performed) (resting work performed) performed
  | resync asOf =>
      refine owing_of_decides (decides_synced shows stays) keeps.1 ?_
      intro blocked
      exact (KeepsInstances.synced settings asOf file).counts (owing blocked).counts
  | activateTurning18Checks asOf =>
      show Owing settings
        (if file.volunteer.isActive then activateTurning18Checks settings asOf file else file)
      split
      · intro blocked
        obtain ⟨counts, showing, undated⟩ := owing blocked
        obtain ⟨stillShows, stillUndated⟩ :=
          @activateTurning18Checks_shows settings asOf file showing undated
        refine ⟨KeepsInstances.counts ?_ counts, stillShows, stillUndated⟩
        intro pk had
        exact (activateTurning18Checks_row settings asOf file pk).1.trans had
      · exact owing
  | recomputeAllStatuses asOf =>
      show Owing settings
        (if file.volunteer.isActive then recomputeAllStatuses asOf file else file)
      split
      · intro blocked
        obtain ⟨counts, showing, undated⟩ := owing blocked
        obtain ⟨stillShows, stillUndated⟩ :=
          @recomputeAllStatuses_shows settings asOf file showing undated
        refine ⟨KeepsInstances.counts ?_ counts, stillShows, stillUndated⟩
        intro pk had
        exact Option.isSome_map.trans had
      · exact owing

end Steps

/-- A report tells blocked volunteers apart exactly when each that it shows owes something it
looks at; and where it looks at record checks it does so in every state of a run whose steps leave
the record check of each blocked volunteer owing. -/
theorem compliance_report_iff (settings : Settings) :
    (∀ (files : List VolunteerFile) (today : Date) (query : ReportQuery),
      TellsBlockedApart today (buildComplianceReport settings today query files) ↔
        BlockedOwe settings today query files) ∧
      ∀ (volunteers : List Volunteer) (actions : List (Nat × ScreeningAction)),
        (∀ volunteer ∈ volunteers, volunteer.screeningBlock = .none) →
        Machine.Guarded (Machine.stepAt (screeningStep settings))
          (Machine.guardAt (KeepsOwing settings)) (newChurch volunteers) actions →
        Machine.Always (Machine.stepAt (screeningStep settings))
          (fun files => ∀ (today : Date) (query : ReportQuery), LooksAtChecks query →
            TellsBlockedApart today (buildComplianceReport settings today query files))
          (newChurch volunteers) actions := by
  refine ⟨fun files today query => tellsBlockedApart_iff, ?_⟩
  intro volunteers actions unblocked guarded
  have opened : Machine.Each (Owing settings) (newChurch volunteers) := by
    intro component file found blocked
    simp only [newChurch, List.getElem?_map, Option.map_eq_some_iff] at found
    obtain ⟨volunteer, listed, rfl⟩ := found
    have free := unblocked volunteer (List.mem_of_getElem? listed)
    exact absurd ((Volunteer.deriveBirth_screeningBlock _).trans free) blocked
  have owing := Machine.always_each_of_guarded (screeningStep settings) (KeepsOwing settings)
    (Owing settings) (fun file action owing keeps => screeningStep_owing owing keeps) opened guarded
  refine owing.imp ?_
  intro files each today query looks
  refine tellsBlockedApart_iff.mpr (blockedOwe_of_owing ?_ today looks)
  intro file inChurch
  obtain ⟨component, found⟩ := List.mem_iff_getElem?.mp inChurch
  exact each component file found

def blockingRun : List (Nat × ScreeningAction) := hidingRun.take 4

theorem compliance_report_blocking :
    Machine.Always (Machine.stepAt (screeningStep (Sample.settings Sample.recordCheckOnly)))
      (fun files => ∀ (today : Date) (query : ReportQuery), LooksAtChecks query →
        TellsBlockedApart today
          (buildComplianceReport (Sample.settings Sample.recordCheckOnly) today query files))
      (newChurch [Sample.adult]) blockingRun := by
  refine (compliance_report_iff (Sample.settings Sample.recordCheckOnly)).2 [Sample.adult]
    blockingRun (by decide) ?_
  have unscreened : ∀ file : VolunteerFile, file.volunteer.screeningBlock = .none →
      ¬file.IsScreened ScreeningBlock.blockingValues := by
    intro file free screened
    exact mem_blockingValues_iff.mp screened free
  refine ⟨?_, ?_, ?_, ?_, trivial⟩
  · rintro file ⟨⟩
    exact ⟨fun _ _ screened => absurd screened (unscreened _ rfl), fun _ _ => trivial⟩
  · rintro file ⟨⟩
    exact ⟨fun screened => absurd screened (unscreened _ rfl), trivial⟩
  · rintro file ⟨⟩
    refine ⟨?_, ?_⟩
    · intro _ _ pk row _ _ _ hangs
      cases show false = true from hangs
    · intro _ _
      refine ⟨fun _ => rfl, ?_⟩
      intro cleared
      cases cleared
  · rintro file ⟨⟩
    refine ⟨?_, trivial⟩
    rintro _ ⟨definition, counted, held⟩
    obtain rfl : Sample.recordCheck = definition := Option.some.inj counted
    cases show false = true from held

/-- The disqualified volunteer whose record check reads not applicable is listed as compliant. -/
theorem disqualified_listed_compliant :
    ∃ files row,
      Machine.run (Machine.stepAt (screeningStep (Sample.settings Sample.recordCheckOnly)))
        (newChurch [Sample.adult]) hidingRun = files ∧
      row ∈ (buildComplianceReport (Sample.settings Sample.recordCheckOnly)
        (Sample.day ⟨3, by decide⟩ 0) ⟨none, none, false, none, none⟩ files).compliant ∧
      row.volunteer.screeningBlock = .disqualified ∧
      row.statusLabel (Sample.day ⟨3, by decide⟩ 0) = "Disqualified" := by
  refine ⟨_, _, rfl, List.mem_cons_self, rfl, rfl⟩

end VolunteerScreening
