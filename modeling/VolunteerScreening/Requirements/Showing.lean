import VolunteerScreening.Requirements.Nightly
import VolunteerScreening.Requirements.RecordChecks
import VolunteerScreening.Requirements.Settling

/-!
# Whether the record check shows

The record check shows while the instance that counts owes something.  A sync
may create the instance that counts from then on, and it hides the one that
counts exactly when it parks it.
-/

namespace VolunteerScreening.Requirements

open Calendar Org

theorem SyncSubject.result_isSome (subject : SyncSubject) (definition : RequirementDefinition)
    (listed : definition ∈ subject.catalogue.active) :
    (subject.result.1 definition.pk).isSome =
      ((subject.existing definition.pk).isSome || subject.applies definition) := by
  rw [subject.result_of_mem definition listed]
  cases present : subject.existing definition.pk with
  | none =>
      rw [subject.turn_of_none _ definition present]
      cases subject.applies definition <;> rfl
  | some row =>
      rw [(subject.turn_of_some _ definition present).1]
      rfl

theorem RequirementInstance.recompute_outstanding {row : RequirementInstance} (asOf : Date)
    (outstanding : row.status.isOutstanding = true)
    (stuck : row.status = .blocked ∨ row.completedOn = none) :
    (row.recompute asOf).status.isOutstanding = true := by
  unfold recompute
  cases status : row.status <;>
    simp_all [RequirementStatus.isOutstanding, RequirementStatus.outstandingValues] <;>
    split <;> simp_all

section Counting

variable {settings : Settings} {asOf : Date} {file : VolunteerFile}

theorem crcInstanceFor_congr {other : VolunteerFile}
    (same : ∀ pk, (other.requirementInstances pk).isSome = (file.requirementInstances pk).isSome) :
    crcInstanceFor settings other = crcInstanceFor settings file := by
  unfold crcInstanceFor
  simp only [same]

/-- The record check that counts once a sync has run: the first in force that the volunteer has,
or that a role asks for. -/
def countedAfterSync (settings : Settings) (file : VolunteerFile) :
    Option RequirementDefinition :=
  settings.catalogue.active.find? fun definition =>
    definition.isCrc && ((file.requirementInstances definition.pk).isSome ||
      definition.appliesToVolunteer (file.activeRoles settings))

theorem crcInstanceFor_synced :
    crcInstanceFor settings (synced settings asOf file) =
      (countedAfterSync settings file).map (·.pk) := by
  unfold crcInstanceFor countedAfterSync
  rw [← List.head?_filter, ← List.head?_filter]
  have same : settings.catalogue.active.filter (fun definition => definition.isCrc &&
        ((synced settings asOf file).requirementInstances definition.pk).isSome) =
      settings.catalogue.active.filter fun definition => definition.isCrc &&
        ((file.requirementInstances definition.pk).isSome ||
          definition.appliesToVolunteer (file.activeRoles settings)) := by
    apply List.filter_congr
    intro definition listed
    have present := (syncSubject settings asOf file).result_isSome definition listed
    exact congrArg (definition.isCrc && ·) present
  rw [same]

theorem crcInstanceFor_of_countedAfterSync {definition : RequirementDefinition}
    (counted : countedAfterSync settings file = some definition)
    (present : (file.requirementInstances definition.pk).isSome = true) :
    crcInstanceFor settings file = some definition.pk := by
  obtain ⟨suits, earlier, later, split, unsuitedBefore⟩ := List.find?_eq_some_iff_append.mp counted
  simp only [Bool.and_eq_true] at suits
  have found : (settings.catalogue.active.find? fun definition =>
      definition.isCrc && (file.requirementInstances definition.pk).isSome) =
        some definition := by
    refine List.find?_eq_some_iff_append.mpr ⟨by simp [suits.1, present], earlier, later, split, ?_⟩
    intro other listed
    have unsuited := unsuitedBefore other listed
    simp only [Bool.not_eq_true', Bool.and_eq_false_iff, Bool.or_eq_false_iff] at unsuited ⊢
    exact unsuited.imp id And.left
  unfold crcInstanceFor
  rw [found]
  rfl

/-- The record check shows: the instance that counts, if there is one, is not satisfied. -/
def CheckShows (settings : Settings) (file : VolunteerFile) : Prop :=
  ∀ pk row, crcInstanceFor settings file = some pk → file.requirementInstances pk = some row →
    row.status ∉ RequirementStatus.satisfiedValues

/-- No date can settle the instance that counts: it reads blocked, or was never completed. -/
def Undated (settings : Settings) (file : VolunteerFile) : Prop :=
  ∀ pk row, crcInstanceFor settings file = some pk → file.requirementInstances pk = some row →
    row.status = .blocked ∨ row.completedOn = none

/-- A sync on this day holds up the record check that then counts: no role asks for it, the age
exempts, or its gate is closed when its turn comes. -/
def HeldUp (settings : Settings) (asOf : Date) (file : VolunteerFile) : Prop :=
  ∃ definition, countedAfterSync settings file = some definition ∧
    ((syncSubject settings asOf file).parkingReason
      ((syncSubject settings asOf file).rowsAt definition) definition).isSome = true

theorem checkShows_congr {other : VolunteerFile}
    (same : other.requirementInstances = file.requirementInstances) :
    CheckShows settings other ↔ CheckShows settings file := by
  have counts : crcInstanceFor settings other = crcInstanceFor settings file :=
    crcInstanceFor_congr fun pk => by rw [same]
  unfold CheckShows
  rw [counts, same]

theorem undated_congr {other : VolunteerFile}
    (same : other.requirementInstances = file.requirementInstances) :
    Undated settings other ↔ Undated settings file := by
  have counts : crcInstanceFor settings other = crcInstanceFor settings file :=
    crcInstanceFor_congr fun pk => by rw [same]
  unfold Undated
  rw [counts, same]

theorem counted_synced {definition : RequirementDefinition} {row : RequirementInstance}
    (counted : countedAfterSync settings file = some definition)
    (present : (synced settings asOf file).requirementInstances definition.pk = some row) :
    let subject := syncSubject settings asOf file
    row = subject.createdRow (subject.rowsAt definition) definition ∨
      ∃ before, crcInstanceFor settings file = some definition.pk ∧
        file.requirementInstances definition.pk = some before ∧
        row = subject.reconciled (subject.rowsAt definition) definition before := by
  intro subject
  have listed : definition ∈ settings.catalogue.active := List.mem_of_find?_eq_some counted
  obtain ⟨_, _, created⟩ | ⟨before, there, reconciled⟩ := synced_instance_of_mem listed present
  · exact .inl created
  · have counts := crcInstanceFor_of_countedAfterSync counted (by rw [there]; rfl)
    exact .inr ⟨before, counts, there, reconciled⟩

/-- A record check that shows goes on showing through a sync exactly when the sync does not hold
it up. -/
theorem checkShows_synced_iff (shows : CheckShows settings file) :
    CheckShows settings (synced settings asOf file) ↔ ¬HeldUp settings asOf file := by
  have each : ∀ definition row, countedAfterSync settings file = some definition →
      (synced settings asOf file).requirementInstances definition.pk = some row →
      (row.status ∉ RequirementStatus.satisfiedValues ↔
        ((syncSubject settings asOf file).parkingReason
          ((syncSubject settings asOf file).rowsAt definition) definition).isSome = false) := by
    intro definition row counted present
    obtain rfl | ⟨before, counts, had, rfl⟩ := counted_synced counted present
    · unfold SyncSubject.createdRow
      split
      · next parked => simp [parked, RequirementStatus.satisfiedValues]
      · next released =>
          simp [released, RequirementStatus.satisfiedValues, RequirementInstance.fresh]
    · have owed := shows _ before counts had
      rw [SyncSubject.reconciled_status]
      cases ((syncSubject settings asOf file).parkingReason _ definition).isSome <;>
        cases status : before.status <;> simp_all [RequirementStatus.satisfiedValues]
  constructor
  · rintro stillShows ⟨definition, counted, parked⟩
    have listed : definition ∈ settings.catalogue.active := List.mem_of_find?_eq_some counted
    have counts : crcInstanceFor settings (synced settings asOf file) = some definition.pk := by
      rw [crcInstanceFor_synced, counted]
      rfl
    obtain ⟨_, _, _, _, present⟩ := crcInstanceFor_some counts
    obtain ⟨row, present⟩ := Option.isSome_iff_exists.mp present
    have released := (each definition row counted present).mp (stillShows _ row counts present)
    rw [parked] at released
    cases released
  · intro free pk row counts present
    rw [crcInstanceFor_synced] at counts
    obtain ⟨definition, counted, rfl⟩ := Option.map_eq_some_iff.mp counts
    refine (each definition row counted present).mpr ?_
    rw [← Bool.not_eq_true]
    intro parked
    exact free ⟨definition, counted, parked⟩

theorem undated_synced (undated : Undated settings file)
    (stillShows : CheckShows settings (synced settings asOf file)) :
    Undated settings (synced settings asOf file) := by
  intro pk row counts present
  have owed := stillShows pk row counts present
  rw [crcInstanceFor_synced] at counts
  obtain ⟨definition, counted, rfl⟩ := Option.map_eq_some_iff.mp counts
  obtain rfl | ⟨before, countedBefore, had, rfl⟩ := counted_synced counted present
  · refine .inr ?_
    unfold SyncSubject.createdRow
    split <;> rfl
  · rcases undated _ before countedBefore had with blocked | incomplete
    · refine .inl ?_
      rw [SyncSubject.reconciled_status] at owed ⊢
      cases parking : (syncSubject settings asOf file).parkingReason
          ((syncSubject settings asOf file).rowsAt definition) definition <;>
        simp_all [RequirementStatus.satisfiedValues]
    · exact .inr ((SyncSubject.reconciled_completedOn _ _ _ _).trans incomplete)

/-- A Not Clear check on a volunteer with a record check leaves that instance blocked, and
refreshes where something is gated behind it. -/
theorem checkWritten_notClear {ambient : Ambient} {report : CheckReport} {pk : Pk}
    {row : RequirementInstance} (notClear : report.result = .notClear)
    (counts : crcInstanceFor ambient.settings file = some pk)
    (present : file.requirementInstances pk = some row) :
    (checkWritten ambient report file).file.requirementInstances =
      (refreshDependents ambient.settings ambient.today pk
        (file.saveInstance pk (notClearRow row))).requirementInstances := by
  have presentThere : (addCheck (report.record (some pk)) file).requirementInstances pk =
      some row := present
  have written : (checkWritten ambient report file).file =
      refreshDependents ambient.settings ambient.today pk
        ((addCheck (report.record (some pk)) file).saveInstance pk (notClearRow row)) := by
    unfold checkWritten writeOutcome
    simp only [counts, Work.write, Work.start, Option.bind_some, presentThere, notClear]
  rw [written]
  unfold refreshDependents
  split <;> rfl

theorem checkWritten_absent {ambient : Ambient} {report : CheckReport}
    (uncounted : crcInstanceFor ambient.settings file = none) :
    (checkWritten ambient report file).file.requirementInstances = file.requirementInstances := by
  unfold checkWritten writeOutcome
  simp only [uncounted, Work.write, Work.start, Option.bind_none]
  rfl

theorem checkShows_saveInstance {pk : Pk} {row blocked : RequirementInstance}
    (counts : crcInstanceFor settings file = some pk)
    (present : file.requirementInstances pk = some row) (reads : blocked.status = .blocked) :
    CheckShows settings (file.saveInstance pk blocked) ∧
      Undated settings (file.saveInstance pk blocked) := by
  have counted : crcInstanceFor settings (file.saveInstance pk blocked) = some pk := by
    rw [← counts]
    refine crcInstanceFor_congr ?_
    intro other
    by_cases self : other = pk
    · rw [self, VolunteerFile.saveInstance_self, present]
      rfl
    · rw [VolunteerFile.saveInstance_other _ self]
  have only : ∀ other saved, crcInstanceFor settings (file.saveInstance pk blocked) = some other →
      (file.saveInstance pk blocked).requirementInstances other = some saved →
      saved = blocked := by
    intro other saved countsThere saves
    rw [counted] at countsThere
    cases countsThere
    rw [VolunteerFile.saveInstance_self] at saves
    exact (Option.some.inj saves).symm
  refine ⟨?_, ?_⟩
  · intro other saved countsThere saves
    rw [only other saved countsThere saves, reads]
    decide
  · intro other saved countsThere saves
    rw [only other saved countsThere saves]
    exact .inl reads

theorem checkShows_saveInstance_other {pk : Pk} {row : RequirementInstance}
    (present : (file.requirementInstances pk).isSome = true)
    (uncounted : crcInstanceFor settings file ≠ some pk) :
    (CheckShows settings (file.saveInstance pk row) ↔ CheckShows settings file) ∧
      (Undated settings (file.saveInstance pk row) ↔ Undated settings file) := by
  have counts : crcInstanceFor settings (file.saveInstance pk row) =
      crcInstanceFor settings file := by
    refine crcInstanceFor_congr ?_
    intro other
    by_cases self : other = pk
    · rw [self, VolunteerFile.saveInstance_self, present]
      rfl
    · rw [VolunteerFile.saveInstance_other _ self]
  have same : ∀ other, crcInstanceFor settings file = some other →
      (file.saveInstance pk row).requirementInstances other = file.requirementInstances other := by
    intro other counted
    refine VolunteerFile.saveInstance_other _ ?_ _
    rintro rfl
    exact uncounted counted
  unfold CheckShows Undated
  rw [counts]
  refine ⟨?_, ?_⟩
  all_goals
    refine forall₂_congr fun other saved => ?_
    refine imp_congr_right fun counted => ?_
    rw [same other counted]

/-- A Not Clear check shows unless refreshing what hangs on the record check holds it up. -/
theorem checkWritten_shows {ambient : Ambient} {report : CheckReport}
    (notClear : report.result = .notClear) :
    (CheckShows ambient.settings (checkWritten ambient report file).file ↔
        ∀ pk row, crcInstanceFor ambient.settings file = some pk →
          file.requirementInstances pk = some row → hasDependents ambient.settings pk = true →
          ¬HeldUp ambient.settings ambient.today (file.saveInstance pk (notClearRow row))) ∧
      (CheckShows ambient.settings (checkWritten ambient report file).file →
        Undated ambient.settings (checkWritten ambient report file).file) := by
  cases counts : crcInstanceFor ambient.settings file with
  | none =>
      have same := @checkWritten_absent file ambient report counts
      rw [checkShows_congr same, undated_congr same]
      refine ⟨iff_of_true ?_ (fun _ _ impossible => nomatch impossible), ?_⟩
      · intro pk row countsThere
        cases counts.symm.trans countsThere
      · intro _ pk row countsThere
        cases counts.symm.trans countsThere
  | some pk =>
      obtain ⟨_, _, _, _, had⟩ := crcInstanceFor_some counts
      obtain ⟨row, present⟩ := Option.isSome_iff_exists.mp had
      have only : ∀ other saved, some pk = some other →
          file.requirementInstances other = some saved → other = pk ∧ saved = row := by
        rintro other saved ⟨⟩ found
        exact ⟨rfl, Option.some.inj (found.symm.trans present)⟩
      obtain ⟨shows, undated⟩ := checkShows_saveInstance counts present
        (show (notClearRow row).status = .blocked from rfl)
      have written := checkWritten_notClear notClear counts present
      rw [checkShows_congr written, undated_congr written]
      unfold refreshDependents
      by_cases hangs : hasDependents ambient.settings pk = true
      · rw [if_pos hangs, checkShows_synced_iff shows]
        refine ⟨⟨?_, ?_⟩, ?_⟩
        · intro free other saved counted found _
          obtain ⟨rfl, rfl⟩ := only other saved counted found
          exact free
        · intro each
          exact each pk row rfl present hangs
        · intro free
          exact undated_synced undated ((checkShows_synced_iff shows).mpr free)
      · rw [if_neg hangs]
        refine ⟨iff_of_true shows ?_, fun _ => undated⟩
        intro other saved counted found hangsThere
        obtain ⟨rfl, rfl⟩ := only other saved counted found
        exact absurd hangsThere hangs

/-- Blocking every outstanding requirement hides no record check and shows none, and leaves one
that shows reading blocked. -/
theorem checkShows_blockOutstanding {other : VolunteerFile}
    (blocked : other.requirementInstances = blockOutstanding file.requirementInstances) :
    (CheckShows settings other ↔ CheckShows settings file) ∧
      (CheckShows settings other → Undated settings other) := by
  have counts : crcInstanceFor settings other = crcInstanceFor settings file := by
    refine crcInstanceFor_congr ?_
    intro pk
    rw [blocked]
    unfold blockOutstanding
    rw [Option.isSome_map]
  have mapped : ∀ pk row, other.requirementInstances pk = some row ↔
      ∃ before, file.requirementInstances pk = some before ∧
        (if before.status.isOutstanding then { before with status := .blocked } else before) =
          row := by
    intro pk row
    rw [blocked]
    exact Option.map_eq_some_iff
  refine ⟨⟨?_, ?_⟩, ?_⟩
  · intro shows pk before countsBefore present
    rw [← counts] at countsBefore
    have owed := shows pk _ countsBefore ((mapped pk _).mpr ⟨before, present, rfl⟩)
    rw [← RequirementStatus.isOutstanding_iff]
    by_contra satisfied
    rw [if_neg satisfied, ← RequirementStatus.isOutstanding_iff] at owed
    exact satisfied owed
  · intro shows pk row countsAfter present
    rw [counts] at countsAfter
    obtain ⟨before, had, rfl⟩ := (mapped pk row).mp present
    have owed := (RequirementStatus.isOutstanding_iff _).mpr (shows pk before countsAfter had)
    rw [if_pos owed]
    simp [RequirementStatus.satisfiedValues]
  · intro shows pk row countsAfter present
    have owed := shows pk row countsAfter present
    obtain ⟨before, _, rfl⟩ := (mapped pk row).mp present
    split
    · exact .inl rfl
    · next satisfied =>
        rw [if_neg satisfied, ← RequirementStatus.isOutstanding_iff] at owed
        exact absurd owed satisfied

theorem activateTurning18Checks_shows (shows : CheckShows settings file)
    (undated : Undated settings file) :
    CheckShows settings (activateTurning18Checks settings asOf file) ∧
      Undated settings (activateTurning18Checks settings asOf file) := by
  have counts : crcInstanceFor settings (activateTurning18Checks settings asOf file) =
      crcInstanceFor settings file :=
    crcInstanceFor_congr fun pk => (activateTurning18Checks_row settings asOf file pk).1
  have same : ∀ pk row, crcInstanceFor settings file = some pk →
      (activateTurning18Checks settings asOf file).requirementInstances pk = some row →
        file.requirementInstances pk = some row := by
    intro pk row countsBefore present
    obtain ⟨_, _, _, _, had⟩ := crcInstanceFor_some countsBefore
    obtain ⟨before, had⟩ := Option.isSome_iff_exists.mp had
    have unparked : before.status ≠ .notApplicable := by
      intro parked
      have owed := shows pk before countsBefore had
      rw [parked] at owed
      exact owed (by decide)
    have kept := (activateTurning18Checks_row settings asOf file pk).2 before had unparked
    rw [kept] at present
    rw [had, present]
  refine ⟨?_, ?_⟩
  · intro pk row countsAfter present
    rw [counts] at countsAfter
    exact shows pk row countsAfter (same pk row countsAfter present)
  · intro pk row countsAfter present
    rw [counts] at countsAfter
    exact undated pk row countsAfter (same pk row countsAfter present)

theorem recomputeAllStatuses_shows (shows : CheckShows settings file)
    (undated : Undated settings file) :
    CheckShows settings (recomputeAllStatuses asOf file) ∧
      Undated settings (recomputeAllStatuses asOf file) := by
  have counts : crcInstanceFor settings (recomputeAllStatuses asOf file) =
      crcInstanceFor settings file := by
    refine crcInstanceFor_congr ?_
    intro pk
    exact Option.isSome_map
  refine ⟨?_, ?_⟩
  · intro pk row countsAfter present
    rw [counts] at countsAfter
    obtain ⟨before, had, rfl⟩ := Option.map_eq_some_iff.mp present
    have owed := (RequirementStatus.isOutstanding_iff _).mpr (shows pk before countsAfter had)
    rw [← RequirementStatus.isOutstanding_iff]
    exact RequirementInstance.recompute_outstanding asOf owed (undated pk before countsAfter had)
  · intro pk row countsAfter present
    rw [counts] at countsAfter
    obtain ⟨before, had, rfl⟩ := Option.map_eq_some_iff.mp present
    rcases undated pk before countsAfter had with blocked | incomplete
    · rw [before.recompute_status_of_not_dated asOf (.inr (.inr blocked))]
      exact .inl blocked
    · rw [RequirementInstance.recompute_completedOn]
      exact .inr incomplete

end Counting

end VolunteerScreening.Requirements
