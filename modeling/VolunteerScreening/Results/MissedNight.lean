import VolunteerScreening.Core.Tasks
import VolunteerScreening.Notifications.Raising
import VolunteerScreening.Requirements.Standing
import VolunteerScreening.Results.LostReminders

/-!
# A missed night

A search compares dates for equality with the day of its run, so what one day
owes is not owed the next.  The one reminder that comes back is the overdue
notice of an instance whose two dates pass on two days running.
-/

namespace VolunteerScreening.Core

open Calendar Machine Notifications Requirements Tenants

def raisedOn (tenant : Tenant) (church : Church) (reminders : List ReminderLog) (asOf : Date) :
    List Entry :=
  (raiseAll reminders (findDueReminders tenant (swept church asOf) asOf)).2

theorem sweepTenant_reminders (tenant : Tenant) (church : Church) (pass : Pass)
    (outbox : Outbox) :
    (sweepTenant tenant church pass outbox).2.1.reminders =
      outbox.reminders ++
        (raisedOn tenant church outbox.reminders pass.asOf).map (·.log) :=
  processTenantReminders_reminders pass outbox

/-- An instance that a reminder of the day can be about, by the church before the sweep: it will
be neither parked nor waived, and this is its row brought in line with the date. -/
structure StandsAs (church : Church) (asOf : Date) (volunteer : Nat)
    (definition : RequirementDefinition) (row : RequirementInstance) : Prop where
  listed : definition ∈ church.catalogue.active
  served : ∃ file, church.files[volunteer]? = some file ∧ file.volunteer.isActive = true ∧
    standsOn church.settings asOf file definition = true ∧
    row = (standing church.catalogue file.volunteer file.requirementInstances
      definition).recompute asOf
  unwaived : row.status ≠ .waived

def Nears (tenant : Tenant) (asOf : Date) (row : RequirementInstance) (days : Nat) : Prop :=
  ∃ date, approached row = some date ∧ leadTo tenant asOf date = some days

/-- What a day owes and the next one does not is in the log already.  The day after owes no date
that draws near, and it owes an overdue notice again when the instance, as the church was left,
has a second date that has just passed. -/
structure OwedAgain (tenant : Tenant) (church left : Church) (reminders : List ReminderLog)
    (asOf : Date) : Prop where
  near : ∀ volunteer definition row days, StandsAs church asOf volunteer definition row →
    Nears tenant asOf row days →
    ⟨volunteer, definition.pk, approachingKind row, days, row.effectiveDueDate⟩ ∈ reminders
  passed : ∀ volunteer definition row, StandsAs church asOf volunteer definition row →
    justOverdue asOf row = true →
    ⟨volunteer, definition.pk, .overdue, 0, row.effectiveDueDate⟩ ∈ reminders ∨
      ∃ next, StandsAs left asOf.next volunteer definition next ∧
        (next.expiresOn = some asOf ∨ next.dueOn = some asOf) ∧
        next.effectiveDueDate = row.effectiveDueDate

section Rows

variable {church : Church} {asOf : Date}

/-- What a search finds after a sweep is what stands by the church before it. -/
theorem remindable_swept_iff {volunteer : Nat} {definition : RequirementDefinition}
    {row : RequirementInstance} :
    (∃ loaded ∈ remindable (swept church asOf), loaded.volunteerId = volunteer ∧
        loaded.definition = definition ∧ loaded.row = row) ↔
      StandsAs church asOf volunteer definition row := by
  constructor
  · rintro ⟨loaded, found, rfl, rfl, rfl⟩
    obtain ⟨listed, after, placed, _, serving, present, unparked, unwaived⟩ :=
      mem_remindable.mp found
    rw [swept_file, Option.map_eq_some_iff] at placed
    obtain ⟨file, before, rfl⟩ := placed
    have inCatalogue := (church.catalogue.mem_active.mp listed).1
    rw [run_sweepStep_volunteer] at serving
    have swept := (@run_fileSteps_row church.settings asOf file loaded.definition
      inCatalogue).symm.trans present
    unfold sweepVolunteer at swept
    rw [if_pos serving] at swept
    obtain ⟨scanned, stands, recomputed⟩ := Option.map_eq_some_iff.mp swept
    have free : scanned.status ≠ .notApplicable := by
      rw [← recomputed] at unparked
      exact fun parked => unparked ((scanned.recompute_notApplicable_iff asOf).mpr parked)
    have stood := scanned_standing listed stands free
    refine ⟨listed, ⟨file, before, serving, ?_, ?_⟩, unwaived⟩
    · exact (scanned_unparked_iff listed).mp ⟨scanned, stands, free⟩
    · rw [← recomputed, stood]
      rfl
  · rintro ⟨listed, ⟨file, before, serving, stands, rfl⟩, unwaived⟩
    obtain ⟨scanned, present, free⟩ := (scanned_unparked_iff listed).mpr stands
    have stood : scanned = standing church.catalogue file.volunteer file.requirementInstances
        definition := scanned_standing listed present free
    rw [← stood] at unwaived ⊢
    refine ⟨⟨volunteer, file.volunteer, definition, scanned.recompute asOf⟩, ?_, rfl, rfl, rfl⟩
    refine mem_remindable.mpr ⟨listed,
      run (sweepStep church.settings asOf) file (fileSteps church.catalogue), ?_, ?_, ?_, ?_, ?_,
      unwaived⟩
    · rw [swept_file, before]
      rfl
    · exact (run_sweepStep_volunteer file _).symm
    · rw [run_sweepStep_volunteer]
      exact serving
    · have swept := @run_fileSteps_row church.settings asOf file definition
        (church.catalogue.mem_active.mp listed).1
      refine swept.trans ?_
      unfold sweepVolunteer
      rw [if_pos serving]
      exact Option.map_eq_some_iff.mpr ⟨scanned, present, rfl⟩
    · exact fun parked => free ((scanned.recompute_notApplicable_iff asOf).mp parked)

theorem recompute_status_cases (row : RequirementInstance) (asOf : Date) :
    (row.recompute asOf).status = row.status ∨ (row.recompute asOf).status = .overdue ∨
      row.status = .overdue ∧ (row.recompute asOf).status = .complete := by
  unfold RequirementInstance.recompute
  cases status : row.status <;> dsimp only <;> (try split) <;> simp [status]

theorem recompute_complete {row : RequirementInstance}
    (complete : (row.recompute asOf).status = .complete) :
    row.status = .complete ∨ row.status = .overdue := by
  rcases recompute_status_cases row asOf with same | overdue | ⟨overdue, _⟩
  · exact .inl (same.symm.trans complete)
  · cases overdue.symm.trans complete
  · exact .inr overdue

theorem recompute_open {row : RequirementInstance}
    (opened : (row.recompute asOf).status = .notStarted ∨
      (row.recompute asOf).status = .inProgress) :
    row.status = .notStarted ∨ row.status = .inProgress := by
  rcases recompute_status_cases row asOf with same | other | ⟨_, other⟩
  · rwa [same] at opened
  · rw [other] at opened
    rcases opened with status | status <;> cases status
  · rw [other] at opened
    rcases opened with status | status <;> cases status

theorem approached_recompute {row : RequirementInstance} {first second date other : Date}
    (near : approached (row.recompute first) = some date)
    (later : approached (row.recompute second) = some other) : date = other := by
  rcases approached_some near with ⟨done, dated⟩ | ⟨undone, dated⟩ <;>
    rcases approached_some later with ⟨done', dated'⟩ | ⟨undone', dated'⟩
  · rw [RequirementInstance.recompute_expiresOn] at dated dated'
    exact Option.some.inj (dated.symm.trans dated')
  · rcases recompute_complete done with status | status <;>
      rcases recompute_open undone' with status' | status' <;>
      cases status.symm.trans status'
  · rcases recompute_complete done' with status | status <;>
      rcases recompute_open undone with status' | status' <;>
      cases status.symm.trans status'
  · rw [RequirementInstance.recompute_dueOn] at dated dated'
    exact Option.some.inj (dated.symm.trans dated')

end Rows

section Night

variable {tenant : Tenant} {church : Church} {reminders : List ReminderLog} {asOf : Date}

theorem mem_raisedOn_log {row : ReminderLog} :
    row ∈ (raisedOn tenant church reminders asOf).map (·.log) ↔
      row ∈ (findDueReminders tenant (swept church asOf) asOf).map (·.log) ∧ row ∉ reminders :=
  mem_raiseAll_log fun _ found => findDueReminders_dated found

theorem mem_found_log {log : ReminderLog} :
    log ∈ (findDueReminders tenant (swept church asOf) asOf).map (·.log) ↔
      ∃ volunteer definition row, StandsAs church asOf volunteer definition row ∧
        ((∃ days, Nears tenant asOf row days ∧
            log = ⟨volunteer, definition.pk, approachingKind row, days, row.effectiveDueDate⟩) ∨
          justOverdue asOf row = true ∧
            log = ⟨volunteer, definition.pk, .overdue, 0, row.effectiveDueDate⟩) := by
  rw [List.mem_map]
  constructor
  · rintro ⟨entry, found, rfl⟩
    rcases List.mem_append.mp found with near | passed
    · obtain ⟨listed, reached, kind, due⟩ := mem_approachingEntries.mp near
      have stands := remindable_swept_iff.mp ⟨entry.loaded, listed, rfl, rfl, rfl⟩
      exact ⟨_, _, _, stands, .inl ⟨entry.leadDays, reached, by rw [Entry.log, kind, due]⟩⟩
    · obtain ⟨listed, ranOut, kind, days, due⟩ := mem_overdueEntries.mp passed
      have stands := remindable_swept_iff.mp ⟨entry.loaded, listed, rfl, rfl, rfl⟩
      exact ⟨_, _, _, stands, .inr ⟨ranOut, by rw [Entry.log, kind, days, due]⟩⟩
  · rintro ⟨volunteer, definition, row, stands, owed⟩
    obtain ⟨loaded, listed, rfl, rfl, rfl⟩ := remindable_swept_iff.mpr stands
    rcases owed with ⟨days, reached, rfl⟩ | ⟨ranOut, rfl⟩
    · refine ⟨⟨loaded, approachingKind loaded.row, days, loaded.row.effectiveDueDate⟩, ?_, rfl⟩
      exact List.mem_append_left _ (mem_approachingEntries.mpr ⟨listed, reached, rfl, rfl⟩)
    · refine ⟨⟨loaded, .overdue, 0, loaded.row.effectiveDueDate⟩, ?_, rfl⟩
      exact List.mem_append_right _ (mem_overdueEntries.mpr ⟨listed, ranOut, rfl, rfl, rfl⟩)

theorem StandsAs.same_definition {left : Church} {volunteer volunteer' : Nat}
    {definition definition' : RequirementDefinition} {row row' : RequirementInstance}
    {day : Date} (same : left.catalogue = church.catalogue)
    (first : StandsAs church asOf volunteer definition row)
    (second : StandsAs left day volunteer' definition' row')
    (samePk : definition.pk = definition'.pk) : definition' = definition := by
  have listed := second.listed
  rw [same] at listed
  exact church.catalogue.eq_of_pk_eq (church.catalogue.mem_active.mp listed).1
    (church.catalogue.mem_active.mp first.listed).1 samePk.symm

/-- On two days the same date draws near, so never with the same lead time. -/
theorem near_not_owed_next {volunteer : Nat} {definition : RequirementDefinition}
    {row : RequirementInstance} {days : Nat}
    (stands : StandsAs church asOf volunteer definition row) (near : Nears tenant asOf row days) :
    (⟨volunteer, definition.pk, approachingKind row, days, row.effectiveDueDate⟩ : ReminderLog) ∉
      (findDueReminders tenant (swept church asOf.next) asOf.next).map (·.log) := by
  rw [mem_found_log]
  rintro ⟨volunteer', definition', row', stands', owed⟩
  rcases owed with ⟨days', near', same⟩ | ⟨_, same⟩
  · rw [ReminderLog.mk.injEq] at same
    obtain ⟨rfl, samePk, _, rfl, _⟩ := same
    obtain rfl := stands.same_definition rfl stands' samePk
    obtain ⟨_, ⟨file, placed, _, _, rfl⟩, _⟩ := stands
    obtain ⟨_, ⟨file', placed', _, _, rfl⟩, _⟩ := stands'
    rw [placed] at placed'
    cases placed'
    obtain ⟨date, reached, lead⟩ := near
    obtain ⟨date', reached', lead'⟩ := near'
    have sameDate := approached_recompute reached reached'
    rw [(leadTo_some lead).2, (leadTo_some lead').2, Date.next_addDays] at sameDate
    have impossible := asOf.addDays_injective sameDate
    omega
  · exact approachingKind_ne_overdue row (congrArg ReminderLog.kind same)

theorem effectiveDueDate_le {row : RequirementInstance} {date : Date}
    (dated : row.expiresOn = some date ∨ row.dueOn = some date) :
    ∃ due, row.effectiveDueDate = some due ∧ due ≤ date := by
  unfold RequirementInstance.effectiveDueDate
  rcases dated with dated | dated <;> rw [dated]
  · cases row.dueOn with
    | none => exact ⟨date, rfl, le_refl _⟩
    | some due => exact ⟨_, rfl, min_le_left _ _⟩
  · cases row.expiresOn with
    | none => exact ⟨date, rfl, le_refl _⟩
    | some expires => exact ⟨_, rfl, min_le_right _ _⟩

theorem justOverdue_next {row : RequirementInstance} {due : Date}
    (dated : row.expiresOn = some asOf ∨ row.dueOn = some asOf)
    (effective : row.effectiveDueDate = some due) (earlier : due < asOf) :
    justOverdue asOf.next row = true := by
  rw [justOverdue_iff, Date.previous_next]
  refine ⟨dated, ?_⟩
  rintro ⟨_, expires, expiresOn, later⟩
  have past : asOf < expires := lt_of_lt_of_le asOf.lt_next later
  rcases dated with dated | dated
  · rw [dated] at expiresOn
    obtain rfl := Option.some.inj expiresOn
    exact lt_irrefl _ past
  · unfold RequirementInstance.effectiveDueDate at effective
    rw [expiresOn, dated] at effective
    obtain rfl := Option.some.inj effective
    exact lt_irrefl _ (lt_of_lt_of_le earlier (le_min past.le (le_refl _)))

theorem passed_owed_next_iff {left : Church} (same : left.catalogue = church.catalogue)
    {volunteer : Nat} {definition : RequirementDefinition} {row : RequirementInstance}
    (stands : StandsAs church asOf volunteer definition row)
    (ranOut : justOverdue asOf row = true) :
    (⟨volunteer, definition.pk, .overdue, 0, row.effectiveDueDate⟩ : ReminderLog) ∈
        (findDueReminders tenant (swept left asOf.next) asOf.next).map (·.log) ↔
      ∃ next, StandsAs left asOf.next volunteer definition next ∧
        (next.expiresOn = some asOf ∨ next.dueOn = some asOf) ∧
        next.effectiveDueDate = row.effectiveDueDate := by
  rw [mem_found_log]
  constructor
  · rintro ⟨volunteer', definition', next, stands', ⟨days, _, other⟩ | ⟨ranOut', other⟩⟩
    · exact absurd (congrArg ReminderLog.kind other).symm (approachingKind_ne_overdue next)
    · rw [ReminderLog.mk.injEq] at other
      obtain ⟨rfl, samePk, _, _, due⟩ := other
      obtain rfl := stands.same_definition same stands' samePk
      rw [justOverdue_iff, Date.previous_next] at ranOut'
      exact ⟨next, stands', ranOut'.1, due.symm⟩
  · rintro ⟨next, stands', dated, due⟩
    obtain ⟨earlier, effective, before⟩ := effectiveDueDate_le (justOverdue_iff.mp ranOut).1
    have passed : earlier < asOf := lt_of_le_of_lt before asOf.previous_lt
    refine ⟨volunteer, definition, next, stands', .inr ⟨?_, by rw [due]⟩⟩
    exact justOverdue_next dated (due.trans effective) passed

end Night

/-- When the sweep of a day fails after any of its writes and before any reminder, the sweep of
the day after raises everything the day owed exactly when it owed no more than comes back. -/
theorem missed_night_caught_up_iff (tenant : Tenant) (church : Church)
    (reminders : List ReminderLog) (asOf : Date) :
    (∀ writes, ∀ entry ∈ raisedOn tenant church reminders asOf,
        entry.log ∈ (raisedOn tenant (sweptUpTo church asOf writes) reminders
          asOf.next).map (·.log)) ↔
      ∀ writes, OwedAgain tenant church (sweptUpTo church asOf writes) reminders asOf := by
  have onLogs : ∀ writes, (∀ entry ∈ raisedOn tenant church reminders asOf,
        entry.log ∈ (raisedOn tenant (sweptUpTo church asOf writes) reminders
          asOf.next).map (·.log)) ↔
      ∀ log ∈ (findDueReminders tenant (swept church asOf) asOf).map (·.log), log ∉ reminders →
        log ∈ (findDueReminders tenant (swept (sweptUpTo church asOf writes) asOf.next)
          asOf.next).map (·.log) := by
    intro writes
    constructor
    · intro all log owed fresh
      obtain ⟨entry, raised, rfl⟩ := List.mem_map.mp (mem_raisedOn_log.mpr ⟨owed, fresh⟩)
      exact (mem_raisedOn_log.mp (all entry raised)).1
    · intro all entry raised
      obtain ⟨owed, fresh⟩ := mem_raisedOn_log.mp (List.mem_map_of_mem raised)
      exact mem_raisedOn_log.mpr ⟨all _ owed fresh, fresh⟩
  have sameCatalogue : ∀ writes, (sweptUpTo church asOf writes).catalogue = church.catalogue :=
    fun writes => rfl
  simp only [onLogs]
  constructor
  · intro caughtUp writes
    constructor
    · intro volunteer definition row days stands near
      by_contra fresh
      have owed := (@mem_found_log tenant _ _ _).mpr ⟨_, _, _, stands, .inl ⟨days, near, rfl⟩⟩
      exact near_not_owed_next stands near (caughtUp 0 _ owed fresh)
    · intro volunteer definition row stands ranOut
      rw [or_iff_not_imp_left]
      intro fresh
      have owed := (@mem_found_log tenant _ _ _).mpr ⟨_, _, _, stands, .inr ⟨ranOut, rfl⟩⟩
      exact (passed_owed_next_iff (sameCatalogue writes) stands ranOut).mp
        (caughtUp writes _ owed fresh)
  · intro again writes log owed fresh
    obtain ⟨volunteer, definition, row, stands, owes⟩ := mem_found_log.mp owed
    rcases owes with ⟨days, near, rfl⟩ | ⟨ranOut, rfl⟩
    · exact absurd ((again writes).near _ _ _ _ stands near) fresh
    · refine (passed_owed_next_iff (sameCatalogue writes) stands ranOut).mpr ?_
      exact ((again writes).passed _ _ _ stands ranOut).resolve_left fresh

/-- A week before an expiry the sweep fails at once, and the next day nothing is owed. -/
theorem missed_night_loses_lead_time :
    let church := Sample.church Sample.orientationOnly [Sample.expiring 17]
    (raisedOn Sample.tenant church [] (Sample.january 10)).map (·.log) =
        [⟨0, 1, .leadTime, 7, some (Sample.january 17)⟩] ∧
      (raisedOn Sample.tenant (sweptUpTo church (Sample.january 10) 0) []
        (Sample.january 10).next).map (·.log) = [] := by
  constructor <;> decide +kernel

end VolunteerScreening.Core
