import VolunteerScreening.Notifications.Services
import VolunteerScreening.Library.Claims
import Mathlib.Data.List.Induction

/-!
# What a search finds, and what a pass claims

Every entry found carries a date, so the log's constraint binds its claim: a
pass claims exactly the entries whose row is not there yet.
-/

namespace VolunteerScreening.Notifications

open Calendar Org Requirements Review Tenants

variable {tenant : Tenant} {church : Church} {asOf : Date}

theorem mem_remindable {loaded : LoadedInstance} :
    loaded ∈ remindable church ↔
      loaded.definition ∈ church.catalogue.active ∧
        ∃ file, church.files[loaded.volunteerId]? = some file ∧
          loaded.volunteer = file.volunteer ∧ file.volunteer.isActive = true ∧
          file.requirementInstances loaded.definition.pk = some loaded.row ∧
          loaded.row.status ≠ .notApplicable ∧ loaded.row.status ≠ .waived := by
  unfold remindable
  simp only [List.mem_flatMap, List.mem_filterMap]
  constructor
  · rintro ⟨definition, listed, ⟨file, volunteer⟩, placed, found⟩
    dsimp only at found
    split at found
    · cases found
    · next row present =>
        split at found
        · next fits =>
            cases found
            exact ⟨listed, file, List.mem_zipIdx_iff_getElem?.mp placed, rfl, fits.1, present,
              fits.2⟩
        · cases found
  · rintro ⟨listed, file, placed, same, active, present, unparked, unwaived⟩
    obtain ⟨volunteerId, volunteer, definition, row⟩ := loaded
    dsimp only at same present unparked unwaived
    subst same
    refine ⟨definition, listed, (file, volunteerId), List.mem_zipIdx_iff_getElem?.mpr placed, ?_⟩
    simp [present, active, unparked, unwaived]

theorem leadTo_some {date : Date} {days : Nat} (found : leadTo tenant asOf date = some days) :
    days ∈ tenant.leadDays ∧ date = asOf.addDays days := by
  unfold leadTo targets at found
  obtain ⟨⟨reached, lead⟩, first, rfl⟩ := Option.map_eq_some_iff.mp found
  obtain ⟨days, listed, same⟩ := List.mem_map.mp (List.mem_of_find?_eq_some first)
  have hit : reached = date := by simpa using List.find?_some first
  cases same
  exact ⟨listed, hit.symm⟩

theorem mem_approachingEntries {entry : Entry} :
    entry ∈ approachingEntries tenant church asOf ↔
      entry.loaded ∈ remindable church ∧
        (∃ date, approached entry.loaded.row = some date ∧
          leadTo tenant asOf date = some entry.leadDays) ∧
        entry.kind = approachingKind entry.loaded.row ∧
        entry.dueDate = entry.loaded.row.effectiveDueDate := by
  unfold approachingEntries
  rw [List.mem_filterMap]
  constructor
  · rintro ⟨loaded, listed, found⟩
    obtain ⟨days, reached, rfl⟩ := Option.map_eq_some_iff.mp found
    obtain ⟨date, near, lead⟩ := Option.bind_eq_some_iff.mp reached
    exact ⟨listed, ⟨date, near, lead⟩, rfl, rfl⟩
  · rintro ⟨listed, ⟨date, near, lead⟩, kind, due⟩
    obtain ⟨loaded, _, days, _⟩ := entry
    dsimp only at listed near lead kind due
    subst kind due
    refine ⟨loaded, listed, ?_⟩
    rw [near, Option.bind_some, lead]
    rfl

theorem mem_overdueEntries {entry : Entry} :
    entry ∈ overdueEntries church asOf ↔
      entry.loaded ∈ remindable church ∧ justOverdue asOf entry.loaded.row = true ∧
        entry.kind = .overdue ∧ entry.leadDays = 0 ∧
        entry.dueDate = entry.loaded.row.effectiveDueDate := by
  unfold overdueEntries
  rw [List.mem_map]
  constructor
  · rintro ⟨loaded, listed, rfl⟩
    obtain ⟨found, passed⟩ := List.mem_filter.mp listed
    exact ⟨found, passed, rfl, rfl, rfl⟩
  · rintro ⟨found, passed, kind, days, due⟩
    obtain ⟨loaded, _, _, _⟩ := entry
    dsimp only at found passed kind days due
    subst kind days due
    exact ⟨loaded, List.mem_filter.mpr ⟨found, passed⟩, rfl⟩

theorem effectiveDueDate_isSome {row : RequirementInstance} :
    row.effectiveDueDate.isSome = true ↔ row.expiresOn.isSome = true ∨ row.dueOn.isSome = true := by
  unfold RequirementInstance.effectiveDueDate
  cases row.expiresOn <;> cases row.dueOn <;> simp

theorem approached_some {row : RequirementInstance} {date : Date}
    (near : approached row = some date) :
    row.status = .complete ∧ row.expiresOn = some date ∨
      (row.status = .notStarted ∨ row.status = .inProgress) ∧ row.dueOn = some date := by
  unfold approached at near
  split at near
  · next status => exact .inl ⟨status, near⟩
  · next status => exact .inr ⟨.inl status, near⟩
  · next status => exact .inr ⟨.inr status, near⟩
  · cases near

theorem approachingKind_ne_overdue (row : RequirementInstance) :
    approachingKind row ≠ .overdue := by
  unfold approachingKind
  split <;> simp

theorem justOverdue_iff {row : RequirementInstance} :
    justOverdue asOf row = true ↔
      (row.expiresOn = some asOf.previous ∨ row.dueOn = some asOf.previous) ∧
        ¬(row.status = .complete ∧ ∃ date, row.expiresOn = some date ∧ asOf ≤ date) := by
  unfold justOverdue
  cases row.expiresOn <;> simp [imp_iff_not_or]

theorem findDueReminders_dated {entry : Entry}
    (found : entry ∈ findDueReminders tenant church asOf) : entry.dueDate.isSome = true := by
  rcases List.mem_append.mp found with approaching | overdue
  · obtain ⟨_, ⟨date, near, _⟩, _, due⟩ := mem_approachingEntries.mp approaching
    rw [due, effectiveDueDate_isSome]
    rcases approached_some near with ⟨_, dated⟩ | ⟨_, dated⟩
    · exact .inl (by simp [dated])
    · exact .inr (by simp [dated])
  · obtain ⟨_, passed, _, _, due⟩ := mem_overdueEntries.mp overdue
    rw [due, effectiveDueDate_isSome]
    rcases (justOverdue_iff.mp passed).1 with dated | dated
    · exact .inl (by simp [dated])
    · exact .inr (by simp [dated])

/-! ## Claiming -/

theorem raiseAll_nil (rows : List ReminderLog) : raiseAll rows [] = (rows, []) := rfl

theorem raiseAll_concat (rows : List ReminderLog) (candidates : List Entry) (entry : Entry) :
    raiseAll rows (candidates ++ [entry]) =
      match raiseReminder (raiseAll rows candidates).1 entry with
      | some after => (after, (raiseAll rows candidates).2 ++ [entry])
      | none => raiseAll rows candidates := by
  unfold raiseAll
  rw [List.foldl_append]
  rfl

/-- What a round of claims leaves: a row for each entry claimed, which had none before, and so a
row for every candidate that carries a date. -/
theorem raiseAll_spec (rows : List ReminderLog) (candidates : List Entry) :
    (raiseAll rows candidates).1 = rows ++ (raiseAll rows candidates).2.map (·.log) ∧
      (∀ entry ∈ (raiseAll rows candidates).2, entry ∈ candidates ∧
        (entry.dueDate.isSome = true → entry.log ∉ rows)) ∧
      ∀ entry ∈ candidates, entry.dueDate.isSome = true →
        entry.log ∈ (raiseAll rows candidates).1 := by
  induction candidates using List.reverseRecOn with
  | nil => simp [raiseAll_nil]
  | append_singleton candidates entry inductionHypothesis =>
      obtain ⟨written, claimed, kept⟩ := inductionHypothesis
      rw [raiseAll_concat]
      cases raised : raiseReminder (raiseAll rows candidates).1 entry with
      | some after =>
          have appended := ReminderLog.create_keeps raised
          dsimp only
          refine ⟨?_, ?_, ?_⟩
          · rw [appended, List.map_append, ← List.append_assoc, ← written]
            rfl
          · intro other listed
            rcases List.mem_append.mp listed with old | new
            · exact ⟨List.mem_append_left _ (claimed other old).1, (claimed other old).2⟩
            · rw [List.mem_singleton] at new
              subst new
              refine ⟨by simp, ?_⟩
              intro dated present
              have fresh := ((ReminderLog.create_eq_some dated).mp raised).1
              exact fresh (written ▸ List.mem_append_left _ present)
          · intro other listed dated
            rw [appended]
            rcases List.mem_append.mp listed with old | new
            · exact List.mem_append_left _ (kept other old dated)
            · rw [List.mem_singleton] at new
              subst new
              simp
      | none =>
          refine ⟨written, ?_, ?_⟩
          · intro other listed
            exact ⟨List.mem_append_left _ (claimed other listed).1, (claimed other listed).2⟩
          · intro other listed dated
            rcases List.mem_append.mp listed with old | new
            · exact kept other old dated
            · rw [List.mem_singleton] at new
              subst new
              by_contra absent
              have made := (ReminderLog.create_eq_some dated).mpr ⟨absent, rfl⟩
              unfold raiseReminder at raised
              rw [made] at raised
              cases raised

theorem mem_raiseAll_log {rows : List ReminderLog} {candidates : List Entry}
    (dated : ∀ entry ∈ candidates, entry.dueDate.isSome = true) {row : ReminderLog} :
    row ∈ (raiseAll rows candidates).2.map (·.log) ↔
      row ∈ candidates.map (·.log) ∧ row ∉ rows := by
  obtain ⟨written, claimed, kept⟩ := raiseAll_spec rows candidates
  constructor
  · intro listed
    obtain ⟨entry, claims, rfl⟩ := List.mem_map.mp listed
    obtain ⟨found, fresh⟩ := claimed entry claims
    exact ⟨List.mem_map_of_mem found, fresh (dated entry found)⟩
  · rintro ⟨listed, fresh⟩
    obtain ⟨entry, found, rfl⟩ := List.mem_map.mp listed
    have present := kept entry found (dated entry found)
    rw [written] at present
    exact (List.mem_append.mp present).resolve_left fresh

/-- What a pass newly claims. -/
def claimedBy (tenant : Tenant) (church : Church) (pass : Pass) (outbox : Outbox) : List Entry :=
  (raiseAll outbox.reminders (findDueReminders tenant church pass.asOf)).2

theorem mem_claimedBy_log {pass : Pass} {outbox : Outbox} {row : ReminderLog} :
    row ∈ (claimedBy tenant church pass outbox).map (·.log) ↔
      row ∈ (findDueReminders tenant church pass.asOf).map (·.log) ∧ row ∉ outbox.reminders :=
  mem_raiseAll_log fun _ found => findDueReminders_dated found

theorem processTenantReminders_reminders (pass : Pass) (outbox : Outbox) :
    (processTenantReminders tenant church pass outbox).1.reminders =
      outbox.reminders ++ (claimedBy tenant church pass outbox).map (·.log) :=
  (raiseAll_spec outbox.reminders (findDueReminders tenant church pass.asOf)).1

theorem processTenantReminders_emails (pass : Pass) (outbox : Outbox) :
    (processTenantReminders tenant church pass outbox).1.emails =
      (sendDigest tenant church pass.delivery outbox.emails
        (claimedBy tenant church pass outbox)
        (pendingSummary church pass.created pass.now)).1 := rfl

/-! ## The digest -/

theorem digest_entries (recipients : List String) (entries : List Entry)
    (backlog : PendingSummary) :
    (digest tenant recipients entries backlog).entries.Perm entries := by
  unfold digest EmailLog.entries
  dsimp only
  refine ((List.perm_insertionSort upcomingBefore _).append_left _).trans ?_
  have split := List.filter_append_perm (fun entry : Entry => entry.kind == .overdue) entries
  simpa [bne] using split

theorem sendDigest_emails (delivery : Delivery) (emails : List EmailLog) (entries : List Entry)
    (backlog : PendingSummary) :
    (sendDigest tenant church delivery emails entries backlog).1 =
      if (entries = [] ∧ backlog.stale = 0) ∨ tenant.notificationsEnabled = false ∨
          adminRecipients church = [] then emails
      else
        emails ++ [delivery.logged (digest tenant (adminRecipients church) entries backlog)] := by
  unfold sendDigest
  by_cases silent : entries = [] ∧ backlog.stale = 0
  · simp [silent]
  · cases enabled : tenant.notificationsEnabled
    · simp
    · by_cases nobody : adminRecipients church = []
      · simp [nobody]
      · simp [silent, nobody]

end VolunteerScreening.Notifications
