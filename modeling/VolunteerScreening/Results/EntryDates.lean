import VolunteerScreening.Results.LostReminders

/-!
# Which date an entry carries

A search goes by one date of an instance and its entry shows the earlier of the
two, so an entry is dated right unless the other date comes first.  Whatever
the dates, no reminder is found twice.
-/

namespace VolunteerScreening.Notifications

open Calendar Org Requirements Tenants

def Entry.key (entry : Entry) : (Nat × Pk) × ReminderKind × Nat :=
  ((entry.loaded.volunteerId, entry.loaded.definition.pk), entry.kind, entry.leadDays)

/-- Every upcoming entry carries the date its lead time reaches and every overdue one the day
before, and no reminder is there twice. -/
structure DatedRight (tenant : Tenant) (church : Church) (asOf : Date) : Prop where
  upcoming : ∀ entry ∈ findDueReminders tenant church asOf, entry.kind ≠ .overdue →
    entry.dueDate = some (asOf.addDays entry.leadDays)
  overdue : ∀ entry ∈ findDueReminders tenant church asOf, entry.kind = .overdue →
    entry.dueDate = some asOf.previous
  distinct : ((findDueReminders tenant church asOf).map Entry.key).Nodup

/-- A search goes by this date of an instance: the one a lead time reaches, or the one that has just
passed. -/
def Matched (tenant : Tenant) (asOf : Date) (row : RequirementInstance) (date : Date) : Prop :=
  (approached row = some date ∧ ∃ days ∈ tenant.leadDays, date = asOf.addDays days) ∨
    (justOverdue asOf row = true ∧ date = asOf.previous)

/-- No instance has a date before the one it is found by. -/
def FoundByEarliest (tenant : Tenant) (church : Church) (asOf : Date) : Prop :=
  ∀ loaded ∈ remindable church, ∀ date, Matched tenant asOf loaded.row date →
    ∀ other, loaded.row.expiresOn = some other ∨ loaded.row.dueOn = some other → date ≤ other

section Dates

variable {tenant : Tenant} {church : Church} {asOf : Date} {row : RequirementInstance} {date : Date}

theorem effectiveDueDate_eq_iff (dated : row.expiresOn = some date ∨ row.dueOn = some date) :
    row.effectiveDueDate = some date ↔
      ∀ other, row.expiresOn = some other ∨ row.dueOn = some other → date ≤ other := by
  unfold RequirementInstance.effectiveDueDate
  cases expires : row.expiresOn with
  | none =>
      cases due : row.dueOn with
      | none => simp [expires, due] at dated
      | some deadline =>
          obtain rfl : deadline = date := by simpa [expires, due] using dated
          simp
  | some expiry =>
      cases due : row.dueOn with
      | none =>
          obtain rfl : expiry = date := by simpa [expires, due] using dated
          simp
      | some deadline =>
          simp only [expires, due, Option.some.injEq] at dated
          simp only [Option.some.injEq]
          constructor
          · intro earliest
            rw [← earliest]
            rintro other (rfl | rfl)
            · exact min_le_left _ _
            · exact min_le_right _ _
          · intro first
            rcases dated with rfl | rfl
            · exact min_eq_left (first _ (.inr rfl))
            · exact min_eq_right (first _ (.inl rfl))

theorem dated_of_approached (near : approached row = some date) :
    row.expiresOn = some date ∨ row.dueOn = some date := by
  rcases approached_some near with ⟨_, expires⟩ | ⟨_, due⟩
  · exact .inl expires
  · exact .inr due

theorem leadTo_of_mem {days : Nat} (listed : days ∈ tenant.leadDays) :
    leadTo tenant asOf (asOf.addDays days) = some days := by
  have reached : (leadTo tenant asOf (asOf.addDays days)).isSome = true := by
    unfold leadTo targets
    rw [Option.isSome_map, List.find?_isSome]
    exact ⟨(asOf.addDays days, days), List.mem_map.mpr ⟨days, listed, rfl⟩, by simp⟩
  obtain ⟨found, lead⟩ := Option.isSome_iff_exists.mp reached
  rw [lead, asOf.addDays_injective (leadTo_some lead).2]

theorem upcoming_dated_iff :
    (∀ entry ∈ approachingEntries tenant church asOf,
        entry.dueDate = some (asOf.addDays entry.leadDays)) ↔
      ∀ loaded ∈ remindable church, ∀ days ∈ tenant.leadDays,
        approached loaded.row = some (asOf.addDays days) →
        ∀ other, loaded.row.expiresOn = some other ∨ loaded.row.dueOn = some other →
          asOf.addDays days ≤ other := by
  constructor
  · intro right loaded listed days lead near
    have found : (⟨loaded, approachingKind loaded.row, days, loaded.row.effectiveDueDate⟩ : Entry) ∈
        approachingEntries tenant church asOf :=
      mem_approachingEntries.mpr ⟨listed, ⟨_, near, leadTo_of_mem lead⟩, rfl, rfl⟩
    exact (effectiveDueDate_eq_iff (dated_of_approached near)).mp (right _ found)
  · intro earliest entry found
    obtain ⟨listed, ⟨date, near, lead⟩, _, due⟩ := mem_approachingEntries.mp found
    obtain ⟨leads, rfl⟩ := leadTo_some lead
    rw [due]
    exact (effectiveDueDate_eq_iff (dated_of_approached near)).mpr
      (earliest _ listed _ leads near)

theorem overdue_dated_iff :
    (∀ entry ∈ overdueEntries church asOf, entry.dueDate = some asOf.previous) ↔
      ∀ loaded ∈ remindable church, justOverdue asOf loaded.row = true →
        ∀ other, loaded.row.expiresOn = some other ∨ loaded.row.dueOn = some other →
          asOf.previous ≤ other := by
  constructor
  · intro right loaded listed passed
    have found : (⟨loaded, .overdue, 0, loaded.row.effectiveDueDate⟩ : Entry) ∈
        overdueEntries church asOf := mem_overdueEntries.mpr ⟨listed, passed, rfl, rfl, rfl⟩
    exact (effectiveDueDate_eq_iff (justOverdue_iff.mp passed).1).mp (right _ found)
  · intro earliest entry found
    obtain ⟨listed, passed, _, _, due⟩ := mem_overdueEntries.mp found
    rw [due]
    exact (effectiveDueDate_eq_iff (justOverdue_iff.mp passed).1).mpr (earliest _ listed passed)

end Dates

section Distinct

variable {tenant : Tenant} {church : Church} {asOf : Date}

theorem loaded_of_file {definition : RequirementDefinition} {placed : VolunteerFile × Nat}
    {loaded : LoadedInstance}
    (found : (match placed.1.requirementInstances definition.pk with
      | none => none
      | some row =>
          if placed.1.volunteer.isActive ∧ row.status ≠ .notApplicable ∧ row.status ≠ .waived then
            some (⟨placed.2, placed.1.volunteer, definition, row⟩ : LoadedInstance)
          else none) = some loaded) :
    loaded.volunteerId = placed.2 ∧ loaded.definition = definition := by
  split at found
  · cases found
  · split at found
    · cases found
      exact ⟨rfl, rfl⟩
    · cases found

theorem remindable_distinct (church : Church) :
    (remindable church).Pairwise fun first second =>
      (first.volunteerId, first.definition.pk) ≠ (second.volunteerId, second.definition.pk) := by
  unfold remindable
  rw [List.pairwise_flatMap]
  constructor
  · intro definition _
    have keys : (church.files.zipIdx.map Prod.snd).Nodup := by
      rw [List.zipIdx_map_snd]
      exact List.nodup_range'
    refine List.pairwise_filterMap.mpr ((List.pairwise_map.mp keys).imp ?_)
    intro first second apart loaded fromFirst loaded' fromSecond same
    refine apart ?_
    rw [← (loaded_of_file fromFirst).1, ← (loaded_of_file fromSecond).1]
    exact congrArg Prod.fst same
  · refine (List.pairwise_map.mp church.catalogue.active_uniquePk).imp ?_
    intro first second apart loaded fromFirst loaded' fromSecond same
    refine apart ?_
    obtain ⟨_, _, made⟩ := List.mem_filterMap.mp fromFirst
    obtain ⟨_, _, made'⟩ := List.mem_filterMap.mp fromSecond
    rw [← (loaded_of_file made).2, ← (loaded_of_file made').2]
    exact congrArg Prod.snd same

theorem findDueReminders_distinct :
    ((findDueReminders tenant church asOf).map Entry.key).Nodup := by
  have loadedOnce := remindable_distinct church
  unfold findDueReminders
  rw [List.map_append, List.nodup_append]
  refine ⟨?_, ?_, ?_⟩
  · refine List.pairwise_map.mpr (List.pairwise_filterMap.mpr (loadedOnce.imp ?_))
    intro first second apart entry made entry' made' same
    obtain ⟨_, _, rfl⟩ := Option.map_eq_some_iff.mp made
    obtain ⟨_, _, rfl⟩ := Option.map_eq_some_iff.mp made'
    exact apart (congrArg Prod.fst same)
  · refine List.pairwise_map.mpr (List.pairwise_map.mpr ((loadedOnce.filter _).imp ?_))
    intro first second apart same
    exact apart (congrArg Prod.fst same)
  · intro key near key' passed same
    obtain ⟨entry, found, rfl⟩ := List.mem_map.mp near
    obtain ⟨entry', found', rfl⟩ := List.mem_map.mp passed
    obtain ⟨_, _, kind, _⟩ := mem_approachingEntries.mp found
    obtain ⟨_, _, kind', _⟩ := mem_overdueEntries.mp found'
    have sameKind : entry.kind = entry'.kind := congrArg (fun key => key.2.1) same
    rw [kind, kind'] at sameKind
    exact approachingKind_ne_overdue entry.loaded.row sameKind

end Distinct

/-- The entries of a search are dated right exactly when every instance is found by the earlier of
its dates. -/
theorem entries_dated_right_iff (tenant : Tenant) (church : Church) (asOf : Date) :
    DatedRight tenant church asOf ↔ FoundByEarliest tenant church asOf := by
  have upcoming := @upcoming_dated_iff tenant church asOf
  have overdue := @overdue_dated_iff church asOf
  constructor
  · intro right loaded listed date matched
    rcases matched with ⟨near, days, lead, rfl⟩ | ⟨passed, rfl⟩
    · refine upcoming.mp ?_ loaded listed days lead near
      intro entry found
      refine right.upcoming entry (List.mem_append_left _ found) ?_
      rw [(mem_approachingEntries.mp found).2.2.1]
      exact approachingKind_ne_overdue _
    · refine overdue.mp ?_ loaded listed passed
      intro entry found
      exact right.overdue entry (List.mem_append_right _ found)
        (mem_overdueEntries.mp found).2.2.1
  · intro earliest
    refine ⟨?_, ?_, findDueReminders_distinct⟩
    · intro entry found notOverdue
      rcases List.mem_append.mp found with near | passed
      · refine upcoming.mpr ?_ entry near
        intro loaded listed days lead reached
        exact earliest loaded listed _ (.inl ⟨reached, days, lead, rfl⟩)
      · exact absurd (mem_overdueEntries.mp passed).2.2.1 notOverdue
    · intro entry found isOverdue
      rcases List.mem_append.mp found with near | passed
      · rw [(mem_approachingEntries.mp near).2.2.1] at isOverdue
        exact absurd isOverdue (approachingKind_ne_overdue _)
      · refine overdue.mpr ?_ entry passed
        intro loaded listed ranOut
        exact earliest loaded listed _ (.inr ⟨ranOut, rfl⟩)

def december (number : Nat) : Date := (Sample.january number).addMonths (-1)

/-- A volunteer who turned 18 in October, and whose early record check ran out while no role asked
for it: switched on again, it has a deadline beside the expiry of its last life. -/
def twoDated : VolunteerFile :=
  { VolunteerFile.opened { Sample.adult with
      birthYear := some 2007
      birthMonth := some ((december 0).addMonths (-2)).month } with
    requirementInstances := fun definition =>
      if definition = 9 then
        some { RequirementInstance.fresh with
          completedOn := some ((december 19).addMonths (-36))
          expiresOn := some (december 19)
          dueOn := some (Sample.january 0)
          dueReason := "Turned 18 (from October 2025); the policy allows three months to submit " ++
            "a criminal record check." }
      else none }

/-- The entry found by the deadline, a week away, shows the expiry. -/
theorem entry_dated_by_expiry :
    (findDueReminders Sample.tenant (Sample.church Sample.recordCheckOnly [twoDated])
        (december 24)).map (fun entry => (entry.key, entry.dueDate)) =
      [(((0, 9), .turning18, 7), some (december 19))] ∧
    (december 24).addDays 7 = Sample.january 0 := by
  constructor <;> decide +kernel

end VolunteerScreening.Notifications
