import VolunteerScreening.Transactions

/-!
# What the queue keeps of an instance

An item of the queue keeps what the instance it covers was before the entry, from
the entry on.
-/

namespace VolunteerScreening

open Calendar Documents Fallible Org Requirements Review

inductive Keeps (file : VolunteerFile) (item : ReviewItem) : Prop where
  | said {earlier : ReviewItem} (listed : earlier ∈ file.reviewItems)
      (same : earlier.said = item.said)
  | snapshot {pk : Pk} {row : RequirementInstance} (covers : item.coveredInstance = some pk)
      (there : file.requirementInstances pk = some row)
      (kept : item.beforeState.requirement = some (Requirements.snapshot row))
  | nothing (blank : item.beforeState.requirement = none)

/-- Where an item's deadline comes from: an earlier item says the same, the instance it covers
had it, or there is none. -/
inductive Remembers (file : VolunteerFile) (item : ReviewItem) : Prop where
  | said {earlier : ReviewItem} (listed : earlier ∈ file.reviewItems)
      (same : earlier.said = item.said)
  | had {pk : Pk} {row : RequirementInstance} (covers : item.coveredInstance = some pk)
      (there : file.requirementInstances pk = some row)
      (sameDate : item.beforeState.dueOn = row.dueOn)
      (sameReason : item.beforeState.dueReason = row.dueReason)
  | undated (undated : item.beforeState.dueOn = none)

theorem Review.ReviewItem.beforeState_of_said {first second : ReviewItem}
    (same : first.said = second.said) : first.beforeState = second.beforeState :=
  congrArg Entry.beforeState same

theorem Review.ReviewItem.coveredInstance_of_said {first second : ReviewItem}
    (same : first.said = second.said) : first.coveredInstance = second.coveredInstance := by
  have entity : first.entity = second.entity := congrArg Entry.entity same
  have affected : first.affectedEntity = second.affectedEntity :=
    congrArg Entry.affectedEntity same
  unfold ReviewItem.coveredInstance
  rw [entity, affected]

theorem mem_modify_said {items : List ReviewItem} {position : Nat}
    {change : ReviewItem → ReviewItem} {item : ReviewItem}
    (listed : item ∈ items.modify position change)
    (keeps : ∀ item, (change item).said = item.said) :
    ∃ earlier ∈ items, earlier.said = item.said := by
  obtain ⟨other, found⟩ := List.mem_iff_getElem?.mp listed
  rw [List.getElem?_modify] at found
  obtain ⟨earlier, there, written⟩ := Option.map_eq_some_iff.mp found
  refine ⟨earlier, List.mem_of_getElem? there, ?_⟩
  rw [← written]
  split
  · exact (keeps earlier).symm
  · rfl

theorem mem_set_said {items : List ReviewItem} {position : Nat} {before after item : ReviewItem}
    (found : items[position]? = some before) (keeps : after.said = before.said)
    (listed : item ∈ items.set position after) : ∃ earlier ∈ items, earlier.said = item.said := by
  obtain there | rfl := List.mem_or_eq_of_mem_set listed
  · exact ⟨item, there, rfl⟩
  · exact ⟨before, List.mem_of_getElem? found, keeps.symm⟩

theorem mem_insertItem {ambient : Ambient} {entry : Entry} {file : VolunteerFile}
    {items : List ReviewItem} {item : ReviewItem}
    (listed : item ∈ insertItem ambient entry file items) :
    item = newItem ambient entry file ∨ ∃ earlier ∈ items, earlier.said = item.said := by
  unfold insertItem at listed
  by_cases refused : items.any (isOpenOn entry.entity) = true
  · rw [if_pos refused] at listed
    exact .inr ⟨item, listed, rfl⟩
  · rw [if_neg refused] at listed
    rcases List.mem_append.mp listed with old | new
    · cases found : replaced entry.entity file with
      | none =>
          rw [found] at old
          exact .inr ⟨item, old, rfl⟩
      | some position =>
          rw [found] at old
          dsimp only at old
          exact .inr (mem_modify_said old fun _ => rfl)
    · exact .inl (List.mem_singleton.mp new)

theorem mem_queueAfter {ambient : Ambient} {entry : Entry} {file : VolunteerFile}
    {item : ReviewItem} (listed : item ∈ queueAfter ambient entry file) :
    item = newItem ambient entry file ∨ ∃ earlier ∈ file.reviewItems, earlier.said = item.said := by
  cases review : ambient.actor.needsReview with
  | false =>
      rw [queueAfter_unreviewed review] at listed
      exact .inr ⟨item, listed, rfl⟩
  | true =>
      unfold queueAfter at listed
      rw [review] at listed
      obtain new | ⟨closed, there, same⟩ := mem_insertItem listed
      · exact .inl new
      · cases found : replaced entry.entity file with
        | none =>
            rw [found] at there
            exact .inr ⟨closed, there, same⟩
        | some position =>
            rw [found] at there
            dsimp only at there
            obtain ⟨earlier, there, same'⟩ := mem_modify_said there fun _ => rfl
            exact .inr ⟨earlier, there, same'.trans same⟩

theorem keeps_entered {ambient : Ambient} {entry : Entry} {file written : VolunteerFile}
    {item : ReviewItem} (same : written.reviewItems = file.reviewItems)
    (new : Keeps file (newItem ambient entry written))
    (listed : item ∈ queueAfter ambient entry written) : Keeps file item := by
  obtain rfl | ⟨earlier, there, unchanged⟩ := mem_queueAfter listed
  · exact new
  · exact .said (same ▸ there) unchanged

theorem keeps_move {ambient : Ambient} {file : VolunteerFile} {after : List ReviewItem}
    {item : ReviewItem} (move : QueueMove ambient file.reviewItems none after)
    (listed : item ∈ after) : Keeps file item := by
  cases move with
  | kept => exact .said listed rfl
  | decided found outlasts _ =>
      obtain ⟨_, there, same⟩ := mem_set_said found outlasts.entry listed
      exact .said there same

/-- A record check's entry keeps the instance that counts. -/
theorem keeps_check {ambient : Ambient} (file written : VolunteerFile) :
    Keeps file (newItem ambient (checkEntry ambient.settings file) written) := by
  cases counts : crcInstanceFor ambient.settings file with
  | none =>
      refine .nothing ?_
      simp [newItem, checkEntry, beforeCheck, counts]
  | some pk =>
      obtain ⟨_, _, _, _, present⟩ := crcInstanceFor_some counts
      obtain ⟨row, there⟩ := Option.isSome_iff_exists.mp present
      refine @Keeps.snapshot _ _ pk row ?_ there ?_
      · simp [newItem, checkEntry, ReviewItem.coveredInstance, counts]
      · simp [newItem, checkEntry, beforeCheck, counts, there]

theorem perform_keeps {ambient : Ambient} {operation : Operation} {file : VolunteerFile}
    {work : Work} (success : perform ambient operation file = .ok work) {item : ReviewItem}
    (listed : item ∈ work.file.reviewItems) : Keeps file item := by
  cases operation with
  | markRequirementComplete =>
      obtain ⟨_, written, rfl⟩ := map_eq_ok_iff.mp success
      obtain ⟨_, row, _, there, _, _, rfl⟩ := markRequirementComplete_ok written
      dsimp only [Work.start] at listed
      rw [refreshDependents_eq] at listed
      exact keeps_entered rfl (.snapshot rfl there rfl) listed
  | waiveRequirement =>
      obtain ⟨_, written, rfl⟩ := map_eq_ok_iff.mp success
      obtain ⟨_, row, _, there, _, rfl⟩ := waiveRequirement_ok written
      dsimp only [Work.start] at listed
      rw [refreshDependents_eq] at listed
      exact keeps_entered rfl (.snapshot rfl there rfl) listed
  | recordCrc report =>
      obtain ⟨_, _, written, blocked, rfl⟩ := recordCrc_ok success
      refine keeps_entered ?_ (keeps_check file written.file) listed
      have checked : (checkWritten ambient report file).file.reviewItems = file.reviewItems := by
        rw [checkWritten_eq]
        rfl
      obtain ⟨rfl, _⟩ | ⟨_, _, _, rfl⟩ := setBlockFor_ok blocked <;> exact checked
  | recordConvictions check entries =>
      obtain ⟨created, _, _, rfl, rfl⟩ := recordConvictions_ok success
      dsimp only at listed
      split at listed
      · exact .said listed rfl
      · exact keeps_entered (convictionsWritten_reviewItems ambient created file)
          (.nothing rfl) listed
  | recordDiscretionaryOverride =>
      obtain ⟨_, written, _, decided, rfl, rfl⟩ := recordDiscretionaryOverride_ok success
      refine keeps_entered ?_ (.nothing rfl) listed
      obtain withdrawn | ⟨_, rfl⟩ | ⟨_, rfl⟩ := applyDecision_ok decided
      · obtain ⟨_, rfl⟩ := withdraw_ok withdrawn
        rfl
      · rfl
      · rfl
  | storeDocument =>
      obtain ⟨_, written, rfl⟩ := map_eq_ok_iff.mp success
      obtain ⟨document, stored, completed, recorded, rfl⟩ := storeDocument_ok written
      refine keeps_entered ?_ (.nothing rfl) listed
      obtain rfl | ⟨_, _, _, _, rfl⟩ := recorded
      · rfl
      · rw [refreshDependents_eq]
        rfl
  | _ => exact keeps_move (perform_queueMove success) listed

/-- Whatever a transaction is, its items keep what one that the file had keeps, or what the file
then holds. -/
theorem Move.after_keeps {file : VolunteerFile} {move : Move} {item : ReviewItem}
    (listed : item ∈ (move.after file).reviewItems) : Keeps file item := by
  cases move with
  | transact request =>
      obtain same | ⟨work, _, success, written⟩ := transact_cases request file
      · rw [same] at listed
        exact .said listed rfl
      · rw [written] at listed
        exact perform_keeps success listed
  | sync settings asOf => exact .said listed rfl
  | sweep settings asOf write planned =>
      rw [after, Core.sweepStep_reviewItems] at listed
      exact .said listed rfl

theorem Keeps.remembers {file : VolunteerFile} {item : ReviewItem} (keeps : Keeps file item) :
    Remembers file item := by
  cases keeps with
  | said there same => exact .said there same
  | snapshot covers there kept =>
      refine .had covers there ?_ ?_
      · simp [Snapshot.dueOn, kept, Requirements.snapshot]
      · simp [Snapshot.dueReason, kept, Requirements.snapshot]
  | nothing blank => exact .undated (by simp [Snapshot.dueOn, blank])

end VolunteerScreening
