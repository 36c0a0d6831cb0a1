import VolunteerScreening.Library.Worklist
import VolunteerScreening.Review.Decisions

/-!
# The queue as a worklist

An item is about the row it covers.  Opening one closes whatever is open on that
row, and a decision closes the item it is taken on, so at most one item is open
on each row.
-/

namespace VolunteerScreening.Review

open Calendar Fallible Org Requirements

def ReviewItem.said (item : ReviewItem) : Entry :=
  ⟨item.kind, item.entity, item.entityLabel, item.beforeState, item.affectedEntity⟩

def reviewQueue : Worklist ReviewItem Entry Entity :=
  ⟨ReviewItem.isOpen, ReviewItem.said, Entry.entity⟩

def superseded (now replacement : Nat) (item : ReviewItem) : ReviewItem :=
  { item.closed .superseded none "" now with supersededBy := some replacement }

theorem superseded_closes (now replacement : Nat) :
    reviewQueue.Closes (superseded now replacement) := ⟨fun _ => rfl, fun _ => rfl⟩

theorem isOpenOn_eq (entity : Entity) (item : ReviewItem) :
    isOpenOn entity item = reviewQueue.isOpenUnder entity item := rfl

theorem isOpenOn_iff {entity : Entity} {item : ReviewItem} :
    isOpenOn entity item = true ↔ item.isOpen = true ∧ item.entity = entity := by
  simp [isOpenOn]

section Posting

variable {ambient : Ambient} {entry : Entry} {file : VolunteerFile}

/-- Where one item at most is open on each row, an entry that needs review closes the open item
on its row and adds its own: the table never refuses it. -/
theorem queueAfter_eq_post (sole : reviewQueue.SoleOpen file.reviewItems)
    (review : ambient.actor.needsReview = true) :
    queueAfter ambient entry file =
      reviewQueue.post (superseded ambient.now file.reviewItems.length)
        (newItem ambient entry file) file.reviewItems := by
  unfold queueAfter insertItem Worklist.post
  simp only [review, Bool.not_true, Bool.false_eq_true, if_false]
  cases found : replaced entry.entity file with
  | none =>
      have free : ∀ item ∈ file.reviewItems, isOpenOn entry.entity item = false := by
        simpa [replaced] using found
      have unopened : file.reviewItems.any (isOpenOn entry.entity) = false := by
        simpa using free
      simp only [unopened, Bool.false_eq_true, if_false]
      congr 1
      symm
      unfold Worklist.closeUnder
      refine (List.map_congr_left ?_).trans (List.map_id _)
      intro item listed
      have apart := free item listed
      rw [isOpenOn_eq] at apart
      show (if reviewQueue.isOpenUnder entry.entity item = true then _ else item) = item
      rw [apart]
      rfl
  | some position =>
      obtain ⟨inQueue, isOpen, _⟩ := List.findIdx?_eq_some_iff_getElem.mp found
      have listed : file.reviewItems[position]? = some file.reviewItems[position] :=
        List.getElem?_eq_getElem inQueue
      obtain ⟨opened, onRow⟩ := isOpenOn_iff.mp isOpen
      -- no other item is open on the row
      have alone : ∀ (other : Nat) (item : ReviewItem), file.reviewItems[other]? = some item →
          isOpenOn entry.entity item = true → other = position := by
        intro other item there openThere
        obtain ⟨alsoOpen, alsoOn⟩ := isOpenOn_iff.mp openThere
        exact sole other position item _ there listed alsoOpen opened (alsoOn.trans onRow.symm)
      have unopened : (file.reviewItems.modify position fun item =>
          item.closed .superseded none "" ambient.now).any (isOpenOn entry.entity) = false := by
        rw [List.any_eq_false]
        intro item member
        obtain ⟨other, there⟩ := List.mem_iff_getElem?.mp member
        rw [List.getElem?_modify] at there
        by_cases same : position = other
        · subst same
          rw [listed] at there
          obtain rfl : _ = item := by simpa using there
          simp [isOpenOn, ReviewItem.isOpen, ReviewItem.closed]
        · intro openThere
          refine same (alone other item ?_ openThere).symm
          simpa [same] using there
      simp only [unopened, Bool.false_eq_true, if_false]
      congr 1
      apply List.ext_getElem?
      intro other
      rw [Worklist.closeUnder_getElem?, List.getElem?_modify, List.getElem?_modify]
      by_cases same : position = other
      · subst same
        rw [listed]
        have under : reviewQueue.isOpenUnder entry.entity file.reviewItems[position] = true :=
          isOpen
        show _ = some (if reviewQueue.isOpenUnder entry.entity _ = true then _ else _)
        rw [if_pos under]
        simp [superseded]
      · cases there : file.reviewItems[other]? with
        | none => simp
        | some item =>
            have shut : reviewQueue.isOpenUnder entry.entity item = false := by
              rw [← isOpenOn_eq]
              by_contra openThere
              exact same (alone other item there (by simpa using openThere)).symm
            show _ = some (if reviewQueue.isOpenUnder entry.entity item = true then _ else item)
            rw [shut]
            simp [same]

theorem queueAfter_unreviewed (trusted : ambient.actor.needsReview = false) :
    queueAfter ambient entry file = file.reviewItems := by
  unfold queueAfter
  rw [trusted]
  rfl

theorem queueAfter_advances (sole : reviewQueue.SoleOpen file.reviewItems) :
    reviewQueue.Advances file.reviewItems (queueAfter ambient entry file) ∧
      reviewQueue.SoleOpen (queueAfter ambient entry file) := by
  cases review : ambient.actor.needsReview
  · rw [queueAfter_unreviewed review]
    exact ⟨.refl _, sole⟩
  · rw [queueAfter_eq_post sole review]
    exact ⟨Worklist.advances_post (superseded_closes _ _), sole.post (superseded_closes _ _)⟩

end Posting

theorem closed_outlasts (item : ReviewItem) {status : ReviewStatus} (decided : status ≠ .pending)
    (reviewer : Option Core.User) (reason : String) (now : Nat) :
    reviewQueue.Outlasts item (item.closed status reviewer reason now) ∧
      reviewQueue.isOpen (item.closed status reviewer reason now) = false := by
  have shut : (item.closed status reviewer reason now).isOpen = false := by
    simpa [ReviewItem.isOpen, ReviewItem.closed] using decided
  exact ⟨⟨rfl, fun _ => shut⟩, shut⟩

/-- What one operation does to the queue: nothing, an entry on a row, or a decision. -/
inductive QueueMove (ambient : Ambient) (before : List ReviewItem) :
    Option Entity → List ReviewItem → Prop where
  | kept : QueueMove ambient before none before
  | entered {entity : Entity} {after : List ReviewItem} (entry : Entry) (written : VolunteerFile)
      (onRow : entity = entry.entity) (same : written.reviewItems = before)
      (queued : after = queueAfter ambient entry written) :
      QueueMove ambient before (some entity) after
  | decided {position : Nat} {item after : ReviewItem} (listed : before[position]? = some item)
      (outlasts : reviewQueue.Outlasts item after) (shut : reviewQueue.isOpen after = false) :
      QueueMove ambient before none (before.set position after)

namespace QueueMove

variable {ambient : Ambient} {before after : List ReviewItem} {row : Option Entity}

theorem advances (move : QueueMove ambient before row after)
    (sole : reviewQueue.SoleOpen before) :
    reviewQueue.Advances before after ∧ reviewQueue.SoleOpen after := by
  cases move with
  | kept => exact ⟨.refl before, sole⟩
  | entered entry written onRow same queued =>
      subst same queued
      exact queueAfter_advances sole
  | decided listed outlasts shut => exact ⟨Worklist.advances_set listed outlasts, sole.set shut⟩

/-- An entry that needs review leaves nothing earlier open on its row. -/
theorem supersedes {entity : Entity} (move : QueueMove ambient before (some entity) after)
    (sole : reviewQueue.SoleOpen before) (review : ambient.actor.needsReview = true)
    {position : Nat} {item later : ReviewItem} (listed : before[position]? = some item)
    (onRow : item.entity = entity) (found : after[position]? = some later) :
    later.isOpen = false := by
  cases move with
  | entered entry written entryRow same queued =>
      subst same queued
      rw [queueAfter_eq_post sole review] at found
      have sameKey : reviewQueue.key (reviewQueue.entry item) =
          reviewQueue.key (reviewQueue.entry (newItem ambient entry written)) :=
        onRow.trans entryRow
      exact Worklist.closed_of_post (superseded_closes _ _) listed sameKey found

end QueueMove

/-! ## The handlers' own tests -/

def hasMovedOn (item : ReviewItem) (file : VolunteerFile) : Bool :=
  match item.kind with
  | .requirementCompletion =>
      (instanceFrom item file).all fun pk =>
        (file.requirementInstances pk).map (·.status) != some .complete
  | .document => (instanceFrom item file).isNone
  | .crc =>
      match item.entity with
      | .crcRecord check =>
          (file.crcRecords[check]?).all fun record =>
            (retractionRefused check record file).isSome
      | _ => true
  | .waiver =>
      (instanceFrom item file).all fun pk =>
        (file.requirementInstances pk).map (·.status) != some .waived
  | .override => true

/-- A handler that finds the record moved on leaves the requirement instances alone. -/
theorem revert_of_hasMovedOn {ambient : Ambient} {item : ReviewItem} {reason : String}
    {work after : Work} {outcome : Outcome} (moved : hasMovedOn item work.file = true)
    (success : revert ambient item reason work = .ok (after, outcome)) :
    after.file.requirementInstances = work.file.requirementInstances ∧
      after.resyncs = work.resyncs := by
  unfold hasMovedOn at moved
  unfold revert at success
  cases kind : item.kind with
  | requirementCompletion =>
      simp only [kind] at moved success
      unfold sendBackCompletion at success
      cases covered : instanceFrom item work.file with
      | none =>
          simp only [covered] at success
          cases success
          exact ⟨rfl, rfl⟩
      | some pk =>
          have changed : (work.file.requirementInstances pk).map (·.status) ≠ some .complete := by
            simpa [covered] using moved
          simp only [covered, if_pos changed] at success
          cases success
          exact ⟨rfl, rfl⟩
  | document =>
      simp only [kind] at moved success
      have absent : instanceFrom item work.file = none := by simpa using moved
      obtain ⟨documents, _, retired⟩ := retireDocument_eq item work
      unfold sendBackDocument at success
      simp only [retired, absent] at success
      cases success
      exact ⟨rfl, rfl⟩
  | crc =>
      simp only [kind] at moved success
      unfold sendBackCrc at success
      split at success
      · cases success
        exact ⟨rfl, rfl⟩
      · next check covers =>
          split at success
          · cases success
            exact ⟨rfl, rfl⟩
          · next record present =>
              simp only [covers, present, Option.all_some] at moved
              obtain ⟨why, refused⟩ := Option.isSome_iff_exists.mp moved
              simp only [refused] at success
              cases success
              exact ⟨rfl, rfl⟩
      · cases success
        exact ⟨rfl, rfl⟩
  | waiver =>
      simp only [kind] at moved success
      unfold sendBackWaiver at success
      cases covered : instanceFrom item work.file with
      | none =>
          simp only [covered] at success
          cases success
          exact ⟨rfl, rfl⟩
      | some pk =>
          have changed : (work.file.requirementInstances pk).map (·.status) ≠ some .waived := by
            simpa [covered] using moved
          simp only [covered, if_pos changed] at success
          cases success
          exact ⟨rfl, rfl⟩
  | override =>
      simp only [kind] at success
      cases success
      exact ⟨rfl, rfl⟩

end VolunteerScreening.Review
