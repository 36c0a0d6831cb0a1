import VolunteerScreening.File

/-!
# Opening a review item

A scoped administrator's entry opens one item.  An open item on the same row is
superseded by it.  Whatever happens, only the review queue is written.
-/

namespace VolunteerScreening.Review

open Calendar Fallible Org Requirements

structure Entry where
  kind : ReviewKind
  entity : Entity
  entityLabel : String
  beforeState : Snapshot
  affectedEntity : Option Entity

/-- Which of the recorder's departments gave them this volunteer, past or present. -/
def departmentFor (ambient : Ambient) (file : VolunteerFile) : Option Pk :=
  (ambient.settings.departments.find? fun department =>
    ambient.actor.departmentIds.contains department.pk &&
      ambient.settings.roles.any fun role =>
        role.department == department.pk && file.assignments.any (·.role == role.pk)).map (·.pk)

def newItem (ambient : Ambient) (entry : Entry) (file : VolunteerFile) : ReviewItem where
  kind := entry.kind
  entity := entry.entity
  entityLabel := Text.truncate 200 entry.entityLabel
  affectedEntity := entry.affectedEntity
  status := .pending
  recordedByUserId := ambient.actor.userId
  recordedByDisplay := Text.truncate 150
    (if ambient.actor.display ≠ "" then ambient.actor.display else "administrator")
  department := departmentFor ambient file
  beforeState := entry.beforeState
  reviewedAt := none
  reviewedByUserId := none
  reviewedByDisplay := ""
  decisionReason := ""
  supersededBy := none

def isOpenOn (entity : Entity) (item : ReviewItem) : Bool := item.isOpen && item.entity == entity

def replaced (entity : Entity) (file : VolunteerFile) : Option Nat :=
  file.reviewItems.findIdx? (isOpenOn entity)

def supersedeOpen (now : Nat) (entity : Entity) (file : VolunteerFile) :
    Except Refusal (List ReviewItem) :=
  match replaced entity file with
  | none => .ok file.reviewItems
  | some position =>
      match file.reviewItems[position]? with
      | none => .ok file.reviewItems
      | some item => (item.supersede now).map (file.reviewItems.set position ·)

/-- Insert the new item, and point the replaced one at it.  The table refuses a second open item
on one row, and then nothing more is recorded. -/
def insertItem (ambient : Ambient) (entry : Entry) (file : VolunteerFile)
    (items : List ReviewItem) : List ReviewItem :=
  if items.any (isOpenOn entry.entity) then items
  else
    let linked :=
      match replaced entry.entity file with
      | none => items
      | some position =>
          items.modify position fun item => { item with supersededBy := some items.length }
    linked ++ [newItem ambient entry file]

/-- Open a review item, if the actor's work needs affirming. -/
def openIfUnverified (ambient : Ambient) (entry : Entry) (file : VolunteerFile) :
    Except Refusal VolunteerFile :=
  if !ambient.actor.needsReview then .ok file
  else do
    let items ← supersedeOpen ambient.now entry.entity file
    return { file with reviewItems := insertItem ambient entry file items }

/-- The same for a writer that is told whether to. -/
def openReviewWhen (asked : Bool) (ambient : Ambient) (entry : Entry) (file : VolunteerFile) :
    Except Refusal VolunteerFile :=
  if asked then openIfUnverified ambient entry file else .ok file

/-- Supersede any open item on this row, because the work has been redone; how many there
were. -/
def closeOpenItemsFor (now : Nat) (entity : Entity) (replacement : Option Nat)
    (reviewer : Option Core.User) (file : VolunteerFile) :
    Except Refusal (VolunteerFile × Nat) := do
  let items ← file.reviewItems.mapM fun item =>
    if isOpenOn entity item then item.supersedeBy reviewer replacement now else .ok item
  return ({ file with reviewItems := items },
    (file.reviewItems.filter (isOpenOn entity)).length)

/-- The queue after an entry: the replaced item superseded, and the new one at the end. -/
def queueAfter (ambient : Ambient) (entry : Entry) (file : VolunteerFile) : List ReviewItem :=
  if !ambient.actor.needsReview then file.reviewItems
  else
    insertItem ambient entry file
      (match replaced entry.entity file with
      | none => file.reviewItems
      | some position =>
          file.reviewItems.modify position fun item =>
            item.closed .superseded none "" ambient.now)

theorem openIfUnverified_eq (ambient : Ambient) (entry : Entry) (file : VolunteerFile) :
    openIfUnverified ambient entry file =
      .ok { file with reviewItems := queueAfter ambient entry file } := by
  unfold openIfUnverified queueAfter
  cases ambient.actor.needsReview
  · rfl
  · simp only [Bool.not_true, Bool.false_eq_true, if_false]
    unfold supersedeOpen
    cases found : replaced entry.entity file with
    | none => rfl
    | some position =>
        obtain ⟨inQueue, isOpen, _⟩ := List.findIdx?_eq_some_iff_getElem.mp found
        have opened : file.reviewItems[position].isOpen = true := by
          simp only [isOpenOn, Bool.and_eq_true] at isOpen
          exact isOpen.1
        simp only [List.getElem?_eq_getElem inQueue,
          ReviewItem.supersede_of_isOpen _ ambient.now opened]
        rw [List.modify_eq_set_getElem?, List.getElem?_eq_getElem inQueue]
        rfl

theorem insertItem_eq (ambient : Ambient) (entry : Entry) (file : VolunteerFile)
    (items : List ReviewItem) :
    ∃ earlier : List ReviewItem, earlier.length = items.length ∧
      (insertItem ambient entry file items = earlier ∨
        insertItem ambient entry file items = earlier ++ [newItem ambient entry file]) := by
  unfold insertItem
  by_cases refused : items.any (isOpenOn entry.entity) = true
  · exact ⟨items, rfl, .inl (if_pos refused)⟩
  · refine ⟨_, ?_, .inr (if_neg refused)⟩
    cases replaced entry.entity file <;> simp

theorem queueAfter_eq (ambient : Ambient) (entry : Entry) (file : VolunteerFile) :
    ∃ earlier : List ReviewItem, earlier.length = file.reviewItems.length ∧
      (queueAfter ambient entry file = earlier ∨
        ambient.actor.needsReview = true ∧
          queueAfter ambient entry file = earlier ++ [newItem ambient entry file]) := by
  unfold queueAfter
  cases ambient.actor.needsReview
  · exact ⟨file.reviewItems, rfl, .inl rfl⟩
  · obtain ⟨earlier, sameLength, kept | added⟩ := insertItem_eq ambient entry file
      (match replaced entry.entity file with
      | none => file.reviewItems
      | some position =>
          file.reviewItems.modify position fun item =>
            item.closed .superseded none "" ambient.now)
    all_goals
      refine ⟨earlier, sameLength.trans ?_, ?_⟩
      · cases replaced entry.entity file <;> simp
    · exact .inl kept
    · exact .inr ⟨rfl, added⟩

theorem queueAfter_last {ambient : Ambient} {entry : Entry} {file : VolunteerFile}
    {item : ReviewItem}
    (found : (queueAfter ambient entry file)[file.reviewItems.length]? = some item) :
    ambient.actor.needsReview = true ∧ item = newItem ambient entry file := by
  obtain ⟨earlier, sameLength, kept | ⟨review, added⟩⟩ := queueAfter_eq ambient entry file
  · rw [kept, List.getElem?_eq_none sameLength.le] at found
    cases found
  · rw [added, List.getElem?_append_right sameLength.le, sameLength] at found
    simp only [Nat.sub_self, List.getElem?_cons_zero, Option.some.injEq] at found
    exact ⟨review, found.symm⟩

theorem openReviewWhen_eq (asked : Bool) (ambient : Ambient) (entry : Entry)
    (file : VolunteerFile) :
    openReviewWhen asked ambient entry file =
      .ok { file with
        reviewItems :=
          if asked then queueAfter ambient entry file else file.reviewItems } := by
  cases asked
  · rfl
  · exact openIfUnverified_eq ambient entry file

end VolunteerScreening.Review
