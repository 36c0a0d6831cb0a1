import VolunteerScreening.Review.Entries

/-!
# The life of a review item

An item is opened once and closed once, by a decision, by a newer entry on its
row or because the work was redone.  A closed item never moves again.
-/

namespace VolunteerScreening.Review

open Calendar Fallible Org Requirements

/-- What can be done to one volunteer's queue. -/
inductive ReviewMove where
  | openIfUnverified (entry : Entry)
  | closeOpenItemsFor (entity : Entity) (replacement : Option Nat) (reviewer : Option Core.User)
  | affirm (user : Core.User) (item : Nat)
  | sendBack (user : Core.User) (item : Nat) (reason : String)

/-- A move under its circumstances. -/
structure ReviewRequest where
  ambient : Ambient
  move : ReviewMove

namespace ReviewRequest

def perform (request : ReviewRequest) (file : VolunteerFile) : Except Refusal Work :=
  match request.move with
  | .openIfUnverified entry =>
      (Review.openIfUnverified request.ambient entry file).map Work.start
  | .closeOpenItemsFor entity replacement reviewer =>
      (Review.closeOpenItemsFor request.ambient.now entity replacement reviewer file).map
        fun (after, _) => Work.start after
  | .affirm user item => (Review.affirm request.ambient user item file).map Work.start
  | .sendBack user item reason =>
      (Review.sendBack request.ambient user item reason file).map Prod.fst

def step (file : VolunteerFile) (request : ReviewRequest) : VolunteerFile :=
  Machine.attempt (fun file => (request.perform file).map (·.commit request.ambient)) file

def churchStep : List VolunteerFile → Nat × ReviewRequest → List VolunteerFile :=
  Machine.stepAt step

end ReviewRequest

def redone (reviewer : Option Core.User) (replacement : Option Nat) (now : Nat)
    (item : ReviewItem) : ReviewItem :=
  { item.closed .superseded reviewer "" now with
    supersededBy := replacement.or item.supersededBy }

theorem redone_closes (reviewer : Option Core.User) (replacement : Option Nat) (now : Nat) :
    reviewQueue.Closes (redone reviewer replacement now) := ⟨fun _ => rfl, fun _ => rfl⟩

theorem closeOpenItemsFor_ok {now : Nat} {entity : Entity} {replacement : Option Nat}
    {reviewer : Option Core.User} {file after : VolunteerFile} {count : Nat}
    (success : closeOpenItemsFor now entity replacement reviewer file = .ok (after, count)) :
    after = { file with
      reviewItems := reviewQueue.closeUnder (redone reviewer replacement now) entity
        file.reviewItems } := by
  obtain ⟨items, closed, written⟩ := bind_eq_ok_iff.mp success
  cases written
  have same : items = reviewQueue.closeUnder (redone reviewer replacement now) entity
      file.reviewItems := by
    refine mapM_eq_ok_map ?_ closed
    intro item result outcome
    rw [isOpenOn_eq] at outcome
    by_cases onRow : reviewQueue.isOpenUnder entity item = true
    · rw [if_pos onRow] at outcome ⊢
      obtain ⟨shut, closes, rewritten⟩ := bind_eq_ok_iff.mp outcome
      obtain ⟨_, rfl⟩ := item.close_ok closes
      exact (pure_eq_ok_iff.mp rewritten).symm
    · rw [if_neg onRow] at outcome ⊢
      exact (Except.ok.inj outcome).symm
  rw [same]

/-! ## One move -/

/-- What holds of a queue: one item at most is open on each row, and every closed item says
when it was closed. -/
structure Lawful (items : List ReviewItem) : Prop where
  sole : reviewQueue.SoleOpen items
  stamped : ∀ item ∈ items, item.status ≠ .pending → item.reviewedAt.isSome = true

theorem lawful_nil : Lawful [] := by
  refine ⟨Worklist.soleOpen_nil, ?_⟩
  intro item listed
  cases listed

inductive Moved (request : ReviewRequest) (before : List ReviewItem) : List ReviewItem → Prop where
  | kept : Moved request before before
  | opened (entry : Entry) (written : VolunteerFile) :
      request.move = .openIfUnverified entry → written.reviewItems = before →
      request.ambient.actor.needsReview = true →
      Moved request before (reviewQueue.post (superseded request.ambient.now before.length)
        (newItem request.ambient entry written) before)
  | redone (entity : Entity) (replacement : Option Nat) (reviewer : Option Core.User) :
      request.move = .closeOpenItemsFor entity replacement reviewer →
      Moved request before (reviewQueue.closeUnder
        (Review.redone reviewer replacement request.ambient.now) entity before)
  | decided (position : Nat) (item : ReviewItem) (status : ReviewStatus)
      (reviewer : Option Core.User) (reason : String) :
      before[position]? = some item → item.isOpen = true → status ≠ .pending →
      (∀ entry, request.move ≠ .openIfUnverified entry) →
      Moved request before
        (before.set position (item.closed status reviewer reason request.ambient.now))

theorem sendBack_reviewItems {ambient : Ambient} {user : Core.User} {position : Nat}
    {reason : String} {file : VolunteerFile} {work : Work} {outcome : Outcome}
    (success : sendBack ambient user position reason file = .ok (work, outcome)) :
    ∃ item, file.reviewItems[position]? = some item ∧ item.isOpen = true ∧
      (work.commit ambient).reviewItems =
        file.reviewItems.set position (item.closed .sentBack (some user) reason ambient.now) := by
  obtain ⟨item, reverted, listed, opened, _, undone, rfl⟩ := sendBack_ok success
  have same : reverted.file.reviewItems = file.reviewItems := revert_reviewItems undone
  refine ⟨item, listed, opened, ?_⟩
  rw [Work.commit_eq]
  show reverted.file.reviewItems.set position _ = _
  rw [same]

theorem step_moved (file : VolunteerFile) (request : ReviewRequest)
    (sole : reviewQueue.SoleOpen file.reviewItems) :
    Moved request file.reviewItems (ReviewRequest.step file request).reviewItems := by
  obtain ⟨ambient, move⟩ := request
  refine Machine.attempt_induction
    (motive := fun after : VolunteerFile =>
      Moved ⟨ambient, move⟩ file.reviewItems after.reviewItems) .kept ?_
  intro after success
  obtain ⟨work, performed, rfl⟩ := map_eq_ok_iff.mp success
  cases move with
  | openIfUnverified entry =>
      obtain ⟨written, queued, rfl⟩ := map_eq_ok_iff.mp performed
      rw [openIfUnverified_eq] at queued
      cases queued
      rw [Work.commit_start]
      cases review : ambient.actor.needsReview with
      | true =>
          rw [queueAfter_eq_post sole review]
          exact .opened entry file rfl rfl review
      | false =>
          rw [queueAfter_unreviewed review]
          exact .kept
  | closeOpenItemsFor entity replacement reviewer =>
      obtain ⟨⟨written, count⟩, closed, rfl⟩ := map_eq_ok_iff.mp performed
      rw [closeOpenItemsFor_ok closed]
      exact .redone entity replacement reviewer rfl
  | affirm user position =>
      obtain ⟨written, affirmed, rfl⟩ := map_eq_ok_iff.mp performed
      obtain ⟨item, listed, opened, _, rfl⟩ := affirm_ok affirmed
      exact .decided position item .affirmed (some user) "" listed opened (by decide)
        (fun entry => by simp)
  | sendBack user position reason =>
      obtain ⟨⟨written, outcome⟩, sent, rfl⟩ := map_eq_ok_iff.mp performed
      obtain ⟨item, listed, opened, left⟩ := sendBack_reviewItems sent
      rw [left]
      exact .decided position item .sentBack (some user) reason listed opened (by decide)
        (fun entry => by simp)

/-- Every item that an opening closes links to the item that replaces it, open on its row. -/
def LinksClosed (entry : Entry) (before after : List ReviewItem) : Prop :=
  ∀ (position : Nat) (item later : ReviewItem), before[position]? = some item →
    item.isOpen = true → after[position]? = some later → later.isOpen = false →
    item.entity = entry.entity ∧ ∃ link replacement, later.supersededBy = some link ∧
      after[link]? = some replacement ∧ replacement.isOpen = true ∧
      replacement.entity = entry.entity

section Moves

variable {request : ReviewRequest} {before after : List ReviewItem}

theorem Moved.freezes (moved : Moved request before after) :
    reviewQueue.Freezes before after := by
  cases moved with
  | kept => exact .refl before
  | opened => exact Worklist.freezes_post
  | redone => exact Worklist.freezes_closeUnder
  | decided position item status reviewer reason listed opened =>
      exact Worklist.freezes_set listed opened

theorem stamped_closeUnder {close : ReviewItem → ReviewItem} {entity : Entity}
    (stamps : ∀ item, (close item).reviewedAt.isSome = true)
    (stamped : ∀ item ∈ before, item.status ≠ .pending → item.reviewedAt.isSome = true) :
    ∀ item ∈ reviewQueue.closeUnder close entity before,
      item.status ≠ .pending → item.reviewedAt.isSome = true := by
  intro item listed closed
  obtain ⟨earlier, inQueue, rfl⟩ := List.mem_map.mp listed
  by_cases onRow : reviewQueue.isOpenUnder entity earlier = true
  · rw [if_pos onRow]
    exact stamps earlier
  · rw [if_neg onRow] at closed ⊢
    exact stamped earlier inQueue closed

theorem Moved.lawful (moved : Moved request before after) (lawful : Lawful before) :
    Lawful after := by
  obtain ⟨sole, stamped⟩ := lawful
  cases moved with
  | kept => exact ⟨sole, stamped⟩
  | opened entry written =>
      refine ⟨sole.post (superseded_closes _ _), ?_⟩
      intro item listed closed
      rcases List.mem_append.mp listed with earlier | new
      · exact stamped_closeUnder (fun _ => rfl) stamped item earlier closed
      · obtain rfl := List.mem_singleton.mp new
        exact absurd rfl closed
  | redone entity replacement reviewer =>
      refine ⟨sole.closeUnder (redone_closes _ _ _), ?_⟩
      apply stamped_closeUnder
      · intro item
        rfl
      · exact stamped
  | decided position item status reviewer reason listed opened decided =>
      refine ⟨sole.set (closed_outlasts item decided reviewer reason _).2, ?_⟩
      intro other inQueue closed
      rcases List.mem_or_eq_of_mem_set inQueue with earlier | rfl
      · exact stamped other earlier closed
      · rfl

theorem Moved.linksClosed (moved : Moved request before after) {entry : Entry}
    (opening : request.move = .openIfUnverified entry) : LinksClosed entry before after := by
  intro position item later listed wasOpen found closed
  cases moved with
  | kept =>
      obtain rfl := Option.some.inj (listed.symm.trans found)
      rw [wasOpen] at closed
      cases closed
  | opened other written same =>
      obtain rfl : entry = other := by
        rw [opening] at same
        exact ReviewMove.openIfUnverified.inj same
      have inQueue := (List.getElem?_eq_some_iff.mp listed).1
      rw [Worklist.post_getElem?_earlier inQueue, Worklist.closeUnder_getElem?, listed,
        Option.map_some, Option.some.injEq] at found
      by_cases onRow : reviewQueue.isOpenUnder entry.entity item = true
      · have written' : later = superseded request.ambient.now before.length item := by
          rw [← found]
          exact if_pos onRow
        refine ⟨(Worklist.isOpenUnder_iff.mp onRow).2, before.length,
          newItem request.ambient entry written, ?_, Worklist.post_getElem?_last, rfl, rfl⟩
        rw [written']
        rfl
      · have same : later = item := by
          rw [← found]
          exact if_neg onRow
        rw [same, wasOpen] at closed
        cases closed
  | redone entity replacement reviewer same =>
      rw [opening] at same
      cases same
  | decided position item status reviewer reason inQueue opened decided apart =>
      exact absurd opening (apart entry)

end Moves

/-- What an affirmation writes: the item it decides, and nothing else. -/
def OnlyDecides (position : Nat) (before after : VolunteerFile) : Prop :=
  after = { before with reviewItems := after.reviewItems } ∧
    after.reviewItems.length = before.reviewItems.length ∧
    ∀ other, other ≠ position → after.reviewItems[other]? = before.reviewItems[other]?

theorem affirm_onlyDecides (file : VolunteerFile) (ambient : Ambient) (user : Core.User)
    (position : Nat) :
    OnlyDecides position file (ReviewRequest.step file ⟨ambient, .affirm user position⟩) := by
  refine Machine.attempt_induction (motive := OnlyDecides position file)
    ⟨rfl, rfl, fun _ _ => rfl⟩ ?_
  intro after success
  obtain ⟨work, performed, rfl⟩ := map_eq_ok_iff.mp success
  obtain ⟨written, affirmed, rfl⟩ := map_eq_ok_iff.mp performed
  obtain ⟨item, _, _, _, rfl⟩ := affirm_ok affirmed
  refine ⟨rfl, ?_, ?_⟩
  · exact List.length_set ..
  · intro other apart
    exact List.getElem?_set_ne (Ne.symm apart)

/-! ## Whole runs -/

/-- A church's files, with nothing recorded in their queues yet. -/
def unreviewed (files : List VolunteerFile) : List VolunteerFile :=
  files.map fun file => { file with reviewItems := [] }

theorem step_lawful (file : VolunteerFile) (request : ReviewRequest)
    (lawful : Lawful file.reviewItems) :
    Lawful (ReviewRequest.step file request).reviewItems :=
  (step_moved file request lawful.sole).lawful lawful

theorem run_lawful {file : VolunteerFile} (lawful : Lawful file.reviewItems)
    (requests : List ReviewRequest) :
    Lawful (Machine.run ReviewRequest.step file requests).reviewItems :=
  Machine.run_preserves ReviewRequest.step (fun file => Lawful file.reviewItems) step_lawful lawful
    requests

theorem run_freezes {file : VolunteerFile} (lawful : Lawful file.reviewItems)
    (requests : List ReviewRequest) :
    reviewQueue.Freezes file.reviewItems
      (Machine.run ReviewRequest.step file requests).reviewItems := by
  apply Machine.run_relates ReviewRequest.step (fun file => Lawful file.reviewItems)
    (fun before after => reviewQueue.Freezes before.reviewItems after.reviewItems)
  · intro file
    exact .refl _
  · intro first second third
    exact Worklist.Freezes.trans
  · exact step_lawful
  · intro file request lawful
    exact (step_moved file request lawful.sole).freezes
  · exact lawful

theorem unreviewed_run {files : List VolunteerFile} {requests : List (Nat × ReviewRequest)}
    {volunteer : Nat} {file : VolunteerFile}
    (reached : (Machine.run ReviewRequest.churchStep (unreviewed files)
      requests)[volunteer]? = some file) : Lawful file.reviewItems := by
  unfold ReviewRequest.churchStep unreviewed at reached
  rw [Machine.run_stepAt_getElem?, List.getElem?_map, Option.map_map,
    Option.map_eq_some_iff] at reached
  obtain ⟨start, _, rfl⟩ := reached
  exact run_lawful lawful_nil _

/-- Between two states of a church no closed item has changed. -/
def KeepsClosed (before after : List VolunteerFile) : Prop :=
  ∀ (volunteer : Nat) (file later : VolunteerFile), before[volunteer]? = some file →
    after[volunteer]? = some later → ∀ (position : Nat) (item : ReviewItem),
      file.reviewItems[position]? = some item → item.status ≠ .pending →
      later.reviewItems[position]? = some item

theorem run_keepsClosed {church : List VolunteerFile}
    (lawful : Machine.Each (fun file => Lawful file.reviewItems) church)
    (requests : List (Nat × ReviewRequest)) :
    KeepsClosed church (Machine.run ReviewRequest.churchStep church requests) := by
  intro volunteer file later reached reachedLater position item listed closed
  unfold ReviewRequest.churchStep at reachedLater
  rw [Machine.run_stepAt_getElem?, reached, Option.map_some, Option.some.injEq] at reachedLater
  subst reachedLater
  apply run_freezes (lawful volunteer file reached)
  · exact listed
  · simpa [reviewQueue, ReviewItem.isOpen] using closed

/-- Over every sequence of openings, closings and decisions at a church: at most one item is
open on each row, and a closed item says when; one that an opening closes links to its
replacement; affirming writes the item it decides; and a closed item never changes again. -/
theorem review_items_live_once (files : List VolunteerFile)
    (earlier later : List (Nat × ReviewRequest)) :
    let before := Machine.run ReviewRequest.churchStep (unreviewed files) earlier
    let after := Machine.run ReviewRequest.churchStep (unreviewed files) (earlier ++ later)
    Machine.Each (fun file => Lawful file.reviewItems ∧
        (∀ ambient entry, LinksClosed entry file.reviewItems
          (ReviewRequest.step file ⟨ambient, .openIfUnverified entry⟩).reviewItems) ∧
        ∀ ambient user position, OnlyDecides position file
          (ReviewRequest.step file ⟨ambient, .affirm user position⟩)) before ∧
      KeepsClosed before after := by
  intro before after
  refine ⟨?_, ?_⟩
  · intro volunteer file reached
    have lawful := unreviewed_run reached
    refine ⟨lawful, ?_, ?_⟩
    · intro ambient entry
      exact (step_moved file ⟨ambient, .openIfUnverified entry⟩ lawful.sole).linksClosed rfl
    · intro ambient user position
      exact affirm_onlyDecides file ambient user position
  · have ran : after = Machine.run ReviewRequest.churchStep before later :=
      Machine.run_append _ _ _ _
    rw [ran]
    apply run_keepsClosed
    intro volunteer file reached
    exact unreviewed_run reached

end VolunteerScreening.Review
