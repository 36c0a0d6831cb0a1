import VolunteerScreening.Review.Entries

/-!
# Sending back an entry that later work replaced

A later recording by a scoped administrator on the same row supersedes an open
entry.  Any other later recording passes it over, and then only the handler's
own test stands between the send-back and the later work.
-/

namespace VolunteerScreening

open Calendar Documents Fallible Org Requirements Review

/-! ## Recordings on an instance -/

def Operation.recordsOn (settings : Settings) (file : VolunteerFile) : Operation → Option Pk
  | .markRequirementComplete definition _ _ => some definition
  | .waiveRequirement definition _ _ => some definition
  | .reverseWaiver definition _ => some definition
  | .storeDocument entry => entry.requirementInstance
  | .recordCrc _ => crcInstanceFor settings file
  | _ => none

def overtakes (file : VolunteerFile) (request : Request) (position : Nat) : Bool :=
  match file.reviewItems[position]?.bind ReviewItem.coveredInstance with
  | some pk =>
      !request.isRefused file &&
        request.operation.recordsOn request.ambient.settings file == some pk
  | none => false

def supersedes (file : VolunteerFile) (request : Request) (position : Nat) : Bool :=
  request.ambient.actor.needsReview &&
    (file.reviewItems[position]?.map (·.entity)) == request.operation.row file

/-- A file, which of its items a later recording on the same instance has overtaken, and which
of those one such recording did not supersede. -/
structure RecordingHistory where
  file : VolunteerFile
  overtaken : Nat → Bool
  passedOver : Nat → Bool

namespace RecordingHistory

def step (history : RecordingHistory) (request : Request) : RecordingHistory where
  file := VolunteerScreening.step history.file request
  overtaken := fun position =>
    history.overtaken position || overtakes history.file request position
  passedOver := fun position =>
    history.passedOver position ||
      overtakes history.file request position && !supersedes history.file request position

/-- What the claim asks of a step: sending back an overtaken item leaves the instance it covers
exactly as it was. -/
def KeepsLaterWork (history : RecordingHistory) (request : Request) : Prop :=
  ∀ user position reason item pk, request.operation = .sendBack user position reason →
    history.overtaken position = true → history.file.reviewItems[position]? = some item →
    item.coveredInstance = some pk →
    (history.step request).file.requirementInstances pk = history.file.requirementInstances pk

end RecordingHistory

namespace RecordingHistory

/-- The condition on a step: no send-back that its reviewer may make, with a reason, reaches an
open item that was passed over, unless the handler's own test finds that the record has moved
on. -/
def SparesPassedOver (history : RecordingHistory) (request : Request) : Prop :=
  ∀ user position reason item, request.operation = .sendBack user position reason →
    history.passedOver position = true → history.file.reviewItems[position]? = some item →
    requireReviewer request.ambient user item = .ok () → user.displayName.length ≤ 150 →
    Text.isBlank reason = false → hasMovedOn item history.file = true

/-- An overtaken item is closed, or was passed over. -/
structure Sound (history : RecordingHistory) : Prop where
  sole : reviewQueue.SoleOpen history.file.reviewItems
  inQueue : ∀ position, history.overtaken position = true →
    position < history.file.reviewItems.length
  closed : ∀ (position : Nat) (item : ReviewItem), history.overtaken position = true →
    history.passedOver position = false → history.file.reviewItems[position]? = some item →
    item.isOpen = false

variable {history : RecordingHistory} {request : Request}

theorem step_queueMove (history : RecordingHistory) (request : Request) :
    request.isRefused history.file = true ∧ (history.step request).file = history.file ∨
      QueueMove request.ambient history.file.reviewItems (request.operation.row history.file)
        (history.step request).file.reviewItems := by
  obtain ⟨⟨_, refused⟩, same⟩ | ⟨work, success, same⟩ :=
    VolunteerScreening.step_cases history.file request
  · exact .inl ⟨Request.isRefused_of_error refused, same⟩
  · refine .inr ?_
    have committed : (history.step request).file.reviewItems = work.file.reviewItems := by
      show (VolunteerScreening.step history.file request).reviewItems = _
      rw [same, Work.commit_eq]
    rw [committed]
    exact perform_queueMove success

theorem overtakes_some {file : VolunteerFile} {position : Nat}
    (overtaken : overtakes file request position = true) :
    ∃ item, file.reviewItems[position]? = some item ∧ request.isRefused file = false := by
  unfold overtakes at overtaken
  cases found : file.reviewItems[position]? with
  | none => simp [found] at overtaken
  | some item =>
      refine ⟨item, rfl, ?_⟩
      simp only [found, Option.bind_some] at overtaken
      split at overtaken
      · simp only [Bool.and_eq_true, Bool.not_eq_true'] at overtaken
        exact overtaken.1
      · cases overtaken

theorem Sound.step (sound : history.Sound) (request : Request) : (history.step request).Sound := by
  obtain ⟨refused, same⟩ | move := history.step_queueMove request
  · have nothing : ∀ position, overtakes history.file request position = false := by
      intro position
      by_contra overtaken
      obtain ⟨_, _, performed⟩ := overtakes_some (by simpa using overtaken)
      rw [refused] at performed
      cases performed
    refine ⟨?_, ?_, ?_⟩
    · rw [same]
      exact sound.sole
    · intro position overtaken
      rw [same]
      apply sound.inQueue
      simpa [RecordingHistory.step, nothing] using overtaken
    · intro position item overtaken spared listed
      rw [same] at listed
      refine sound.closed position item ?_ ?_ listed
      · simpa [RecordingHistory.step, nothing] using overtaken
      · simpa [RecordingHistory.step, nothing] using spared
  · obtain ⟨advances, sole⟩ := move.advances sound.sole
    have earlier : ∀ position, (history.step request).overtaken position = true →
        ∃ item, history.file.reviewItems[position]? = some item := by
      intro position overtaken
      rcases Bool.or_eq_true_iff.mp overtaken with before | now
      · exact ⟨_, List.getElem?_eq_getElem (sound.inQueue position before)⟩
      · obtain ⟨item, listed, _⟩ := overtakes_some now
        exact ⟨item, listed⟩
    refine ⟨sole, ?_, ?_⟩
    · intro position overtaken
      obtain ⟨item, listed⟩ := earlier position overtaken
      obtain ⟨later, found, _⟩ := advances position item listed
      exact (List.getElem?_eq_some_iff.mp found).1
    · intro position later overtaken spared found
      obtain ⟨item, listed⟩ := earlier position overtaken
      obtain ⟨other, foundOther, outlasts⟩ := advances position item listed
      obtain rfl := Option.some.inj (found.symm.trans foundOther)
      obtain ⟨sparedBefore, sparedNow⟩ := Bool.or_eq_false_iff.mp spared
      rcases Bool.or_eq_true_iff.mp overtaken with before | now
      · exact outlasts.closed (sound.closed position item before sparedBefore listed)
      · -- overtaken by this request, which therefore supersedes it
        have replaces : supersedes history.file request position = true := by
          simpa [now] using sparedNow
        unfold supersedes at replaces
        rw [listed, Bool.and_eq_true] at replaces
        obtain ⟨review, onRow⟩ := replaces
        have row : request.operation.row history.file = some item.entity :=
          (by simpa using onRow : some item.entity = _).symm
        rw [row] at move
        exact move.supersedes sound.sole review listed rfl found

theorem Sound.keepsLaterWork (sound : history.Sound) (spares : history.SparesPassedOver request) :
    history.KeepsLaterWork request := by
  intro user position reason item pk asked overtaken listed covered
  obtain ⟨_, same⟩ | ⟨work, success, same⟩ := VolunteerScreening.step_cases history.file request
  · show (VolunteerScreening.step history.file request).requirementInstances pk = _
    rw [same]
  · rw [asked] at success
    obtain ⟨⟨_, outcome⟩, written, rfl⟩ := map_eq_ok_iff.mp success
    obtain ⟨other, reverted, found, allowed, short, explained, undone, rfl⟩ :=
      sendBack_eq_ok_iff.mp written
    obtain rfl := Option.some.inj (listed.symm.trans found)
    have moved : hasMovedOn item history.file = true := by
      cases passed : history.passedOver position with
      | true =>
          exact spares user position reason item asked passed listed allowed short explained
      | false =>
          have shut := sound.closed position item overtaken passed listed
          rw [(requireReviewer_ok allowed).2] at shut
          cases shut
    obtain ⟨rows, resyncs⟩ := revert_of_hasMovedOn moved undone
    show (VolunteerScreening.step history.file request).requirementInstances pk = _
    rw [same]
    unfold Work.commit Work.write
    dsimp only
    rw [resyncs]
    exact congrFun rows pk

end RecordingHistory

def newRecordings (volunteers : List Volunteer) : List RecordingHistory :=
  (newChurch volunteers).map fun file => ⟨file, fun _ => false, fun _ => false⟩

/-- In a run whose send-backs spare the open items that later recordings passed over, no
send-back undoes later work. -/
theorem later_work_kept (volunteers : List Volunteer) (requests : List (Nat × Request))
    (spares : Machine.Guarded (Machine.stepAt RecordingHistory.step)
      (Machine.guardAt RecordingHistory.SparesPassedOver) (newRecordings volunteers) requests) :
    Machine.Guarded (Machine.stepAt RecordingHistory.step)
      (Machine.guardAt RecordingHistory.KeepsLaterWork) (newRecordings volunteers) requests := by
  rw [Machine.guarded_stepAt_iff] at spares ⊢
  intro component history found
  refine Machine.guarded_of_guarded RecordingHistory.step _ _ RecordingHistory.Sound
    (fun _ request sound _ => sound.step request)
    (fun _ _ sound spared => sound.keepsLaterWork spared) ?_ (spares component history found)
  simp only [newRecordings, newChurch, List.map_map, List.getElem?_map,
    Option.map_eq_some_iff] at found
  obtain ⟨volunteer, _, rfl⟩ := found
  refine ⟨Worklist.soleOpen_nil, ?_, ?_⟩
  · intro position overtaken
    cases overtaken
  · intro position item overtaken
    cases overtaken

/-! ## A completion redone before its review -/

def orienting : Ambient :=
  Sample.byPrimaryAdmin Sample.orientationOnly (Sample.march 0)

def orientingScoped : Ambient :=
  Sample.byDepartmentAdmin Sample.orientationOnly (Sample.march 0)

def orientedRun : List (Nat × Request) :=
  [(0, ⟨orienting, .assignmentCreate Sample.primaryAdmin 1 (Sample.march 0)⟩),
    (0, ⟨orientingScoped, .markRequirementComplete 1 (Sample.february 0) ""⟩)]

def sendingFirstBack : Request := ⟨orienting, .sendBack Sample.primaryAdmin 0 "Wrong date"⟩

theorem later_work_kept_rescoped :
    Machine.Guarded (Machine.stepAt RecordingHistory.step)
      (Machine.guardAt RecordingHistory.KeepsLaterWork) (newRecordings [Sample.adult])
      (orientedRun ++
        [(0, ⟨orientingScoped, .markRequirementComplete 1 (Sample.day ⟨2, by decide⟩ 9) ""⟩),
          (0, sendingFirstBack)]) := by
  refine later_work_kept _ _ ⟨?_, ?_, ?_, ?_, trivial⟩
  · intro history found user position reason item asked
    cases asked
  · intro history found user position reason item asked
    cases asked
  · intro history found user position reason item asked
    cases asked
  · intro history found user position reason item asked passed
    cases asked
    cases found
    cases passed

/-- Redone by a church-wide administrator, it is undone. -/
theorem later_completion_undone :
    ∃ history before after,
      (Machine.run (Machine.stepAt RecordingHistory.step) (newRecordings [Sample.adult])
        (orientedRun ++
          [(0, ⟨orienting, .markRequirementComplete 1 (Sample.day ⟨2, by decide⟩ 9) ""⟩)]))[0]? =
        some history ∧
      history.overtaken 0 = true ∧
      history.file.requirementInstances 1 = some before ∧
      (history.step sendingFirstBack).file.requirementInstances 1 = some after ∧
      before.status = .complete ∧ before.completedOn = some (Sample.day ⟨2, by decide⟩ 9) ∧
      after.status = .notStarted ∧ after.completedOn = none ∧
      ¬history.KeepsLaterWork sendingFirstBack := by
  refine ⟨_, _, _, rfl, rfl, rfl, rfl, rfl, rfl, rfl, rfl, ?_⟩
  intro keeps
  have same := keeps Sample.primaryAdmin 0 "Wrong date" _ 1 rfl rfl rfl rfl
  cases same

end VolunteerScreening
