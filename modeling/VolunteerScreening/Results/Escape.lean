import VolunteerScreening.Requirements.Footing
import VolunteerScreening.Review.Entries

/-!
# Scoped work that escapes review

A ledger remembers which scoped recording each completion and each waiver goes
back to.  Recordings keep every one of them under review; a decision may close
the only entry that was still open on an instance.
-/

namespace VolunteerScreening

open Calendar Documents Fallible Org Requirements Review

/-! ## Recordings and decisions -/

/-- What the administrators do: record, reverse a waiver, or decide an entry. -/
inductive ReviewedAction where
  | markRequirementComplete (definition : Pk) (completedOn : Date) (notes : String)
  | storeDocument (entry : DocumentEntry)
  | waiveRequirement (definition : Pk) (reason waivedBy : String)
  | reverseWaiver (definition : Pk) (reason : String)
  | affirm (user : Core.User) (item : Nat)
  | sendBack (user : Core.User) (item : Nat) (reason : String)

def ReviewedAction.operation : ReviewedAction → Operation
  | .markRequirementComplete definition completedOn notes =>
      .markRequirementComplete definition completedOn notes
  | .storeDocument entry => .storeDocument entry
  | .waiveRequirement definition reason waivedBy => .waiveRequirement definition reason waivedBy
  | .reverseWaiver definition reason => .reverseWaiver definition reason
  | .affirm user item => .affirm user item
  | .sendBack user item reason => .sendBack user item reason

structure ReviewedRequest where
  ambient : Ambient
  action : ReviewedAction

def ReviewedRequest.request (request : ReviewedRequest) : Request :=
  ⟨request.ambient, request.action.operation⟩

/-! ## The queue -/

def IsAffirmed (items : List ReviewItem) (position : Nat) : Prop :=
  ∃ item, items[position]? = some item ∧ item.status = .affirmed

/-- Whether an open item points at an instance. -/
def Awaits (items : List ReviewItem) (pk : Pk) : Prop :=
  ∃ (position : Nat) (item : ReviewItem), items[position]? = some item ∧ item.isOpen = true ∧
    item.pointsAt (.requirementInstance pk) = true

/-- The same of the other items of the queue. -/
def AwaitsApart (items : List ReviewItem) (decided : Nat) (pk : Pk) : Prop :=
  ∃ (position : Nat) (item : ReviewItem), position ≠ decided ∧ items[position]? = some item ∧
    item.isOpen = true ∧ item.pointsAt (.requirementInstance pk) = true

/-- The entries these recordings make: on one instance, or on a document that may have completed
one. -/
inductive Shaped (documents : Nat) (entry : Entry) : Prop where
  | onInstance (pk : Pk) (covers : entry.entity = .requirementInstance pk)
      (alone : entry.affectedEntity = none)
      (kind : entry.kind = .requirementCompletion ∨ entry.kind = .waiver)
  | onDocument (document : Nat) (inFile : document < documents)
      (covers : entry.entity = .document document)
      (affects : entry.affectedEntity = none ∨
        ∃ pk, entry.affectedEntity = some (.requirementInstance pk))
      (kind : entry.kind = .document) (bare : entry.beforeState.requirement = none)

theorem Shaped.mono {documents more : Nat} {entry : Entry} (shaped : Shaped documents entry)
    (grows : documents ≤ more) : Shaped more entry := by
  cases shaped with
  | onInstance pk covers alone kind => exact .onInstance pk covers alone kind
  | onDocument document inFile covers affects kind bare =>
      exact .onDocument document (inFile.trans_le grows) covers affects kind bare

theorem Shaped.notCrc {documents : Nat} {entry : Entry} (shaped : Shaped documents entry) :
    entry.kind ≠ .crc := by
  intro crc
  cases shaped with
  | onInstance pk covers alone kind => rcases kind with kind | kind <;> cases crc.symm.trans kind
  | onDocument document inFile covers affects kind bare => cases crc.symm.trans kind

theorem Shaped.bare {documents : Nat} {entry : Entry} (shaped : Shaped documents entry)
    (document : entry.kind = .document) : entry.beforeState.requirement = none := by
  cases shaped with
  | onInstance pk covers alone kind =>
      rcases kind with kind | kind <;> cases document.symm.trans kind
  | onDocument _ _ _ _ _ bare => exact bare

theorem Shaped.pointsAt_iff {documents : Nat} {item : ReviewItem}
    (shaped : Shaped documents item.said) {pk : Pk} :
    item.pointsAt (.requirementInstance pk) = true ↔ item.coveredInstance = some pk := by
  unfold ReviewItem.pointsAt ReviewItem.coveredInstance
  cases shaped with
  | onInstance other covers alone kind =>
      have covers : item.entity = .requirementInstance other := covers
      have alone : item.affectedEntity = none := alone
      simp [covers, alone]
  | onDocument document inFile covers affects kind bare =>
      have covers : item.entity = .document document := covers
      rcases affects with alone | ⟨other, affected⟩
      · have alone : item.affectedEntity = none := alone
        simp [covers, alone]
      · have affected : item.affectedEntity = some (.requirementInstance other) := affected
        simp [covers, affected]

section Queue

variable {items : List ReviewItem} {position : Nat} {item : ReviewItem} {pk : Pk}

theorem awaits_set_iff {after : ReviewItem} (shut : after.isOpen = false) :
    Awaits (items.set position after) pk ↔ AwaitsApart items position pk := by
  constructor
  · rintro ⟨other, later, found, isOpen, points⟩
    rcases Worklist.set_getElem?_cases found with ⟨_, rfl⟩ | ⟨apart, listed⟩
    · rw [shut] at isOpen
      cases isOpen
    · exact ⟨other, later, apart, listed, isOpen, points⟩
  · rintro ⟨other, later, apart, listed, isOpen, points⟩
    refine ⟨other, later, ?_, isOpen, points⟩
    rw [List.getElem?_set_ne (Ne.symm apart)]
    exact listed

theorem isAffirmed_set_iff (listed : items[position]? = some item) (isOpen : item.isOpen = true)
    {after : ReviewItem} {entry : Nat} :
    IsAffirmed (items.set position after) entry ↔
      entry = position ∧ after.status = .affirmed ∨ IsAffirmed items entry := by
  have undecided : item.status = .pending := by simpa [ReviewItem.isOpen] using isOpen
  constructor
  · rintro ⟨later, found, affirmed⟩
    rcases Worklist.set_getElem?_cases found with ⟨same, rfl⟩ | ⟨_, there⟩
    · exact .inl ⟨same, affirmed⟩
    · exact .inr ⟨later, there, affirmed⟩
  · rintro (⟨rfl, affirmed⟩ | ⟨other, there, affirmed⟩)
    · refine ⟨after, ?_, affirmed⟩
      rw [List.getElem?_set_self (List.getElem?_eq_some_iff.mp listed).1]
    · refine ⟨other, ?_, affirmed⟩
      rw [List.getElem?_set_ne]
      · exact there
      · rintro rfl
        obtain rfl := Option.some.inj (listed.symm.trans there)
        cases undecided.symm.trans affirmed

theorem awaitsApart_iff (listed : items[position]? = some item)
    (elsewhere : item.pointsAt (.requirementInstance pk) = false) :
    AwaitsApart items position pk ↔ Awaits items pk := by
  constructor
  · rintro ⟨other, later, _, found⟩
    exact ⟨other, later, found⟩
  · rintro ⟨other, later, found, isOpen, points⟩
    refine ⟨other, later, ?_, found, isOpen, points⟩
    rintro rfl
    obtain rfl := Option.some.inj (listed.symm.trans found)
    rw [elsewhere] at points
    cases points

variable {ambient : Ambient} {entry : Entry} {written : VolunteerFile}

theorem IsAffirmed.entered (sole : reviewQueue.SoleOpen written.reviewItems)
    (affirmed : IsAffirmed written.reviewItems position) :
    IsAffirmed (queueAfter ambient entry written) position := by
  cases review : ambient.actor.needsReview
  · rwa [queueAfter_unreviewed review]
  · obtain ⟨item, listed, decided⟩ := affirmed
    rw [queueAfter_eq_post sole review]
    refine ⟨item, Worklist.post_getElem?_of_apart listed ?_, decided⟩
    simp [Worklist.isOpenUnder, reviewQueue, ReviewItem.isOpen, decided]

theorem Awaits.entered (sole : reviewQueue.SoleOpen written.reviewItems)
    (follows : ∀ (position : Nat) (item : ReviewItem), written.reviewItems[position]? = some item →
      item.entity = entry.entity → item.pointsAt (.requirementInstance pk) = true →
      (newItem ambient entry written).pointsAt (.requirementInstance pk) = true)
    (awaits : Awaits written.reviewItems pk) : Awaits (queueAfter ambient entry written) pk := by
  cases review : ambient.actor.needsReview
  · rwa [queueAfter_unreviewed review]
  · obtain ⟨position, item, listed, isOpen, points⟩ := awaits
    rw [queueAfter_eq_post sole review]
    by_cases same : item.entity = entry.entity
    · exact ⟨_, _, Worklist.post_getElem?_last, rfl, follows position item listed same points⟩
    · refine ⟨position, item, Worklist.post_getElem?_of_apart listed ?_, isOpen, points⟩
      rw [← isOpenOn_eq]
      have apart : ¬(newItem ambient entry written).entity = item.entity := Ne.symm same
      simp [isOpenOn, reviewQueue, ReviewItem.said, Ne.symm apart]

end Queue

/-! ## What a send-back leaves an instance standing on -/

/-- What an instance stands on once an item on it has been sent back. -/
def footingOnceSentBack (file : VolunteerFile) (item : ReviewItem) (pk : Pk) : Footing :=
  let status := (file.requirementInstances pk).map (·.status)
  match item.kind with
  | .requirementCompletion =>
      if status = some .complete then .ofCompletion item.beforeState.completedOn
      else footings file pk
  | .waiver =>
      if status = some .waived then
        .ofCompletion ((file.requirementInstances pk).bind (·.completedOn))
      else footings file pk
  | .document => .nothing
  | .crc => footings file pk
  | .override => footings file pk

theorem isSome_of_status {file : VolunteerFile} {pk : Pk} {status : RequirementStatus}
    (reads : (file.requirementInstances pk).map (·.status) = some status) :
    (file.requirementInstances pk).isSome = true := by
  obtain ⟨row, found, _⟩ := Option.map_eq_some_iff.mp reads
  rw [found]
  rfl

section SendingBack

variable {ambient : Ambient} {item : ReviewItem} {reason : String} {work after : Work}
  {outcome : Outcome} {pk : Pk}

theorem sendBackCompletion_footings (kind : item.kind = .requirementCompletion)
    (covered : item.coveredInstance = some pk) :
    (sendBackCompletion ambient item work).1.resyncs = work.resyncs ∧
      footings (sendBackCompletion ambient item work).1.file =
        Function.update (footings work.file) pk (footingOnceSentBack work.file item pk) := by
  unfold sendBackCompletion footingOnceSentBack
  simp only [kind]
  by_cases present : (work.file.requirementInstances pk).isSome = true
  · rw [instanceFrom_of_covered covered present]
    by_cases complete : (work.file.requirementInstances pk).map (·.status) = some .complete
    · simp only [ne_eq, complete, not_true_eq_false, if_false, if_true]
      exact ⟨rfl, restoreFromSnapshot_footings ambient pk item.beforeState present⟩
    · simp [complete]
  · rw [instanceFrom_of_absent covered present]
    have incomplete : ¬(work.file.requirementInstances pk).map (·.status) = some .complete :=
      fun complete => present (isSome_of_status complete)
    simp [incomplete]

theorem sendBackDocument_footings (kind : item.kind = .document)
    (bare : item.beforeState.requirement = none) (covered : item.coveredInstance = some pk) :
    (sendBackDocument ambient item work).1.resyncs = work.resyncs ∧
      footings (sendBackDocument ambient item work).1.file =
        Function.update (footings work.file) pk (footingOnceSentBack work.file item pk) := by
  obtain ⟨documents, _, retired⟩ := retireDocument_eq item work
  unfold sendBackDocument footingOnceSentBack
  simp only [kind, retired]
  by_cases present : (work.file.requirementInstances pk).isSome = true
  · rw [instanceFrom_of_covered covered present]
    have restored := @restoreFromSnapshot_footings ambient pk item.beforeState
      { work.file with documents := documents } present
    simp only [Snapshot.completedOn, bare] at restored
    exact ⟨rfl, restored⟩
  · rw [instanceFrom_of_absent covered present]
    have absent : work.file.requirementInstances pk = none := by simpa using present
    have groundless : footings work.file pk = .nothing := by simp [footings, footing, absent]
    refine ⟨rfl, ?_⟩
    rw [← groundless, Function.update_eq_self]
    rfl

theorem sendBackWaiver_footings (kind : item.kind = .waiver)
    (covered : item.coveredInstance = some pk)
    (success : sendBackWaiver ambient item reason work = .ok (after, outcome)) :
    after.resyncs = work.resyncs ∧
      footings after.file =
        Function.update (footings work.file) pk (footingOnceSentBack work.file item pk) := by
  unfold sendBackWaiver at success
  unfold footingOnceSentBack
  simp only [kind]
  by_cases present : (work.file.requirementInstances pk).isSome = true
  · rw [instanceFrom_of_covered covered present] at success
    by_cases waived : (work.file.requirementInstances pk).map (·.status) = some .waived
    · simp only [ne_eq, waived, not_true_eq_false, if_false] at success
      obtain ⟨file, reversed, success⟩ := bind_eq_ok_iff.mp success
      cases success
      obtain ⟨row, found, _, rfl⟩ := reverseWaiver_ok reversed
      refine ⟨rfl, ?_⟩
      dsimp only
      rw [refreshDependents_footings, saveInstance_footings, if_pos waived, found]
      simp
    · simp only [ne_eq, waived, not_false_eq_true, if_true] at success
      cases success
      simp [waived]
  · rw [instanceFrom_of_absent covered present] at success
    cases success
    have unwaived : ¬(work.file.requirementInstances pk).map (·.status) = some .waived :=
      fun waived => present (isSome_of_status waived)
    simp [unwaived]

theorem revert_footings {documents : Nat} (shaped : Shaped documents item.said)
    (covered : item.coveredInstance = some pk)
    (success : revert ambient item reason work = .ok (after, outcome)) :
    after.resyncs = work.resyncs ∧
      footings after.file =
        Function.update (footings work.file) pk (footingOnceSentBack work.file item pk) := by
  have notCrc : item.kind ≠ .crc := shaped.notCrc
  unfold revert at success
  cases kind : item.kind with
  | requirementCompletion =>
      simp only [kind, Except.ok.injEq] at success
      have written := @sendBackCompletion_footings ambient item work pk kind covered
      rwa [success] at written
  | document =>
      simp only [kind, Except.ok.injEq] at success
      have written :=
        @sendBackDocument_footings ambient item work pk kind (shaped.bare kind) covered
      rwa [success] at written
  | crc => exact absurd kind notCrc
  | waiver =>
      simp only [kind] at success
      exact sendBackWaiver_footings kind covered success
  | override =>
      simp only [kind, sendBackOverride, Except.ok.injEq, Prod.mk.injEq] at success
      obtain ⟨rfl, _⟩ := success
      simp [footingOnceSentBack, kind]

theorem revert_footings_of_uncovered {documents : Nat} (shaped : Shaped documents item.said)
    (uncovered : item.coveredInstance = none)
    (success : revert ambient item reason work = .ok (after, outcome)) :
    after.resyncs = work.resyncs ∧ footings after.file = footings work.file := by
  have notCrc : item.kind ≠ .crc := shaped.notCrc
  have nowhere : instanceFrom item work.file = none := by simp [instanceFrom, uncovered]
  have moved : hasMovedOn item work.file = true := by
    unfold hasMovedOn
    cases kind : item.kind with
    | requirementCompletion => simp [nowhere]
    | document => simp [nowhere]
    | crc => exact absurd kind notCrc
    | waiver => simp [nowhere]
    | override => rfl
  obtain ⟨rows, resyncs⟩ := revert_of_hasMovedOn moved success
  refine ⟨resyncs, ?_⟩
  funext other
  unfold footings
  rw [rows]

end SendingBack

/-! ## The ledger -/

/-- A file with the scoped recordings behind it.  A scoped recording goes by the position of the
entry it made, and a church-wide one by `none`: behind each completion, behind each waiver, and
behind the completion that each entry's own recording replaced. -/
structure Ledger where
  file : VolunteerFile
  completedBy : Pk → Option Nat
  waivedBy : Pk → Option Nat
  replaced : Nat → Option Nat

namespace Ledger

variable (ledger : Ledger)

def on (file : VolunteerFile) : Ledger := { ledger with file := file }

def entryMade (ambient : Ambient) : Option Nat :=
  if ambient.actor.needsReview then some ledger.file.reviewItems.length else none

def completing (ambient : Ambient) (pk : Pk) : Ledger :=
  { ledger with
    completedBy := Function.update ledger.completedBy pk (ledger.entryMade ambient)
    replaced :=
      Function.update ledger.replaced ledger.file.reviewItems.length (ledger.completedBy pk) }

def waiving (ambient : Ambient) (pk : Pk) : Ledger :=
  { ledger with waivedBy := Function.update ledger.waivedBy pk (ledger.entryMade ambient) }

/-- A send-back: a completion's puts back the completion that its recording replaced. -/
def sendingBack (position : Nat) : Ledger :=
  match ledger.file.reviewItems[position]? with
  | none => ledger
  | some item =>
      match item.kind, item.coveredInstance with
      | .requirementCompletion, some pk =>
          if (ledger.file.requirementInstances pk).map (·.status) = some .complete then
            { ledger with
              completedBy := Function.update ledger.completedBy pk (ledger.replaced position) }
          else ledger
      | _, _ => ledger

/-- The recordings behind the file once a request has gone through. -/
def account (request : ReviewedRequest) : Ledger :=
  match request.action with
  | .markRequirementComplete pk _ _ => ledger.completing request.ambient pk
  | .storeDocument entry =>
      match entry.completes request.ambient ledger.file with
      | some pk => ledger.completing request.ambient pk
      | none => ledger
  | .waiveRequirement pk _ _ => ledger.waiving request.ambient pk
  | .reverseWaiver _ _ => ledger
  | .affirm _ _ => ledger
  | .sendBack _ position _ => ledger.sendingBack position

def step (request : ReviewedRequest) : Ledger :=
  (if request.request.isRefused ledger.file then ledger else ledger.account request).on
    (VolunteerScreening.step ledger.file request.request)

def standing (pk : Pk) : Footing → Option Nat
  | .waiver => ledger.waivedBy pk
  | .completion => ledger.completedBy pk
  | .nothing => none

def standsOn (pk : Pk) : Option Nat := ledger.standing pk (footings ledger.file pk)

/-- Every scoped recording that an instance stands on was affirmed, or an open item points at the
instance. -/
def Accounted : Prop :=
  ∀ pk entry, ledger.standsOn pk = some entry →
    IsAffirmed ledger.file.reviewItems entry ∨ Awaits ledger.file.reviewItems pk

/-- The condition on a request that goes through.  A reversal uncovers a completion that is
accounted for.  An affirmation decides the recording that the instance stands on, or one that
stands beside another open item.  A send-back leaves the instance on a recording that was
affirmed, or beside another open item. -/
def Accounts (request : ReviewedRequest) : Prop :=
  request.request.isRefused ledger.file = false →
  match request.action with
  | .reverseWaiver pk _ =>
      ∀ entry, ledger.standing pk
          (.ofCompletion ((ledger.file.requirementInstances pk).bind (·.completedOn))) =
          some entry →
        IsAffirmed ledger.file.reviewItems entry ∨ Awaits ledger.file.reviewItems pk
  | .affirm _ position =>
      ∀ item pk, ledger.file.reviewItems[position]? = some item →
        item.coveredInstance = some pk → ∀ entry, ledger.standsOn pk = some entry →
        entry = position ∨ IsAffirmed ledger.file.reviewItems entry ∨
          AwaitsApart ledger.file.reviewItems position pk
  | .sendBack _ position _ =>
      ∀ item pk, ledger.file.reviewItems[position]? = some item →
        item.coveredInstance = some pk → ∀ entry, (ledger.sendingBack position).standing pk
          (footingOnceSentBack ledger.file item pk) = some entry →
        IsAffirmed ledger.file.reviewItems entry ∨
          AwaitsApart ledger.file.reviewItems position pk
  | _ => True

/-- At most one item is open on each row, and every entry is one that these requests make. -/
structure Sound : Prop where
  sole : reviewQueue.SoleOpen ledger.file.reviewItems
  shaped : ∀ (position : Nat) (item : ReviewItem), ledger.file.reviewItems[position]? = some item →
    Shaped ledger.file.documents.length item.said

variable {ledger} {after : Ledger} {ambient : Ambient} {request : ReviewedRequest} {pk : Pk}

theorem step_of_refused (refused : request.request.isRefused ledger.file = true) :
    ledger.step request = ledger := by
  obtain ⟨_, same⟩ | ⟨work, success, _⟩ := step_cases ledger.file request.request
  · unfold step
    rw [refused, same]
    rfl
  · rw [Request.isRefused_of_ok success] at refused
    cases refused

theorem step_of_accepted {work : Work}
    (success : perform request.ambient request.action.operation ledger.file = .ok work) :
    request.request.isRefused ledger.file = false ∧
      ledger.step request = (ledger.account request).on (work.commit request.ambient) := by
  have accepted : request.request.isRefused ledger.file = false :=
    Request.isRefused_of_ok success
  refine ⟨accepted, ?_⟩
  have left : VolunteerScreening.step ledger.file request.request = work.commit request.ambient :=
    VolunteerScreening.step_of_ok success
  unfold step
  rw [accepted, left]
  rfl

@[simp]
theorem on_standing (file : VolunteerFile) (footing : Footing) :
    (ledger.on file).standing pk footing = ledger.standing pk footing := by
  cases footing <;> rfl

theorem standing_completing (other : Pk) (footing : Footing) :
    (ledger.completing ambient pk).standing other footing =
      if other = pk ∧ footing = .completion then ledger.entryMade ambient
      else ledger.standing other footing := by
  cases footing with
  | waiver => simp [standing, completing]
  | completion => simp [standing, completing, Function.update_apply]
  | nothing => simp [standing]

theorem standing_waiving (other : Pk) (footing : Footing) :
    (ledger.waiving ambient pk).standing other footing =
      if other = pk ∧ footing = .waiver then ledger.entryMade ambient
      else ledger.standing other footing := by
  cases footing with
  | waiver => simp [standing, waiving, Function.update_apply]
  | completion => simp [standing, waiving]
  | nothing => simp [standing]

theorem standing_sendingBack_other {position : Nat} {item : ReviewItem}
    (listed : ledger.file.reviewItems[position]? = some item) {other : Pk}
    (elsewhere : item.coveredInstance ≠ some other) (footing : Footing) :
    (ledger.sendingBack position).standing other footing = ledger.standing other footing := by
  unfold sendingBack
  rw [listed]
  dsimp only
  split
  · next _ covered _ covers =>
      have apart : other ≠ covered := by
        rintro rfl
        exact elsewhere covers
      split
      · cases footing <;> simp [standing, apart]
      · rfl
  · rfl

/-! ### Recordings -/

theorem Sound.onInstance (sound : ledger.Sound) {position : Nat} {item : ReviewItem}
    (listed : ledger.file.reviewItems[position]? = some item)
    (covers : item.entity = .requirementInstance pk) {other : Pk}
    (points : item.pointsAt (.requirementInstance other) = true) : other = pk := by
  have shaped := sound.shaped position item listed
  rw [shaped.pointsAt_iff] at points
  cases shaped with
  | onInstance _ _ alone _ =>
      unfold ReviewItem.coveredInstance at points
      rw [covers] at points
      exact (Option.some.inj points).symm
  | onDocument _ _ document _ _ _ => cases covers.symm.trans document

theorem Sound.newDocument (sound : ledger.Sound) {position : Nat} {item : ReviewItem}
    (listed : ledger.file.reviewItems[position]? = some item) :
    item.entity ≠ .document ledger.file.documents.length := by
  intro covers
  cases sound.shaped position item listed with
  | onInstance _ instance' _ _ => cases covers.symm.trans instance'
  | onDocument document inFile covers' _ _ _ =>
      obtain rfl := Entity.document.inj (covers.symm.trans covers')
      exact inFile.false

section Recording

variable {entry : Entry} {written : VolunteerFile}

/-- A recording leaves everything accounted for: its own entry awaits review wherever the
recording is what an instance now stands on. -/
theorem Accounted.recorded (accounted : ledger.Accounted) (sound : ledger.Sound)
    (same : written.reviewItems = ledger.file.reviewItems)
    (queued : after.file.reviewItems = queueAfter ambient entry written)
    (stands : ∀ pk, after.standsOn pk = ledger.standsOn pk ∨
      after.standsOn pk = ledger.entryMade ambient ∧
        (newItem ambient entry written).pointsAt (.requirementInstance pk) = true)
    (follows : ∀ (position : Nat) (item : ReviewItem),
      ledger.file.reviewItems[position]? = some item → item.entity = entry.entity →
      ∀ pk, item.pointsAt (.requirementInstance pk) = true →
        (newItem ambient entry written).pointsAt (.requirementInstance pk) = true) :
    after.Accounted := by
  have sole : reviewQueue.SoleOpen written.reviewItems := same ▸ sound.sole
  intro pk recording standing
  rw [queued]
  rcases stands pk with kept | ⟨made, points⟩
  · rw [kept] at standing
    have before := accounted pk recording standing
    rw [← same] at before
    rcases before with affirmed | awaits
    · exact .inl (affirmed.entered sole)
    · refine .inr (awaits.entered sole ?_)
      intro position item listed onRow pointed
      exact follows position item (same ▸ listed) onRow pk pointed
  · rw [made] at standing
    unfold entryMade at standing
    split at standing
    · next review =>
        rw [queueAfter_eq_post sole review]
        exact .inr ⟨_, _, Worklist.post_getElem?_last, rfl, points⟩
    · cases standing

theorem Sound.recorded (sound : ledger.Sound)
    (same : written.reviewItems = ledger.file.reviewItems)
    (queued : after.file.reviewItems = queueAfter ambient entry written)
    (grows : ledger.file.documents.length ≤ after.file.documents.length)
    (shaped : Shaped after.file.documents.length (newItem ambient entry written).said) :
    after.Sound := by
  have sole : reviewQueue.SoleOpen written.reviewItems := same ▸ sound.sole
  refine ⟨?_, ?_⟩
  · rw [queued]
    exact (queueAfter_advances sole).2
  · intro position later found
    rw [queued] at found
    by_cases earlier : position < written.reviewItems.length
    · obtain ⟨other, there, outlasts⟩ := (queueAfter_advances sole).1 position _
        (List.getElem?_eq_getElem earlier)
      obtain rfl := Option.some.inj (found.symm.trans there)
      have unchanged : later.said = written.reviewItems[position].said := outlasts.entry
      rw [unchanged]
      refine (sound.shaped position _ ?_).mono grows
      rw [← same]
      exact List.getElem?_eq_getElem earlier
    · cases review : ambient.actor.needsReview
      · rw [queueAfter_unreviewed review, List.getElem?_eq_none (by omega)] at found
        cases found
      · rw [queueAfter_eq_post sole review] at found
        rcases Worklist.post_getElem?_cases found with ⟨inRange, _⟩ | ⟨_, rfl⟩
        · exact absurd inRange earlier
        · exact shaped

end Recording

theorem recordedOn (sound : ledger.Sound) (accounted : ledger.Accounted) {entry : Entry}
    {row : RequirementInstance} (covers : entry.entity = .requirementInstance pk)
    (alone : entry.affectedEntity = none)
    (kind : entry.kind = .requirementCompletion ∨ entry.kind = .waiver)
    (written : after.file = refreshDependents ambient.settings ambient.today pk
      { ledger.file.saveInstance pk row with
        reviewItems := queueAfter ambient entry ledger.file })
    (stands : ∀ other footing, after.standing other footing =
      if other = pk ∧ footing = row.footing then ledger.entryMade ambient
      else ledger.standing other footing) : after.Sound ∧ after.Accounted := by
  have moved : footings after.file =
      Function.update (footings ledger.file) pk row.footing := by
    rw [written, refreshDependents_footings]
    exact saveInstance_footings ledger.file pk row
  have queued : after.file.reviewItems = queueAfter ambient entry ledger.file := by
    rw [written, refreshDependents_eq]
  have documents : after.file.documents = ledger.file.documents := by
    rw [written, refreshDependents_eq]
    rfl
  have points : (newItem ambient entry ledger.file).pointsAt (.requirementInstance pk) = true := by
    simp [ReviewItem.pointsAt, newItem, covers]
  refine ⟨sound.recorded rfl queued (congrArg List.length documents).ge ?_,
    accounted.recorded sound rfl queued ?_ ?_⟩
  · exact .onInstance pk covers alone kind
  · intro other
    unfold standsOn
    rw [moved, stands]
    by_cases same : other = pk
    · subst same
      rw [Function.update_self, if_pos ⟨rfl, rfl⟩]
      exact .inr ⟨rfl, points⟩
    · rw [Function.update_of_ne same, if_neg (fun both => same both.1)]
      exact .inl rfl
  · intro position item listed onRow other pointed
    obtain rfl := sound.onInstance listed (onRow.trans covers) pointed
    exact points

theorem mark_accounted (sound : ledger.Sound) (accounted : ledger.Accounted) {completedOn : Date}
    {notes : String} {work : Work}
    (success : perform ambient (.markRequirementComplete pk completedOn notes) ledger.file =
      .ok work) :
    ((ledger.completing ambient pk).on (work.commit ambient)).Sound ∧
      ((ledger.completing ambient pk).on (work.commit ambient)).Accounted := by
  obtain ⟨_, marked, rfl⟩ := map_eq_ok_iff.mp success
  obtain ⟨definition, row, _, _, _, _, rfl⟩ := markRequirementComplete_ok marked
  refine recordedOn sound accounted rfl rfl (.inl rfl) rfl ?_
  intro other footing
  rw [on_standing]
  exact standing_completing other footing

theorem waive_accounted (sound : ledger.Sound) (accounted : ledger.Accounted)
    {reason waivedBy : String} {work : Work}
    (success : perform ambient (.waiveRequirement pk reason waivedBy) ledger.file = .ok work) :
    ((ledger.waiving ambient pk).on (work.commit ambient)).Sound ∧
      ((ledger.waiving ambient pk).on (work.commit ambient)).Accounted := by
  obtain ⟨_, waived, rfl⟩ := map_eq_ok_iff.mp success
  obtain ⟨definition, row, _, _, _, rfl⟩ := waiveRequirement_ok waived
  refine recordedOn sound accounted rfl rfl (.inr rfl) rfl ?_
  intro other footing
  rw [on_standing]
  exact standing_waiving other footing

theorem addDocument_documents (document : Document) (supersedes : Option Nat)
    (file : VolunteerFile) :
    (addDocument document supersedes file).documents.length = file.documents.length + 1 := by
  unfold addDocument
  cases supersedes <;> simp

theorem store_accounted (sound : ledger.Sound) (accounted : ledger.Accounted)
    {entry : DocumentEntry} {work : Work}
    (success : perform ambient (.storeDocument entry) ledger.file = .ok work) :
    ((ledger.account ⟨ambient, .storeDocument entry⟩).on (work.commit ambient)).Sound ∧
      ((ledger.account ⟨ambient, .storeDocument entry⟩).on (work.commit ambient)).Accounted := by
  obtain ⟨stored, recorded, rfl⟩ := map_eq_ok_iff.mp success
  unfold account
  dsimp only
  have fresh : ∀ (position : Nat) (item : ReviewItem),
      ledger.file.reviewItems[position]? = some item →
      item.entity ≠ .document ledger.file.documents.length :=
    fun _ _ listed => sound.newDocument listed
  cases completes : entry.completes ambient ledger.file with
  | none =>
      obtain ⟨document, rfl⟩ := storeDocument_of_not_completes recorded completes
      refine ⟨sound.recorded rfl rfl ?_ ?_, accounted.recorded sound rfl rfl ?_ ?_⟩
      · exact (addDocument_documents document entry.supersedes ledger.file).symm ▸
          Nat.le_succ _
      · refine .onDocument ledger.file.documents.length ?_ rfl (.inl rfl) rfl rfl
        show _ < (addDocument document entry.supersedes ledger.file).documents.length
        rw [addDocument_documents]
        exact Nat.lt_succ_self _
      · exact fun _ => .inl rfl
      · exact fun position item listed onRow => absurd onRow (fresh position item listed)
  | some pk =>
      obtain ⟨document, definition, row, completedOn, written, _, _, _, _, _, saved, rfl⟩ :=
        storeDocument_of_completes recorded completes
      have moved : footings written =
          Function.update (footings ledger.file) pk .completion := by
        rw [saved, refreshDependents_footings, saveInstance_footings]
        rfl
      have same : written.reviewItems = ledger.file.reviewItems := by
        rw [saved, refreshDependents_eq]
        rfl
      have documents : written.documents.length = ledger.file.documents.length + 1 := by
        rw [saved, refreshDependents_eq]
        exact addDocument_documents document entry.supersedes ledger.file
      refine ⟨sound.recorded same rfl ?_ ?_, accounted.recorded sound same rfl ?_ ?_⟩
      · exact documents.symm ▸ Nat.le_succ _
      · refine .onDocument ledger.file.documents.length ?_ rfl (.inr ⟨pk, rfl⟩) rfl rfl
        show _ < written.documents.length
        rw [documents]
        exact Nat.lt_succ_self _
      · intro other
        have stands := @standing_completing ledger ambient pk other (footings written other)
        by_cases here : other = pk
        · subst here
          have completed : footings written other = .completion := by
            rw [moved, Function.update_self]
          refine .inr ⟨stands.trans (if_pos ⟨rfl, completed⟩), ?_⟩
          simp [ReviewItem.pointsAt, newItem, documentEntry]
        · refine .inl ((stands.trans (if_neg fun both => here both.1)).trans ?_)
          rw [moved, Function.update_of_ne here]
          rfl
      · exact fun position item listed onRow => absurd onRow (fresh position item listed)

/-! ### Decisions -/

/-- Reversing a waiver leaves everything accounted for exactly where the completion it uncovers
is. -/
theorem reverse_accounted_iff (accounted : ledger.Accounted) {reason : String} {work : Work}
    (success : perform ambient (.reverseWaiver pk reason) ledger.file = .ok work) :
    (ledger.on (work.commit ambient)).Accounted ↔
      ∀ entry, ledger.standing pk
          (.ofCompletion ((ledger.file.requirementInstances pk).bind (·.completedOn))) =
          some entry →
        IsAffirmed ledger.file.reviewItems entry ∨ Awaits ledger.file.reviewItems pk := by
  obtain ⟨after, reversed, rfl⟩ := map_eq_ok_iff.mp success
  obtain ⟨row, present, _, written⟩ := reverseWaiver_ok reversed
  have moved : footings after = Function.update (footings ledger.file) pk
      (.ofCompletion ((ledger.file.requirementInstances pk).bind (·.completedOn))) := by
    rw [written, refreshDependents_footings, saveInstance_footings, present]
    simp
  have queue : after.reviewItems = ledger.file.reviewItems := by
    rw [written, refreshDependents_eq]
    rfl
  have stands : ∀ other, (ledger.on after).standsOn other = if other = pk then
      ledger.standing pk
        (.ofCompletion ((ledger.file.requirementInstances pk).bind (·.completedOn)))
      else ledger.standsOn other := by
    intro other
    show (ledger.on after).standing other (footings after other) = _
    rw [on_standing, moved]
    by_cases same : other = pk
    · subst same
      rw [Function.update_self, if_pos rfl]
    · rw [Function.update_of_ne same, if_neg same]
      rfl
  constructor
  · intro stillAccounted entry standing
    have here := stillAccounted pk entry
      (by rw [Work.commit_start, stands, if_pos rfl]; exact standing)
    rwa [← queue]
  · intro uncovered other entry standing
    show IsAffirmed after.reviewItems entry ∨ Awaits after.reviewItems other
    rw [queue]
    rw [Work.commit_start, stands] at standing
    split at standing
    · next same =>
        subst same
        exact uncovered entry standing
    · exact accounted other entry standing

theorem decided_accounted_iff (sound : ledger.Sound) (accounted : ledger.Accounted)
    {position : Nat} {item decided : ReviewItem}
    (listed : ledger.file.reviewItems[position]? = some item) (isOpen : item.isOpen = true)
    (shut : decided.isOpen = false)
    (queued : after.file.reviewItems = ledger.file.reviewItems.set position decided)
    (elsewhere : ∀ pk, item.coveredInstance ≠ some pk → after.standsOn pk = ledger.standsOn pk) :
    after.Accounted ↔ ∀ pk, item.coveredInstance = some pk → ∀ entry,
      after.standsOn pk = some entry →
        (entry = position ∧ decided.status = .affirmed ∨
          IsAffirmed ledger.file.reviewItems entry) ∨
        AwaitsApart ledger.file.reviewItems position pk := by
  have exactly : after.Accounted ↔ ∀ pk entry, after.standsOn pk = some entry →
      (entry = position ∧ decided.status = .affirmed ∨
        IsAffirmed ledger.file.reviewItems entry) ∨
      AwaitsApart ledger.file.reviewItems position pk := by
    unfold Accounted
    rw [queued]
    simp only [isAffirmed_set_iff listed isOpen, awaits_set_iff shut]
  rw [exactly]
  constructor
  · exact fun all pk _ => all pk
  · intro covered pk entry standing
    by_cases covers : item.coveredInstance = some pk
    · exact covered pk covers entry standing
    · rw [elsewhere pk covers] at standing
      have apart : item.pointsAt (.requirementInstance pk) = false := by
        by_contra points
        exact covers ((sound.shaped position item listed).pointsAt_iff.mp (by simpa using points))
      rcases accounted pk entry standing with affirmed | awaits
      · exact .inl (.inr affirmed)
      · exact .inr ((awaitsApart_iff listed apart).mpr awaits)

theorem Sound.closing (sound : ledger.Sound) {position : Nat} {item decided : ReviewItem}
    (listed : ledger.file.reviewItems[position]? = some item)
    (outlasts : reviewQueue.Outlasts item decided) (shut : decided.isOpen = false)
    (queued : after.file.reviewItems = ledger.file.reviewItems.set position decided)
    (documents : after.file.documents.length = ledger.file.documents.length) : after.Sound := by
  refine ⟨?_, ?_⟩
  · rw [queued]
    exact sound.sole.set shut
  · intro other later found
    rw [queued] at found
    rw [documents]
    rcases Worklist.set_getElem?_cases found with ⟨rfl, rfl⟩ | ⟨_, there⟩
    · have said : later.said = item.said := outlasts.entry
      rw [said]
      exact sound.shaped other item listed
    · exact sound.shaped other later there

theorem affirm_accounted_iff (sound : ledger.Sound) (accounted : ledger.Accounted)
    {user : Core.User} {position : Nat} {work : Work}
    (success : perform ambient (.affirm user position) ledger.file = .ok work) :
    (ledger.on (work.commit ambient)).Sound ∧
      ((ledger.on (work.commit ambient)).Accounted ↔
        ∀ item pk, ledger.file.reviewItems[position]? = some item →
          item.coveredInstance = some pk → ∀ entry, ledger.standsOn pk = some entry →
          entry = position ∨ IsAffirmed ledger.file.reviewItems entry ∨
            AwaitsApart ledger.file.reviewItems position pk) := by
  obtain ⟨_, affirmed, rfl⟩ := map_eq_ok_iff.mp success
  obtain ⟨item, listed, isOpen, _, rfl⟩ := affirm_ok affirmed
  obtain ⟨outlasts, shut⟩ :=
    closed_outlasts item (by decide : ReviewStatus.affirmed ≠ .pending) (some user) "" ambient.now
  refine ⟨sound.closing listed outlasts shut rfl rfl, ?_⟩
  have exactly := @decided_accounted_iff ledger (ledger.on { ledger.file with
    reviewItems := ledger.file.reviewItems.set position
      (item.closed .affirmed (some user) "" ambient.now) }) sound accounted position item _ listed
    isOpen shut rfl fun _ _ => rfl
  refine exactly.trans ?_
  constructor
  · intro covered other pk found covers entry standing
    obtain rfl := Option.some.inj (listed.symm.trans found)
    rcases covered pk covers entry standing with (⟨same, _⟩ | before) | awaits
    · exact .inl same
    · exact .inr (.inl before)
    · exact .inr (.inr awaits)
  · intro covered pk covers entry standing
    rcases covered item pk listed covers entry standing with same | before | awaits
    · exact .inl (.inl ⟨same, rfl⟩)
    · exact .inl (.inr before)
    · exact .inr awaits

theorem revert_documents {item : ReviewItem} {reason : String} {work after : Work}
    {outcome : Outcome} {documents : Nat} (shaped : Shaped documents item.said)
    (success : revert ambient item reason work = .ok (after, outcome)) :
    after.file.documents.length = work.file.documents.length := by
  have notCrc : item.kind ≠ .crc := shaped.notCrc
  obtain ⟨_, _, crc, _⟩ | ⟨_, rows, _, sameLength, rfl⟩ := revert_ok success
  · exact absurd crc notCrc
  · exact sameLength

theorem sendBack_accounted_iff (sound : ledger.Sound) (accounted : ledger.Accounted)
    {user : Core.User} {position : Nat} {reason : String} {work : Work}
    (success : perform ambient (.sendBack user position reason) ledger.file = .ok work) :
    ((ledger.sendingBack position).on (work.commit ambient)).Sound ∧
      (((ledger.sendingBack position).on (work.commit ambient)).Accounted ↔
        ∀ item pk, ledger.file.reviewItems[position]? = some item →
          item.coveredInstance = some pk → ∀ entry, (ledger.sendingBack position).standing pk
            (footingOnceSentBack ledger.file item pk) = some entry →
          IsAffirmed ledger.file.reviewItems entry ∨
            AwaitsApart ledger.file.reviewItems position pk) := by
  obtain ⟨⟨_, outcome⟩, sentBack, rfl⟩ := map_eq_ok_iff.mp success
  obtain ⟨item, reverted, listed, isOpen, _, undone, rfl⟩ := sendBack_ok sentBack
  have shaped := sound.shaped position item listed
  obtain ⟨outlasts, shut⟩ :=
    closed_outlasts item (by decide : ReviewStatus.sentBack ≠ .pending) (some user) reason
      ambient.now
  have queue : reverted.file.reviewItems = ledger.file.reviewItems := revert_reviewItems undone
  -- no resync is queued, and one footing moves at most
  obtain ⟨resyncs, moved⟩ : reverted.resyncs = 0 ∧ footings reverted.file =
      match item.coveredInstance with
      | some pk =>
          Function.update (footings ledger.file) pk (footingOnceSentBack ledger.file item pk)
      | none => footings ledger.file := by
    cases covers : item.coveredInstance with
    | none => exact revert_footings_of_uncovered shaped covers undone
    | some pk => exact revert_footings shaped covers undone
  let decided := item.closed .sentBack (some user) reason ambient.now
  have committed : (reverted.write fun file =>
      { file with reviewItems := file.reviewItems.set position decided }).commit ambient =
        { reverted.file with reviewItems := ledger.file.reviewItems.set position decided } := by
    unfold Work.commit Work.write
    rw [resyncs, ← queue]
    rfl
  have stands : ∀ pk, ((ledger.sendingBack position).on
      { reverted.file with
        reviewItems := ledger.file.reviewItems.set position decided }).standsOn pk =
      (ledger.sendingBack position).standing pk (footings reverted.file pk) :=
    fun pk => on_standing _ _
  dsimp only
  rw [committed]
  refine ⟨sound.closing listed outlasts shut rfl (revert_documents shaped undone), ?_⟩
  have exactly := @decided_accounted_iff ledger ((ledger.sendingBack position).on
    { reverted.file with reviewItems := ledger.file.reviewItems.set position decided }) sound
    accounted position item decided listed isOpen shut rfl (by
      intro pk elsewhere
      rw [stands, standing_sendingBack_other listed elsewhere, moved]
      cases covers : item.coveredInstance with
      | none => rfl
      | some covered =>
          have apart : pk ≠ covered := by
            rintro rfl
            exact elsewhere covers
          dsimp only
          rw [Function.update_of_ne apart]
          rfl)
  refine exactly.trans ?_
  have unaffirmed : decided.status ≠ .affirmed := by simp [decided, ReviewItem.closed]
  have left : ∀ pk, item.coveredInstance = some pk →
      footings reverted.file pk = footingOnceSentBack ledger.file item pk := by
    intro pk covers
    rw [moved, covers]
    exact Function.update_self ..
  constructor
  · intro covered other pk found covers entry standing
    obtain rfl := Option.some.inj (listed.symm.trans found)
    rw [← left pk covers, ← stands] at standing
    rcases covered pk covers entry standing with (⟨_, affirmed⟩ | before) | awaits
    · exact absurd affirmed unaffirmed
    · exact .inl before
    · exact .inr awaits
  · intro covered pk covers entry standing
    rw [stands, left pk covers] at standing
    rcases covered item pk listed covers entry standing with before | awaits
    · exact .inl (.inr before)
    · exact .inr awaits

theorem Sound.reversing (sound : ledger.Sound) {reason : String} {work : Work}
    (success : perform ambient (.reverseWaiver pk reason) ledger.file = .ok work) :
    (ledger.on (work.commit ambient)).Sound := by
  obtain ⟨after, reversed, rfl⟩ := map_eq_ok_iff.mp success
  obtain ⟨row, _, _, rfl⟩ := reverseWaiver_ok reversed
  rw [Work.commit_start, refreshDependents_eq]
  exact ⟨sound.sole, sound.shaped⟩

/-! ### Runs -/

theorem step_accounted_iff (sound : ledger.Sound) (accounted : ledger.Accounted)
    (request : ReviewedRequest) :
    (ledger.step request).Sound ∧
      ((ledger.step request).Accounted ↔ ledger.Accounts request) := by
  obtain ⟨ambient, action⟩ := request
  cases performed : perform ambient action.operation ledger.file with
  | error refusal =>
      have refused : (ReviewedRequest.request ⟨ambient, action⟩).isRefused ledger.file = true :=
        Request.isRefused_of_error performed
      rw [step_of_refused refused]
      refine ⟨sound, fun _ accepted => ?_, fun _ => accounted⟩
      rw [refused] at accepted
      cases accepted
  | ok work =>
      obtain ⟨accepted, stepped⟩ :=
        @step_of_accepted ledger ⟨ambient, action⟩ work performed
      rw [stepped]
      have condition : ∀ {law : Prop},
          ((ReviewedRequest.request ⟨ambient, action⟩).isRefused ledger.file = false → law) ↔
            law := fun {law} => forall_prop_of_true accepted
      unfold Accounts
      rw [condition]
      cases action with
      | markRequirementComplete pk completedOn notes =>
          obtain ⟨stillSound, stillAccounted⟩ := mark_accounted sound accounted performed
          exact ⟨stillSound, fun _ => trivial, fun _ => stillAccounted⟩
      | storeDocument entry =>
          obtain ⟨stillSound, stillAccounted⟩ := store_accounted sound accounted performed
          exact ⟨stillSound, fun _ => trivial, fun _ => stillAccounted⟩
      | waiveRequirement pk reason waivedBy =>
          obtain ⟨stillSound, stillAccounted⟩ := waive_accounted sound accounted performed
          exact ⟨stillSound, fun _ => trivial, fun _ => stillAccounted⟩
      | reverseWaiver pk reason =>
          exact ⟨sound.reversing performed, reverse_accounted_iff accounted performed⟩
      | affirm user position => exact affirm_accounted_iff sound accounted performed
      | sendBack user position reason => exact sendBack_accounted_iff sound accounted performed

def blank (file : VolunteerFile) : Ledger :=
  ⟨{ file with reviewItems := [] }, fun _ => none, fun _ => none, fun _ => none⟩

theorem blank_sound (file : VolunteerFile) : (blank file).Sound := by
  refine ⟨Worklist.soleOpen_nil, ?_⟩
  intro position item listed
  simp [blank] at listed

theorem blank_accounted (file : VolunteerFile) : (blank file).Accounted := by
  intro pk entry stands
  unfold standsOn standing blank at stands
  split at stands <;> cases stands

end Ledger

/-- Throughout a run every scoped recording that an instance stands on was affirmed or has an open
item pointing at the instance, exactly when every request of the run that goes through meets the
condition. -/
theorem nothing_escapes_iff (file : VolunteerFile) (requests : List ReviewedRequest) :
    Machine.Always Ledger.step Ledger.Accounted (.blank file) requests ↔
      Machine.Guarded Ledger.step Ledger.Accounts (.blank file) requests :=
  Machine.always_iff_guarded Ledger.step Ledger.Accounts Ledger.Sound Ledger.Accounted
    (fun _ request sound accounted _ => (Ledger.step_accounted_iff sound accounted request).1)
    (fun _ request sound accounted => (Ledger.step_accounted_iff sound accounted request).2)
    (Ledger.blank_sound file) (Ledger.blank_accounted file) requests

def orientee : VolunteerFile :=
  step (.opened Sample.adult)
    ⟨Sample.byPrimaryAdmin Sample.orientationOnly (Sample.march 0),
      .assignmentCreate Sample.primaryAdmin 1 (Sample.march 0)⟩

/-- A scoped administrator records the orientation twice, and the second entry is sent back. -/
def escapingRun : List ReviewedRequest :=
  [⟨Sample.byDepartmentAdmin Sample.orientationOnly (Sample.march 0),
      .markRequirementComplete 1 (Sample.february 0) ""⟩,
    ⟨Sample.byDepartmentAdmin Sample.orientationOnly (Sample.march 0),
      .markRequirementComplete 1 (Sample.february 9) ""⟩,
    ⟨Sample.byPrimaryAdmin Sample.orientationOnly (Sample.march 0),
      .sendBack Sample.primaryAdmin 1 "Wrong date"⟩]

/-- The instance stands on the first recording, whose entry the second had superseded, and nothing
awaits review. -/
theorem superseded_completion_escapes :
    ∃ ledger row, Machine.run Ledger.step (.blank orientee) escapingRun = ledger ∧
      ledger.file.requirementInstances 1 = some row ∧ row.status = .complete ∧
      row.completedOn = some (Sample.day ⟨2, by decide⟩ 0) ∧ ledger.standsOn 1 = some 0 ∧
      ledger.file.reviewItems.map (·.status) = [.superseded, .sentBack] ∧ ¬ledger.Accounted := by
  refine ⟨_, _, rfl, rfl, rfl, rfl, rfl, rfl, ?_⟩
  intro accounted
  rcases accounted 1 0 rfl with ⟨item, listed, affirmed⟩ | ⟨position, item, listed, isOpen, _⟩
  · cases listed
    cases affirmed
  · have member := List.mem_of_getElem? listed
    have shut : ∀ other ∈ (Machine.run Ledger.step (.blank orientee) escapingRun).file.reviewItems,
        other.isOpen = false := by decide
    rw [shut item member] at isOpen
    cases isOpen

end VolunteerScreening
