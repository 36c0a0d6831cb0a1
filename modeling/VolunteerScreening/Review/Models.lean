import VolunteerScreening.Requirements.Models

/-!
# The review queue's rows

What a scoped administrator recorded and whether a church-wide administrator has
affirmed it.  An item points at the row it covers, and at the row it affects,
and keeps what the record looked like before.  Closing is final.
-/

namespace VolunteerScreening.Review

open Calendar Fallible Org Requirements

/-- A reviewed row of one volunteer's file.  Requirement instances go by their definition, the
other rows by their position. -/
inductive Entity where
  | requirementInstance (definition : Pk)
  | crcRecord (position : Nat)
  | disqualifyingConviction (position : Nat)
  | discretionaryOverride (position : Nat)
  | document (position : Nat)
  deriving DecidableEq, Repr

inductive ReviewKind where
  | requirementCompletion
  | document
  | crc
  | waiver
  | override
  deriving DecidableEq, Repr

inductive ReviewStatus where
  | pending
  | affirmed
  | sentBack
  | superseded
  deriving DecidableEq, Repr

def ReviewStatus.displayLower : ReviewStatus → String
  | .pending => "awaiting review"
  | .affirmed => "affirmed"
  | .sentBack => "sent back"
  | .superseded => "superseded before review"

/-- A requirement instance's plaintext fields, as `_snapshot` copies them. -/
structure InstanceSnapshot where
  status : RequirementStatus
  startedOn : Option Date
  completedOn : Option Date
  expiresOn : Option Date
  dueOn : Option Date
  dueReason : String
  deriving DecidableEq

/-- What the record looked like before: only the keys a snapshot may hold, each present when
its writer put it there. -/
structure Snapshot where
  requirement : Option InstanceSnapshot
  screeningBlock : Option ScreeningBlock
  isCurrent : Option Bool
  supersededById : Option Nat
  endedAssignments : Option (List String)
  deriving DecidableEq

namespace Snapshot

def empty : Snapshot := ⟨none, none, none, none, none⟩

variable (snapshot : Snapshot)

def startedOn : Option Date := snapshot.requirement.bind (·.startedOn)
def completedOn : Option Date := snapshot.requirement.bind (·.completedOn)
def expiresOn : Option Date := snapshot.requirement.bind (·.expiresOn)
def dueOn : Option Date := snapshot.requirement.bind (·.dueOn)
def dueReason : String := (snapshot.requirement.map (·.dueReason)).getD ""

/-- `endedAssignments`, with an absent key read as no assignments. -/
def ended : List String := snapshot.endedAssignments.getD []

end Snapshot

/-- One recorded action awaiting, or having had, a church-wide administrator's affirmation. -/
structure ReviewItem where
  kind : ReviewKind
  entity : Entity
  entityLabel : String
  affectedEntity : Option Entity
  status : ReviewStatus
  recordedByUserId : Option Pk
  recordedByDisplay : String
  department : Option Pk
  beforeState : Snapshot
  reviewedAt : Option Nat
  reviewedByUserId : Option Pk
  reviewedByDisplay : String
  decisionReason : String
  supersededBy : Option Nat
  deriving DecidableEq

namespace ReviewItem

variable (item : ReviewItem)

def isOpen : Bool := item.status == .pending

def pointsAt (entity : Entity) : Bool :=
  item.entity == entity || item.affectedEntity == some entity

/-- The requirement instance this item covers, directly or through the affected row. -/
def coveredInstance : Option Pk :=
  match item.entity with
  | .requirementInstance definition => some definition
  | _ =>
      match item.affectedEntity with
      | some (.requirementInstance definition) => some definition
      | _ => none

def closed (status : ReviewStatus) (reviewer : Option Core.User) (reason : String) (now : Nat) :
    ReviewItem :=
  { item with
    status := status
    reviewedAt := some now
    reviewedByUserId := reviewer.map (·.pk)
    reviewedByDisplay := (reviewer.map (·.displayName)).getD "system"
    decisionReason := reason }

/-- `_close`: move to a terminal state; there is no re-open. -/
def close (status : ReviewStatus) (reviewer : Option Core.User) (reason : String) (now : Nat) :
    Except Refusal ReviewItem := do
  refuseIf (item.isOpen = false)
    (Refusal.invalid (s!"This entry has already been {item.status.displayLower}; a review " ++
      "cannot be reopened. Record the entry again instead."))
  let after := item.closed status reviewer reason now
  let unexplained : Errors :=
    if status = .sentBack ∧ Text.isBlank reason then
      [("decision_reason", "A reason is required when sending an entry back.")]
    else []
  (Errors.tooLong "reviewed_by_display" 150 after.reviewedByDisplay ++ unexplained).raise
  return after

def affirm (reviewer : Core.User) (now : Nat) : Except Refusal ReviewItem :=
  item.close .affirmed (some reviewer) "" now

def sendBack (reviewer : Core.User) (reason : String) (now : Nat) :
    Except Refusal ReviewItem := do
  refuseIf (Text.isBlank reason)
    (Refusal.field "reason" "A reason is required when sending an entry back.")
  item.close .sentBack (some reviewer) reason now

/-- Close because the record moved on. -/
def supersede (now : Nat) : Except Refusal ReviewItem := item.close .superseded none "" now

/-- `supersede` on somebody's behalf, and with the item that replaces this one. -/
def supersedeBy (reviewer : Option Core.User) (replacement : Option Nat) (now : Nat) :
    Except Refusal ReviewItem := do
  let after ← item.close .superseded reviewer "" now
  return { after with supersededBy := replacement.or after.supersededBy }

theorem close_eq_ok_iff {status : ReviewStatus} {reviewer : Option Core.User} {reason : String}
    {now : Nat} {after : ReviewItem} :
    item.close status reviewer reason now = .ok after ↔
      item.isOpen = true ∧ ((reviewer.map (·.displayName)).getD "system").length ≤ 150 ∧
        (status = .sentBack → Text.isBlank reason = false) ∧
        after = item.closed status reviewer reason now := by
  unfold close
  simp only [bind_eq_ok_iff, refuseIf_eq_ok_iff, Errors.raise_eq_ok_iff, List.append_eq_nil_iff,
    Errors.tooLong_eq_nil_iff, pure_eq_ok_iff]
  constructor
  · rintro ⟨_, opened, _, ⟨short, explained⟩, rfl⟩
    refine ⟨by simpa using opened, short, ?_, rfl⟩
    rintro rfl
    by_contra blank
    simp [blank] at explained
  · rintro ⟨opened, short, explained, rfl⟩
    refine ⟨(), by simpa using opened, (), ⟨short, ?_⟩, rfl⟩
    rw [if_neg]
    rintro ⟨sentBack, blank⟩
    rw [explained sentBack] at blank
    cases blank

theorem close_ok {status : ReviewStatus} {reviewer : Option Core.User} {reason : String}
    {now : Nat} {after : ReviewItem}
    (success : item.close status reviewer reason now = .ok after) :
    item.status = .pending ∧ after = item.closed status reviewer reason now := by
  obtain ⟨opened, _, _, written⟩ := item.close_eq_ok_iff.mp success
  exact ⟨by simpa [isOpen] using opened, written⟩

theorem supersede_of_isOpen (now : Nat) (isOpen : item.isOpen = true) :
    item.supersede now = .ok (item.closed .superseded none "" now) := by
  have short : "system".length ≤ 150 := by decide
  exact item.close_eq_ok_iff.mpr ⟨isOpen, short, by simp, rfl⟩

theorem sendBack_eq_ok_iff {reviewer : Core.User} {reason : String} {now : Nat}
    {after : ReviewItem} :
    item.sendBack reviewer reason now = .ok after ↔
      item.isOpen = true ∧ reviewer.displayName.length ≤ 150 ∧ Text.isBlank reason = false ∧
        after = item.closed .sentBack (some reviewer) reason now := by
  unfold sendBack
  simp only [bind_eq_ok_iff, refuseIf_eq_ok_iff, close_eq_ok_iff, Option.map_some,
    Option.getD_some]
  constructor
  · rintro ⟨_, explained, opened, short, _, rfl⟩
    exact ⟨opened, short, by simpa using explained, rfl⟩
  · rintro ⟨opened, short, explained, rfl⟩
    exact ⟨(), by simp [explained], opened, short, fun _ => explained, rfl⟩

end ReviewItem

end VolunteerScreening.Review
