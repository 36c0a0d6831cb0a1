import VolunteerScreening.Church
import Mathlib.Data.List.Sort

/-!
# The review queue's page

Every review item of a church, oldest first, as the queue lists and counts them.
Instants count microseconds.
-/

namespace VolunteerScreening.Review

open Accounts

/-- How long an unreviewed entry may sit before it is called out as stale, in days. -/
def reviewStaleDays : Nat := 30

def pageSize : Nat := 50

def dayLength : Nat := 86400000000

abbrev CreationTimes := Nat → Nat → Nat

structure ListedItem where
  volunteer : Nat
  position : Nat
  file : VolunteerFile
  item : ReviewItem
  createdAt : Nat

namespace ListedItem

variable (listed : ListedItem)

/-- Older than the limit, and about somebody who still serves. -/
def isStale (now : Nat) : Bool :=
  listed.item.isOpen && listed.createdAt + reviewStaleDays * dayLength < now &&
    listed.file.volunteer.isActive

end ListedItem

def reviewItems (church : Church) (created : CreationTimes) : List ListedItem :=
  church.files.zipIdx.flatMap fun (file, volunteer) =>
    file.reviewItems.zipIdx.map fun (item, position) =>
      ⟨volunteer, position, file, item, created volunteer position⟩

def pendingItems (church : Church) (created : CreationTimes) : List ListedItem :=
  ((reviewItems church created).filter (·.item.isOpen)).insertionSort (·.createdAt ≤ ·.createdAt)

def staleItems (church : Church) (created : CreationTimes) (now : Nat) : List ListedItem :=
  (pendingItems church created).filter (·.isStale now)

def closedItems (church : Church) (created : CreationTimes) : List ListedItem :=
  ((reviewItems church created).filter fun listed => !listed.item.isOpen).insertionSort
    fun first second => second.item.reviewedAt.getD 0 ≤ first.item.reviewedAt.getD 0

structure PendingSummary where
  pending : Nat
  stale : Nat
  oldest : Option Nat
  hasScopedAdmins : Bool
  deriving DecidableEq

def pendingSummary (church : Church) (created : CreationTimes) (now : Nat) : PendingSummary where
  pending := (pendingItems church created).length
  stale := (staleItems church created now).length
  oldest := (pendingItems church created).head?.map (·.createdAt)
  hasScopedAdmins := church.directory.users.any fun user => user.grant.any fun grant =>
    (church.directory.levels[grant.accessLevel]?).any fun level => level.isScoped && level.isActive

inductive QueueShow where
  | pending
  | stale
  | closed
  deriving DecidableEq, Repr

/-- The queue's filters, and the number of the page asked for, if it reads as one. -/
structure QueueQuery where
  shown : QueueShow
  mine : Bool
  page : Option Int

structure QueuePage where
  items : List ListedItem
  total : Nat
  shown : QueueShow
  mine : Bool
  pendingCount : Nat
  staleCount : Nat
  staleDays : Nat
  canReview : Bool

/-- The page a paginator gives: the first when none is asked for, the last when it is out of
range. -/
def pageNumber (count : Nat) (asked : Option Int) : Nat :=
  let pages := max 1 ((count + pageSize - 1) / pageSize)
  match asked with
  | none => 1
  | some number => if 1 ≤ number ∧ number ≤ pages then number.toNat else pages

def pageItems {Row : Type} (rows : List Row) (asked : Option Int) : List Row :=
  (rows.drop ((pageNumber rows.length asked - 1) * pageSize)).take pageSize

def QueueQuery.selected (query : QueueQuery) (church : Church) (created : CreationTimes)
    (now : Nat) (user : Pk) : List ListedItem :=
  let items :=
    match query.shown with
    | .stale => staleItems church created now
    | .closed => closedItems church created
    | .pending => pendingItems church created
  if query.mine then items.filter (·.item.recordedByUserId == some user) else items

/-- Everything awaiting affirmation, for whoever may see volunteer records. -/
def queue (church : Church) (created : CreationTimes) (visit : Visit) (query : QueueQuery) :
    Except Refusal QueuePage := do
  let acting ← church.requires visit .viewVolunteers
  let items := query.selected church created visit.now acting.pk
  return {
    items := pageItems items query.page
    total := items.length
    shown := query.shown
    mine := query.mine
    pendingCount := (pendingItems church created).length
    staleCount := (staleItems church created visit.now).length
    staleDays := reviewStaleDays
    canReview := church.directory.administration.isUnscoped acting.account }

end VolunteerScreening.Review
