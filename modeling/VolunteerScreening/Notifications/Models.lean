import VolunteerScreening.Requirements.Models

/-!
# Reminders and emails

A reminder is claimed by a row of the log.  No two rows that carry a date share
their instance, kind, lead time and date; a row without one escapes the
constraint.
-/

namespace VolunteerScreening.Notifications

open Calendar Org Requirements

inductive ReminderKind where
  | leadTime
  | overdue
  | turning18
  deriving DecidableEq, Repr

inductive NotificationStatus where
  | queued
  | sent
  | failed
  deriving DecidableEq, Repr

/-- A requirement instance as a search loads it: its volunteer's key and row, its definition, and
its own row. -/
structure LoadedInstance where
  volunteerId : Nat
  volunteer : Volunteer
  definition : RequirementDefinition
  row : RequirementInstance

structure ReminderLog where
  volunteer : Nat
  definition : Pk
  kind : ReminderKind
  leadDays : Nat
  expiryAtSend : Option Date
  deriving DecidableEq

namespace ReminderLog

/-- Whether the unique constraint refuses a row beside one that is there. -/
def clashes (row existing : ReminderLog) : Bool :=
  row.expiryAtSend.isSome && row == existing

def create (rows : List ReminderLog) (row : ReminderLog) : Option (List ReminderLog) :=
  if rows.any row.clashes then none else some (rows ++ [row])

theorem create_eq_some {rows after : List ReminderLog} {row : ReminderLog}
    (dated : row.expiryAtSend.isSome = true) :
    create rows row = some after ↔ row ∉ rows ∧ after = rows ++ [row] := by
  have fresh : rows.any row.clashes = true ↔ row ∈ rows := by
    simp [clashes, dated]
  unfold create
  split
  · next taken => simp [fresh.mp taken]
  · next free =>
      have absent : row ∉ rows := fun listed => free (fresh.mpr listed)
      simp [absent, eq_comm]

theorem create_keeps {rows after : List ReminderLog} {row : ReminderLog}
    (created : create rows row = some after) : after = rows ++ [row] := by
  unfold create at created
  split at created
  · cases created
  · exact (Option.some.inj created).symm

end ReminderLog

structure Entry where
  loaded : LoadedInstance
  kind : ReminderKind
  leadDays : Nat
  dueDate : Option Date

def Entry.log (entry : Entry) : ReminderLog where
  volunteer := entry.loaded.volunteerId
  definition := entry.loaded.definition.pk
  kind := entry.kind
  leadDays := entry.leadDays
  expiryAtSend := entry.dueDate

/-- A message the system attempted to send, with the entries its body lists. -/
structure EmailLog where
  recipients : List String
  subject : String
  overdue : List Entry
  upcoming : List Entry
  itemCount : Nat
  status : NotificationStatus
  provider : String
  error : String

namespace EmailLog

variable (email : EmailLog)

def markSent (provider : String) : EmailLog :=
  { email with status := .sent, provider := provider }

def markFailed (error provider : String) : EmailLog :=
  { email with status := .failed, provider := provider, error := Text.truncate 500 error }

def entries : List Entry := email.overdue ++ email.upcoming

end EmailLog

end VolunteerScreening.Notifications
