import VolunteerScreening.Notifications.Models
import VolunteerScreening.Review.Views
import VolunteerScreening.Tenants.Models

/-!
# Renewal reminders

What is owed on a day, the claim that keeps a reminder from going out twice, and
the one digest that carries what was newly claimed.
-/

namespace VolunteerScreening.Notifications

open Calendar Requirements Review Tenants

/-! ## Choosing what to remind about -/

def remindable (church : Church) : List LoadedInstance :=
  church.catalogue.active.flatMap fun definition =>
    church.files.zipIdx.filterMap fun (file, volunteer) =>
      match file.requirementInstances definition.pk with
      | none => none
      | some row =>
          if file.volunteer.isActive ∧ row.status ≠ .notApplicable ∧ row.status ≠ .waived then
            some ⟨volunteer, file.volunteer, definition, row⟩
          else none

def targets (tenant : Tenant) (asOf : Date) : List (Date × Nat) :=
  tenant.leadDays.map fun days => (asOf.addDays days, days)

def leadTo (tenant : Tenant) (asOf date : Date) : Option Nat :=
  ((targets tenant asOf).find? (·.1 == date)).map (·.2)

def approached (row : RequirementInstance) : Option Date :=
  match row.status with
  | .complete => row.expiresOn
  | .notStarted | .inProgress => row.dueOn
  | _ => none

/-- A record check that fell due on turning 18 is announced as one. -/
def approachingKind (row : RequirementInstance) : ReminderKind :=
  if Text.startsWith "Turned 18" row.dueReason then .turning18 else .leadTime

/-- Instances whose date is a lead time away. -/
def approachingEntries (tenant : Tenant) (church : Church) (asOf : Date) : List Entry :=
  (remindable church).filterMap fun loaded =>
    ((approached loaded.row).bind (leadTo tenant asOf)).map fun days =>
      { loaded := loaded
        kind := approachingKind loaded.row
        leadDays := days
        dueDate := loaded.row.effectiveDueDate }

def justOverdue (asOf : Date) (row : RequirementInstance) : Bool :=
  (row.expiresOn == some asOf.previous || row.dueOn == some asOf.previous) &&
    !(row.status == .complete && row.expiresOn.any (asOf ≤ ·))

def overdueEntries (church : Church) (asOf : Date) : List Entry :=
  ((remindable church).filter fun loaded => justOverdue asOf loaded.row).map fun loaded =>
    { loaded := loaded
      kind := .overdue
      leadDays := 0
      dueDate := loaded.row.effectiveDueDate }

def findDueReminders (tenant : Tenant) (church : Church) (asOf : Date) : List Entry :=
  approachingEntries tenant church asOf ++ overdueEntries church asOf

/-- Claim a reminder; `none` when it was already raised. -/
def raiseReminder (rows : List ReminderLog) (entry : Entry) : Option (List ReminderLog) :=
  ReminderLog.create rows entry.log

def raiseAll (rows : List ReminderLog) (candidates : List Entry) :
    List ReminderLog × List Entry :=
  candidates.foldl
    (fun (rows, claimed) entry =>
      match raiseReminder rows entry with
      | some after => (after, claimed ++ [entry])
      | none => (rows, claimed))
    (rows, [])

/-! ## The digest -/

/-- The addresses of the active church-wide administrators. -/
def adminRecipients (church : Church) : List String :=
  (church.directory.users.filter fun user =>
    user.isActive && user.email != "" && user.grant.any fun grant =>
      (church.directory.levels[grant.accessLevel]?).any (·.seesWholeChurch)).map (·.email)

/-- What the configured provider does with a message; a name it does not know is an error before
anything is handed over. -/
inductive Delivery where
  | unrecognised
  | refused (provider error : String)
  | accepted (provider : String)
  deriving DecidableEq

def subjectLine (tenant : Tenant) (overdueCount upcomingCount reviewCount : Nat) : String :=
  let parts :=
    (if overdueCount ≠ 0 then [s!"{overdueCount} overdue"] else []) ++
      (if upcomingCount ≠ 0 then [s!"{upcomingCount} coming due"] else [])
  let parts :=
    if reviewCount ≠ 0 ∧ parts = [] then [s!"{reviewCount} awaiting your review"] else parts
  let detail := if parts = [] then "update" else ", ".intercalate parts
  "[" ++ tenant.name ++ "] Volunteer screening: " ++ detail

/-- Upcoming entries are listed by lead time, and within one by the volunteer's name. -/
def upcomingBefore (first second : Entry) : Prop :=
  first.leadDays < second.leadDays ∨
    first.leadDays = second.leadDays ∧
      first.loaded.volunteer.sortName ≤ second.loaded.volunteer.sortName

instance : DecidableRel upcomingBefore := fun _ _ => inferInstanceAs (Decidable (_ ∨ _ ∧ _))

def digest (tenant : Tenant) (recipients : List String) (entries : List Entry)
    (backlog : PendingSummary) : EmailLog :=
  let overdue := entries.filter (·.kind == .overdue)
  let upcoming := (entries.filter (·.kind != .overdue)).insertionSort upcomingBefore
  { recipients := recipients
    subject := subjectLine tenant overdue.length upcoming.length backlog.pending
    overdue := overdue
    upcoming := upcoming
    itemCount := entries.length
    status := .queued
    provider := ""
    error := "" }

structure Outbox where
  reminders : List ReminderLog
  emails : List EmailLog

structure EmailSendError where
  deriving DecidableEq

def Delivery.logged (delivery : Delivery) (log : EmailLog) : EmailLog :=
  match delivery with
  | .unrecognised => log
  | .refused provider error => log.markFailed error provider
  | .accepted provider => log.markSent provider

/-- Send one church's digest and log it: the emails afterwards, and the log row when there is
one.  An unrecognised provider raises. -/
def sendDigest (tenant : Tenant) (church : Church) (delivery : Delivery) (emails : List EmailLog)
    (entries : List Entry) (backlog : PendingSummary) :
    List EmailLog × Except EmailSendError (Option EmailLog) :=
  if entries = [] ∧ backlog.stale = 0 then (emails, .ok none)
  else if !tenant.notificationsEnabled then (emails, .ok none)
  else if adminRecipients church = [] then (emails, .ok none)
  else
    let log := delivery.logged (digest tenant (adminRecipients church) entries backlog)
    (emails ++ [log], if delivery = .unrecognised then .error {} else .ok (some log))

structure ReminderSummary where
  candidates : Nat
  claimed : Nat
  reviewPending : Nat
  sent : Bool

structure Pass where
  asOf : Date
  now : Nat
  created : CreationTimes
  delivery : Delivery

/-- The nightly reminder pass for one church: the logs it leaves, and what it reports. -/
def processTenantReminders (tenant : Tenant) (church : Church) (pass : Pass) (outbox : Outbox) :
    Outbox × Except EmailSendError ReminderSummary :=
  let candidates := findDueReminders tenant church pass.asOf
  let (reminders, claimed) := raiseAll outbox.reminders candidates
  let backlog := pendingSummary church pass.created pass.now
  let (emails, result) :=
    sendDigest tenant church pass.delivery outbox.emails claimed backlog
  (⟨reminders, emails⟩, result.map fun log =>
    { candidates := candidates.length
      claimed := claimed.length
      reviewPending := backlog.pending
      sent := log.any (·.status == .sent) })

end VolunteerScreening.Notifications
