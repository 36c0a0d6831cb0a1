import VolunteerScreening.Accounts.Actors
import VolunteerScreening.Accounts.Administration
import VolunteerScreening.Accounts.Forms
import VolunteerScreening.Accounts.Gates
import VolunteerScreening.Accounts.Links
import VolunteerScreening.Accounts.Lookup
import VolunteerScreening.Accounts.Models
import VolunteerScreening.Accounts.Passkeys
import VolunteerScreening.Accounts.Recovery
import VolunteerScreening.Accounts.SharedHost
import VolunteerScreening.Accounts.Views
import VolunteerScreening.Application
import VolunteerScreening.Assignments
import VolunteerScreening.Church
import VolunteerScreening.Core.Access
import VolunteerScreening.Core.Crypto
import VolunteerScreening.Core.Fields
import VolunteerScreening.Core.Keys
import VolunteerScreening.Core.Tasks
import VolunteerScreening.Core.Wrapping
import VolunteerScreening.Documents.Models
import VolunteerScreening.Documents.Recording
import VolunteerScreening.Documents.Services
import VolunteerScreening.Effects
import VolunteerScreening.File
import VolunteerScreening.Library.Base64
import VolunteerScreening.Library.Calendar
import VolunteerScreening.Library.Chains
import VolunteerScreening.Library.Claims
import VolunteerScreening.Library.Digits
import VolunteerScreening.Library.Distinct
import VolunteerScreening.Library.Fallible
import VolunteerScreening.Library.Interleaving
import VolunteerScreening.Library.IsoDates
import VolunteerScreening.Library.Machine
import VolunteerScreening.Library.Months
import VolunteerScreening.Library.Numerals
import VolunteerScreening.Library.Savepoints
import VolunteerScreening.Library.Sessions
import VolunteerScreening.Library.StrictBase64
import VolunteerScreening.Library.Sweep
import VolunteerScreening.Library.Tables
import VolunteerScreening.Library.Text
import VolunteerScreening.Library.Worklist
import VolunteerScreening.Life
import VolunteerScreening.Notifications.Models
import VolunteerScreening.Notifications.Raising
import VolunteerScreening.Notifications.Services
import VolunteerScreening.Operations
import VolunteerScreening.Org.Models
import VolunteerScreening.Org.Requests
import VolunteerScreening.Org.Views
import VolunteerScreening.Org.VolunteerList
import VolunteerScreening.Reporting.Compliance
import VolunteerScreening.Reporting.Dashboard
import VolunteerScreening.Requirements.Deadlines
import VolunteerScreening.Requirements.Dependencies
import VolunteerScreening.Requirements.Footing
import VolunteerScreening.Requirements.Models
import VolunteerScreening.Requirements.Months
import VolunteerScreening.Requirements.Nightly
import VolunteerScreening.Requirements.Onboarding
import VolunteerScreening.Requirements.Progress
import VolunteerScreening.Requirements.RecordChecks
import VolunteerScreening.Requirements.Resyncing
import VolunteerScreening.Requirements.Settling
import VolunteerScreening.Requirements.Showing
import VolunteerScreening.Requirements.Standing
import VolunteerScreening.Requirements.Sync
import VolunteerScreening.Results.AcyclicGates
import VolunteerScreening.Results.AgeRules
import VolunteerScreening.Results.AssignmentDates
import VolunteerScreening.Results.BirthDate
import VolunteerScreening.Results.BirthOnFile
import VolunteerScreening.Results.BlockShows
import VolunteerScreening.Results.BucketStatus
import VolunteerScreening.Results.ComplianceReport
import VolunteerScreening.Results.DeadlineHistory
import VolunteerScreening.Results.DepartmentSummary
import VolunteerScreening.Results.DerivedDeadline
import VolunteerScreening.Results.DocumentUndo
import VolunteerScreening.Results.EncryptedFields
import VolunteerScreening.Results.EntryDates
import VolunteerScreening.Results.Escalation
import VolunteerScreening.Results.Escape
import VolunteerScreening.Results.FailOpen
import VolunteerScreening.Results.GrowingScope
import VolunteerScreening.Results.Histories
import VolunteerScreening.Results.HostIsolation
import VolunteerScreening.Results.KeyBackup
import VolunteerScreening.Results.KeyCustody
import VolunteerScreening.Results.KeyEscrow
import VolunteerScreening.Results.LaterWork
import VolunteerScreening.Results.LeadDayReading
import VolunteerScreening.Results.LinkRace
import VolunteerScreening.Results.LinkUse
import VolunteerScreening.Results.Lockout
import VolunteerScreening.Results.LoginTargets
import VolunteerScreening.Results.LostReminders
import VolunteerScreening.Results.MissedNight
import VolunteerScreening.Results.MonthArithmetic
import VolunteerScreening.Results.OnboardingWindow
import VolunteerScreening.Results.OneDecision
import VolunteerScreening.Results.OperativeCheck
import VolunteerScreening.Results.PasskeyUse
import VolunteerScreening.Results.Permanence
import VolunteerScreening.Results.ProgressUndo
import VolunteerScreening.Results.QueueScope
import VolunteerScreening.Results.RecordsKept
import VolunteerScreening.Results.RecoveryLinks
import VolunteerScreening.Results.Redirects
import VolunteerScreening.Results.ReminderOnce
import VolunteerScreening.Results.ReportScope
import VolunteerScreening.Results.Retraction
import VolunteerScreening.Results.ReviewLifecycle
import VolunteerScreening.Results.RowStates
import VolunteerScreening.Results.ScopedChanges
import VolunteerScreening.Results.ScreeningCase
import VolunteerScreening.Results.SelfScreening
import VolunteerScreening.Results.SkippedNights
import VolunteerScreening.Results.SoleReviewer
import VolunteerScreening.Results.StaleWrites
import VolunteerScreening.Results.SyncIdempotence
import VolunteerScreening.Results.SyncSettled
import VolunteerScreening.Results.TokenCodec
import VolunteerScreening.Results.UnverifiedIndex
import VolunteerScreening.Results.VolunteerLink
import VolunteerScreening.Results.WholeRecording
import VolunteerScreening.Review.Decisions
import VolunteerScreening.Review.Entries
import VolunteerScreening.Review.Index
import VolunteerScreening.Review.Models
import VolunteerScreening.Review.Queue
import VolunteerScreening.Review.Recording
import VolunteerScreening.Review.Supersession
import VolunteerScreening.Review.Views
import VolunteerScreening.Screening
import VolunteerScreening.Tenants.Cookies
import VolunteerScreening.Tenants.KeyCustody
import VolunteerScreening.Tenants.LeadDays
import VolunteerScreening.Tenants.Models
import VolunteerScreening.Tenants.Routing
import VolunteerScreening.Transactions
import VolunteerScreening.Transactions.Queue
import VolunteerScreening.Transactions.Writes
