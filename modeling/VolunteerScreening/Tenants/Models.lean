import VolunteerScreening.Library.Numerals
import VolunteerScreening.Library.Text
import Mathlib.Data.List.Dedup
import Mathlib.Data.List.Sort

/-!
# The church registry

What the platform keeps about one church for its reminders: the name, where its
administrators sign in, and the reminder preferences.
-/

namespace VolunteerScreening.Tenants

/-- One church, as the platform's registry has it. -/
structure Tenant where
  name : String
  hostname : String
  notificationsEnabled : Bool
  reminderLeadDays : String

namespace Tenant

variable (tenant : Tenant)

def url : String := "https://" ++ tenant.hostname ++ "/"

/-- Reminder lead times, descending.  A schedule that does not read falls back to the default. -/
def leadDays : List Nat :=
  let parts := ((Text.split ',' tenant.reminderLeadDays).map Text.strip).filter (· ≠ "")
  let values := (parts.mapM Numerals.readInt).getD [60, 30, 7]
  ((values.filter (0 < ·)).map Int.toNat).dedup.insertionSort (· ≥ ·)

end Tenant

example : Tenant.leadDays ⟨"", "", true, "7, 60,30,7"⟩ = [60, 30, 7] := by decide

end VolunteerScreening.Tenants
