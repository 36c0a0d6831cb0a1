import Mathlib.Order.Lattice
import Mathlib.Order.Defs.LinearOrder
import Mathlib.Order.Iterate
import Mathlib.Tactic.Linarith

/-!
# Calendar dates

The proleptic Gregorian calendar: valid dates, their order, whole-month shifts
that clamp the day, and the count of days between two dates.
A date carries the proof that its day exists, so no invalid date can be built.
-/

namespace VolunteerScreening.Calendar

abbrev Month := { month : Nat // 1 ≤ month ∧ month ≤ 12 }

theorem first_month : 1 ≤ 1 ∧ 1 ≤ 12 := by decide

theorem last_month : 1 ≤ 12 ∧ 12 ≤ 12 := by decide

def isLeapYear (year : Int) : Bool :=
  year % 4 == 0 && (year % 100 != 0 || year % 400 == 0)

def monthLength (year : Int) (month : Month) : Nat :=
  if month.val = 2 then (if isLeapYear year then 29 else 28)
  else if month.val ∈ [4, 6, 9, 11] then 30
  else 31

theorem monthLength_pos (year : Int) (month : Month) : 1 ≤ monthLength year month := by
  unfold monthLength
  split
  · split <;> omega
  · split <;> omega

theorem monthLength_le (year : Int) (month : Month) : monthLength year month ≤ 31 := by
  unfold monthLength
  split
  · split <;> omega
  · split <;> omega

theorem monthLength_ge (year : Int) (month : Month) : 28 ≤ monthLength year month := by
  unfold monthLength
  split
  · split <;> omega
  · split <;> omega

structure Date where
  year : Int
  month : Month
  day : Nat
  day_pos : 1 ≤ day
  day_le : day ≤ monthLength year month
  deriving DecidableEq

namespace Date

/-- A key that orders dates: no month has more than 31 days. -/
def serial (date : Date) : Int :=
  (date.year * 12 + date.month.val) * 32 + date.day

theorem serial_injective : Function.Injective serial := by
  rintro ⟨year, ⟨month, monthPos, monthLe⟩, day, dayPos, dayLe⟩
    ⟨year', ⟨month', monthPos', monthLe'⟩, day', dayPos', dayLe'⟩ same
  have short := le_trans dayLe (monthLength_le _ _)
  have short' := le_trans dayLe' (monthLength_le _ _)
  simp only [serial] at same
  have sameYear : year = year' := by omega
  have sameMonth : month = month' := by omega
  have sameDay : day = day' := by omega
  subst sameYear sameMonth sameDay
  rfl

instance : LinearOrder Date := LinearOrder.lift' serial serial_injective

def firstOf (year : Int) (month : Month) : Date :=
  ⟨year, month, 1, le_refl 1, monthLength_pos year month⟩

/-- A date on one of the 28 days that every month has. -/
def early (year : Int) (month : Month) (day : Fin 28) : Date :=
  ⟨year, month, day.val + 1, by omega, le_trans day.isLt (monthLength_ge year month)⟩

def addMonths (start : Date) (months : Int) : Date :=
  let monthIndex := (start.month.val : Int) - 1 + months
  let year := start.year + monthIndex / 12
  let month : Month := ⟨(monthIndex % 12).toNat + 1, by omega, by omega⟩
  ⟨year, month, min start.day (monthLength year month),
    le_min start.day_pos (monthLength_pos year month), min_le_right _ _⟩

def daysBeforeYear (year : Int) : Int :=
  let past := year - 1
  past * 365 + past / 4 - past / 100 + past / 400

def daysBeforeMonth (year : Int) (month : Month) : Nat :=
  ((List.range 12).filterMap fun index =>
    if inYear : index + 1 < month.val then
      some (monthLength year ⟨index + 1, by omega, by have := month.2.2; omega⟩)
    else none).sum

/-- The day's number, counting 1 January of year 1 as day 1. -/
def toOrdinal (date : Date) : Int :=
  daysBeforeYear date.year + daysBeforeMonth date.year date.month + date.day

def daysUntil (start finish : Date) : Int := finish.toOrdinal - start.toOrdinal

def lastOf (year : Int) (month : Month) : Date :=
  ⟨year, month, monthLength year month, monthLength_pos year month, le_refl _⟩

def next (date : Date) : Date :=
  if more : date.day < monthLength date.year date.month then
    ⟨date.year, date.month, date.day + 1, by omega, more⟩
  else if later : date.month.val < 12 then
    firstOf date.year ⟨date.month.val + 1, by omega, by omega⟩
  else firstOf (date.year + 1) ⟨1, first_month⟩

def previous (date : Date) : Date :=
  if 1 < date.day then
    ⟨date.year, date.month, max 1 (date.day - 1), le_max_left _ _,
      max_le (monthLength_pos _ _) (le_trans (Nat.sub_le _ _) date.day_le)⟩
  else if earlier : 1 < date.month.val then
    lastOf date.year ⟨date.month.val - 1, by omega, by have := date.month.2.2; omega⟩
  else lastOf (date.year - 1) ⟨12, last_month⟩

def addDays (start : Date) (days : Nat) : Date := next^[days] start

example : (Date.mk 2026 ⟨1, by decide⟩ 31 (by decide) (by decide)).addMonths 1 =
    Date.mk 2026 ⟨2, by decide⟩ 28 (by decide) (by decide) := by decide

theorem lt_iff_serial {first second : Date} : first < second ↔ first.serial < second.serial :=
  Iff.rfl

theorem year_le_of_le {first second : Date} (ordered : first ≤ second) :
    first.year ≤ second.year := by
  obtain ⟨year, ⟨month, monthPos, monthLe⟩, day, dayPos, dayLe⟩ := first
  obtain ⟨year', ⟨month', monthPos', monthLe'⟩, day', dayPos', dayLe'⟩ := second
  have short := le_trans dayLe' (monthLength_le _ _)
  rw [← not_lt, lt_iff_serial] at ordered
  simp only [serial] at ordered ⊢
  omega

theorem lt_next (date : Date) : date < date.next := by
  obtain ⟨year, ⟨month, monthPos, monthLe⟩, day, dayPos, dayLe⟩ := date
  have short := le_trans dayLe (monthLength_le _ _)
  rw [lt_iff_serial]
  unfold next firstOf serial
  dsimp only
  split
  · dsimp only
    omega
  · split
    · dsimp only
      omega
    · dsimp only
      omega

theorem previous_lt (date : Date) : date.previous < date := by
  obtain ⟨year, ⟨month, monthPos, monthLe⟩, day, dayPos, dayLe⟩ := date
  rw [lt_iff_serial]
  unfold previous lastOf serial
  dsimp only
  split
  · dsimp only
    omega
  · split
    · have short := monthLength_le year ⟨month - 1, by omega, by omega⟩
      dsimp only
      omega
    · have short := monthLength_le (year - 1) ⟨12, last_month⟩
      dsimp only
      omega

@[simp]
theorem previous_next (date : Date) : date.next.previous = date := by
  obtain ⟨year, ⟨month, monthPos, monthLe⟩, day, dayPos, dayLe⟩ := date
  unfold next
  dsimp only
  split
  · next more =>
      have later : day ≠ 0 := by omega
      simp [previous, later, dayPos]
  · next full =>
      have last : monthLength year ⟨month, monthPos, monthLe⟩ = day := by omega
      split
      · next later =>
          have within : 0 < month := by omega
          simp [previous, firstOf, lastOf, last, within]
      · next late =>
          have december : month = 12 := by omega
          subst december
          simp [previous, firstOf, lastOf, last]

@[simp]
theorem addDays_zero (start : Date) : start.addDays 0 = start := rfl

theorem next_addDays (start : Date) (days : Nat) :
    start.next.addDays days = start.addDays (days + 1) := rfl

theorem addDays_succ (start : Date) (days : Nat) :
    start.addDays (days + 1) = (start.addDays days).next :=
  Function.iterate_succ_apply' next days start

theorem addDays_strictMono (start : Date) : StrictMono start.addDays :=
  strictMono_nat_of_lt_succ fun days => by
    rw [addDays_succ]
    exact lt_next _

theorem addDays_injective (start : Date) : Function.Injective start.addDays :=
  start.addDays_strictMono.injective

end Date

def monthName (month : Month) : String :=
  ["January", "February", "March", "April", "May", "June", "July", "August", "September",
    "October", "November", "December"].getD (month.val - 1) ""

def monthAbbreviation (month : Month) : String :=
  ["Jan", "Feb", "Mar", "Apr", "May", "Jun", "Jul", "Aug", "Sep", "Oct", "Nov",
    "Dec"].getD (month.val - 1) ""

namespace Date

/-- The `%-d %b %Y` form, such as `4 Mar 2026`. -/
def dayMonthYear (date : Date) : String :=
  toString date.day ++ " " ++ monthAbbreviation date.month ++ " " ++ toString date.year

/-- The `%B %Y` form, such as `March 2026`. -/
def monthYear (date : Date) : String :=
  monthName date.month ++ " " ++ toString date.year

end Date

end VolunteerScreening.Calendar
