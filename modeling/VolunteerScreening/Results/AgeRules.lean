import VolunteerScreening.Org.VolunteerList

/-!
# The age rules agree

Being eighteen is written four times: as an age, as a trigger date, and as a
filter of the list and of the tiles.  All four change over on the first day of
the birth month, which is never after the birthday and never in the month before
it.
-/

namespace VolunteerScreening.Org

open Calendar Reporting

namespace Volunteer

variable {volunteer : Volunteer} {year : Int} {month : Month} {date later : Date}

/-- Adult from the first day of the birth month in the eighteenth year. -/
theorem isAdultOn_iff (inYear : volunteer.birthYear = some year)
    (inMonth : volunteer.birthMonth = some month) :
    volunteer.isAdultOn date = true ↔
      year + 18 < date.year ∨ year + 18 = date.year ∧ month.val ≤ date.month.val := by
  unfold isAdultOn ageOn
  rw [inYear, inMonth]
  simp only [decide_eq_true_eq]
  split <;> omega

theorem isListedMinor_eq_isMinor (today : Date) :
    volunteer.isListedMinor today = isMinor today volunteer := by
  unfold isListedMinor isMinor
  cases volunteer.birthYear with
  | none => rfl
  | some year => cases volunteer.birthMonth <;> simp

theorem isMinor_iff (inYear : volunteer.birthYear = some year)
    (inMonth : volunteer.birthMonth = some month) :
    isMinor date volunteer = true ↔
      date.year < year + 18 ∨ year + 18 = date.year ∧ date.month.val < month.val := by
  unfold isMinor
  rw [inYear, inMonth]
  simp only [Bool.or_eq_true, Bool.and_eq_true, decide_eq_true_eq, beq_iff_eq]
  omega

/-- With a birth date on file, somebody is either an adult or counted as a minor. -/
theorem isAdultOn_iff_not_isMinor (inYear : volunteer.birthYear = some year)
    (inMonth : volunteer.birthMonth = some month) :
    volunteer.isAdultOn date = true ↔ isMinor date volunteer = false := by
  rw [isAdultOn_iff inYear inMonth, ← Bool.not_eq_true, isMinor_iff inYear inMonth]
  omega

theorem trigger_le_iff :
    Date.firstOf (year + 18) month ≤ date ↔
      year + 18 < date.year ∨ year + 18 = date.year ∧ month.val ≤ date.month.val := by
  obtain ⟨year', ⟨month', monthPos', monthLe'⟩, day', dayPos', dayLe'⟩ := date
  obtain ⟨month, monthPos, monthLe⟩ := month
  have short := le_trans dayLe' (monthLength_le _ _)
  rw [← not_lt, Date.lt_iff_serial]
  unfold Date.firstOf Date.serial
  dsimp only
  omega

theorem isAdultOn_iff_trigger (inYear : volunteer.birthYear = some year)
    (inMonth : volunteer.birthMonth = some month) :
    volunteer.isAdultOn date = true ↔
      ∃ trigger, volunteer.eighteenthBirthdayTriggerDate = some trigger ∧ trigger ≤ date := by
  rw [isAdultOn_iff inYear inMonth, ← trigger_le_iff]
  simp [eighteenthBirthdayTriggerDate, inYear, inMonth]

theorem isAdultOn_mono (ordered : date ≤ later) (adult : volunteer.isAdultOn date = true) :
    volunteer.isAdultOn later = true := by
  have known := volunteer.hasBirthDate_of_isAdultOn adult
  simp only [hasBirthDate, Bool.and_eq_true, Option.isSome_iff_exists] at known
  obtain ⟨⟨year, inYear⟩, month, inMonth⟩ := known
  rw [isAdultOn_iff inYear inMonth, ← trigger_le_iff] at adult ⊢
  exact le_trans adult ordered

/-- What a save derives from the full date gives the adult no later than the birthday, and no
earlier than the first of its month. -/
theorem isAdultOn_deriveBirth {born : Date} (onFile : volunteer.dateOfBirth = some born) :
    volunteer.deriveBirth.isAdultOn date = true ↔
      born.year + 18 < date.year ∨
        born.year + 18 = date.year ∧ born.month.val ≤ date.month.val := by
  refine isAdultOn_iff ?_ ?_ <;> simp [deriveBirth, onFile]

theorem exactAge_ge_iff {born : Date} (onFile : volunteer.dateOfBirth = some born) :
    (∃ age, volunteer.exactAge date = some age ∧ 18 ≤ age) ↔
      born.year + 18 < date.year ∨
        born.year + 18 = date.year ∧ (born.month.val < date.month.val ∨
          born.month.val = date.month.val ∧ born.day ≤ date.day) := by
  obtain ⟨year, ⟨month, monthPos, monthLe⟩, day, dayPos, dayLe⟩ := born
  obtain ⟨year', ⟨month', monthPos', monthLe'⟩, day', dayPos', dayLe'⟩ := date
  unfold exactAge
  rw [onFile]
  simp only [Option.map_some, Option.some.injEq, exists_eq_left', Subtype.mk.injEq]
  split <;> omega

end Volunteer

/-- The ways in which the four age rules agree. -/
structure AgeRulesAgree (volunteer : Volunteer) : Prop where
  trigger : ∀ year month, volunteer.birthYear = some year → volunteer.birthMonth = some month →
    ∀ date, volunteer.isAdultOn date = true ↔
      ∃ trigger, volunteer.eighteenthBirthdayTriggerDate = some trigger ∧ trigger ≤ date
  filters : ∀ year month, volunteer.birthYear = some year → volunteer.birthMonth = some month →
    ∀ date, (volunteer.isAdultOn date = true ↔ volunteer.isListedMinor date = false) ∧
      (volunteer.isAdultOn date = true ↔ isMinor date volunteer = false)
  unknown : volunteer.birthYear = none → volunteer.birthMonth = none →
    ∀ date, volunteer.isAdultOn date = false ∧ volunteer.isListedMinor date = false ∧
      isMinor date volunteer = false
  monotone : ∀ date later, date ≤ later → volunteer.isAdultOn date = true →
    volunteer.isAdultOn later = true
  onTime : ∀ born, volunteer.dateOfBirth = some born → ∀ date,
    (∃ age, volunteer.exactAge date = some age ∧ 18 ≤ age) →
    volunteer.deriveBirth.isAdultOn date = true
  withinMonth : ∀ born, volunteer.dateOfBirth = some born → ∀ date,
    volunteer.deriveBirth.isAdultOn date = true →
    (¬∃ age, volunteer.exactAge date = some age ∧ 18 ≤ age) →
    date.year = born.year + 18 ∧ date.month = born.month

/-- For every birth year and month, every full birth date and every day. -/
theorem age_rules_agree (volunteer : Volunteer) : AgeRulesAgree volunteer := by
  refine ⟨?_, ?_, ?_, ?_, ?_, ?_⟩
  · intro year month inYear inMonth date
    exact Volunteer.isAdultOn_iff_trigger inYear inMonth
  · intro year month inYear inMonth date
    rw [Volunteer.isListedMinor_eq_isMinor]
    exact ⟨Volunteer.isAdultOn_iff_not_isMinor inYear inMonth,
      Volunteer.isAdultOn_iff_not_isMinor inYear inMonth⟩
  · intro noYear noMonth date
    rw [Volunteer.isListedMinor_eq_isMinor]
    simp [Volunteer.isAdultOn, Volunteer.ageOn, isMinor, noYear]
  · intro date later ordered
    exact Volunteer.isAdultOn_mono ordered
  · intro born onFile date exact
    rw [Volunteer.isAdultOn_deriveBirth onFile]
    rw [Volunteer.exactAge_ge_iff onFile] at exact
    omega
  · intro born onFile date adult early
    rw [Volunteer.isAdultOn_deriveBirth onFile] at adult
    rw [Volunteer.exactAge_ge_iff onFile] at early
    have sameMonth : date.month.val = born.month.val := by omega
    exact ⟨by omega, Subtype.ext sameMonth⟩

theorem minors_listed_as_counted (church : Church) (user : Option Core.User)
    (icontains : String → String → Bool) (today : Date) :
    (volunteerList church user icontains today (some ⟨"", none, none, some .minors⟩)).length =
      (dashboardHeadline church today none user).minors := by
  have valid : VolunteerFilterForm.isValid ⟨"", none, none, some .minors⟩ church user = true := rfl
  unfold volunteerList dashboardHeadline
  simp only [List.length_insertionSort, valid, if_true, ← List.countP_eq_length_filter,
    List.countP_filter]
  refine List.countP_congr fun listed _ => ?_
  have named : Text.strip "" = "" := by decide
  simp [VolunteerFilterForm.selects, named, DashboardFilters.selects, ListStatus.keeps,
    Volunteer.isListedMinor_eq_isMinor, and_comm]

end VolunteerScreening.Org
