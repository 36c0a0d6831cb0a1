import VolunteerScreening.Library.IsoDates
import VolunteerScreening.Requirements.Settling
import Mathlib.Tactic.IntervalCases

/-!
# The deadline of those who turned 18

Activating a record check dates it from the eighteenth birthday and says so in
the reason.  A deadline counted from a prerequisite never reads the same, so a
row's own columns tell which of the two it carries.
-/

namespace VolunteerScreening.Requirements

open Calendar Org

def turning18Reason (trigger : Date) : String :=
  "Turned 18 (from " ++ trigger.monthYear ++ "); the policy allows three " ++
    "months to submit a criminal record check."

/-- A deadline and its reason as turning 18 leaves them. -/
def IsTurning18 (dueOn : Option Date) (dueReason : String) : Prop :=
  ∃ trigger : Date, trigger.InRange ∧
    dueOn = some (trigger.addMonths turning18CrcDeadlineMonths) ∧
    dueReason = turning18Reason trigger

def turnedOn (trigger : Date) (row : RequirementInstance) : RequirementInstance :=
  { row with
    status := .notStarted
    notApplicableReason := ""
    dueOn := some (trigger.addMonths turning18CrcDeadlineMonths)
    dueReason := turning18Reason trigger }

theorem not_isTurning18_none (dueReason : String) : ¬IsTurning18 none dueReason := by
  rintro ⟨_, _, undated, _⟩
  cases undated

theorem isTurning18_turnedOn {trigger : Date} (kept : trigger.InRange)
    (row : RequirementInstance) :
    IsTurning18 (turnedOn trigger row).dueOn (turnedOn trigger row).dueReason :=
  ⟨trigger, kept, rfl, rfl⟩

/-! ## No other deadline reads the same -/

theorem length_monthName (month : Month) : (monthName month).length ≤ 9 := by
  obtain ⟨month, positive, bounded⟩ := month
  interval_cases month <;> decide +revert

theorem length_turning18Reason {trigger : Date} (kept : trigger.InRange) :
    (turning18Reason trigger).length < 200 := by
  obtain ⟨positive, bounded⟩ := kept
  obtain ⟨year, ofYear⟩ := Int.eq_ofNat_of_zero_le (le_trans (by decide : (0 : Int) ≤ 1) positive)
  have digits : (toString trigger.year).length ≤ 4 := by
    rw [ofYear]
    apply (Nat.length_repr_le_iff (by decide)).mpr
    omega
  have name := length_monthName trigger.month
  have opening : "Turned 18 (from ".length = 16 := by decide
  have space : " ".length = 1 := by decide
  have middle : "); the policy allows three ".length = 27 := by decide
  have closing : "months to submit a criminal record check.".length = 41 := by decide
  unfold turning18Reason Date.monthYear
  simp only [String.length_append]
  omega

theorem truncate_ne_turning18Reason {trigger : Date} (kept : trigger.InRange) (text : String) :
    Text.truncate 200 (text ++ " months later.") ≠ turning18Reason trigger := by
  intro same
  have short := length_turning18Reason kept
  have characters := congrArg String.toList same
  rw [← String.length_toList, ← characters] at short
  unfold Text.truncate at characters short
  rw [String.toList_ofList, String.toList_append] at characters short
  rw [List.length_take, List.length_append] at short
  rw [List.take_of_length_le (by rw [List.length_append]; omega)] at characters
  -- what is left whole ends in "r.", a turning-18 reason in "k."
  have endings := congrArg (fun letters => letters.reverse.take 2) characters
  unfold turning18Reason at endings
  simp only [String.toList_append, List.reverse_append] at endings
  revert endings
  simp

theorem prerequisiteDeadline_reason {catalogue : Catalogue} {rows : Instances}
    {definition : RequirementDefinition} {deadline : Date} {reason : String}
    (derived : prerequisiteDeadline catalogue rows definition = some (deadline, reason)) :
    ∃ text, reason = Text.truncate 200 (text ++ " months later.") := by
  unfold prerequisiteDeadline at derived
  split at derived
  · next months prerequisite _ _ =>
      split at derived
      · cases derived
      · next completedOn _ =>
          refine ⟨prerequisite.name ++ (" was completed on " ++ (completedOn.dayMonthYear ++
            ("; this falls due " ++ toString months))), ?_⟩
          cases derived
          congr 1
          simp only [String.append_assoc]
          rfl
  · cases derived

theorem not_isTurning18_of_prerequisite {catalogue : Catalogue} {rows : Instances}
    {definition : RequirementDefinition} {deadline : Date} {reason : String}
    (derived : prerequisiteDeadline catalogue rows definition = some (deadline, reason)) :
    ¬IsTurning18 (some deadline) reason := by
  rintro ⟨trigger, kept, _, reads⟩
  obtain ⟨text, rfl⟩ := prerequisiteDeadline_reason derived
  exact truncate_ne_turning18Reason kept text reads

/-! ## What dates a row -/

/-- How activating dates a row: by the eighteenth birthday, by the prerequisite, or not at all. -/
theorem activate_cases (catalogue : Catalogue) (rows : Instances) (volunteer : Volunteer)
    (definition : RequirementDefinition) (row : RequirementInstance) :
    (∃ trigger, definition.isCrc = true ∧ definition.ageRule = .adultsOnly ∧
        volunteer.eighteenthBirthdayTriggerDate = some trigger ∧
        activate catalogue rows volunteer definition row = turnedOn trigger row) ∨
      (definition.isGated = true ∧ ∃ deadline reason,
        prerequisiteDeadline catalogue rows definition = some (deadline, reason) ∧
        activate catalogue rows volunteer definition row =
          { row with
            status := .notStarted
            notApplicableReason := ""
            dueOn := some deadline
            dueReason := reason }) ∨
      activate catalogue rows volunteer definition row =
        { row with
          status := .notStarted
          notApplicableReason := "" } := by
  unfold activate
  split
  · next check =>
      rw [Bool.and_eq_true, beq_iff_eq] at check
      split
      · next trigger known => exact .inl ⟨trigger, check.1, check.2, known, rfl⟩
      · exact .inr (.inr rfl)
  · split
    · next gated =>
        split
        · next deadline reason derived =>
            exact .inr (.inl ⟨gated, deadline, reason, derived, rfl⟩)
        · exact .inr (.inr rfl)
    · exact .inr (.inr rfl)

theorem activate_of_check {catalogue : Catalogue} {rows : Instances} {volunteer : Volunteer}
    {definition : RequirementDefinition} {trigger : Date} (crc : definition.isCrc = true)
    (adults : definition.ageRule = .adultsOnly)
    (known : volunteer.eighteenthBirthdayTriggerDate = some trigger) (row : RequirementInstance) :
    activate catalogue rows volunteer definition row = turnedOn trigger row := by
  have check : (definition.isCrc && definition.ageRule == .adultsOnly) = true := by
    simp [crc, adults]
  unfold activate
  rw [if_pos check, known]
  rfl

theorem year_of_addMonths_eq {first second : Date} {months : Int}
    (same : first.addMonths months = second.addMonths months) : first.year = second.year := by
  have years := congrArg Date.year same
  have monthNumbers := congrArg (fun date : Date => date.month.val) same
  have firstBounds := first.month.2
  have secondBounds := second.month.2
  simp only [Date.addMonths] at years monthNumbers
  omega

section Turns

variable {catalogue : Catalogue} {rows : Instances} {volunteer : Volunteer}
  {definition : RequirementDefinition} {row : RequirementInstance}

/-- Whether activating a row of this requirement dates it by the eighteenth birthday. -/
def DatesByBirthday (definition : RequirementDefinition) (volunteer : Volunteer) : Prop :=
  definition.isCrc = true ∧ definition.ageRule = .adultsOnly ∧
    ∃ trigger : Date, trigger.InRange ∧ volunteer.eighteenthBirthdayTriggerDate = some trigger

theorem DatesByBirthday.activate (dates : DatesByBirthday definition volunteer) :
    ∃ trigger : Date, trigger.InRange ∧
      activate catalogue rows volunteer definition row = turnedOn trigger row := by
  obtain ⟨crc, adults, trigger, kept, known⟩ := dates
  exact ⟨trigger, kept, activate_of_check crc adults known row⟩

theorem activate_turning18
    (dated : IsTurning18 (activate catalogue rows volunteer definition row).dueOn
      (activate catalogue rows volunteer definition row).dueReason) :
    IsTurning18 row.dueOn row.dueReason ∨ DatesByBirthday definition volunteer := by
  obtain ⟨trigger, crc, adults, known, switched⟩ | ⟨_, _, _, derived, switched⟩ | switched :=
    activate_cases catalogue rows volunteer definition row
  · rw [switched] at dated
    obtain ⟨other, kept, sameDate, _⟩ := dated
    have sameYear := year_of_addMonths_eq (Option.some.inj sameDate)
    refine .inr ⟨crc, adults, trigger, ?_, known⟩
    unfold Date.InRange at kept ⊢
    rwa [sameYear]
  · rw [switched] at dated
    exact absurd dated (not_isTurning18_of_prerequisite derived)
  · rw [switched] at dated
    exact .inl dated

end Turns

end VolunteerScreening.Requirements
