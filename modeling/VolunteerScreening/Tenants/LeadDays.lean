import VolunteerScreening.Library.Digits
import VolunteerScreening.Tenants.Models

/-!
# Validating the reminder schedule

A schedule is checked part by part, when it is entered.  What the check takes
for a number is digits of any kind; reading one as a number raises an error of
its own where they are not decimal, or too many.
-/

namespace VolunteerScreening.Tenants

inductive LeadDaysFailure where
  | validation (message : String)
  | valueError
  deriving DecidableEq

def validatePart (seen : List Int) (part : String) : Except LeadDaysFailure Int :=
  if !Numerals.isDigits part then
    .error (.validation ("'" ++ part ++ "' is not a whole number of days."))
  else
    match Numerals.readInt part with
    | none => .error .valueError
    | some days =>
        if ¬(0 ≤ days ∧ days ≤ 365) then
          .error (.validation "Lead times must be between 0 and 365 days.")
        else if days ∈ seen then
          .error (.validation (toString days ++ " is listed more than once."))
        else .ok days

def validateParts (seen : List Int) : List String → Except LeadDaysFailure Unit
  | [] => .ok ()
  | part :: rest =>
      match validatePart seen (Text.strip part) with
      | .error failure => .error failure
      | .ok days => validateParts (days :: seen) rest

/-- Validate a `60,30,7`-style reminder schedule. -/
def validateLeadDays (value : String) : Except LeadDaysFailure Unit :=
  if Text.strip value = "" then
    .error (.validation "Enter at least one lead time, or 0 for overdue-only.")
  else validateParts [] (Text.split ',' value)

example : validateLeadDays "60, 30,7" = .ok () := by decide +kernel

/-- A part that lists a number of days the check admits. -/
def ListsDays (part : String) (days : Int) : Prop :=
  Numerals.isDigits (Text.strip part) = true ∧
    Numerals.readInt (Text.strip part) = some days ∧ days ≤ 365

/-- Parts that the check gets through, and what they list. -/
structure Admitted (seen : List Int) (parts : List String) (listed : List Int) : Prop where
  lists : List.Forall₂ ListsDays parts listed
  once : listed.Nodup
  unseen : ∀ days ∈ listed, days ∉ seen

theorem exists_listed {parts : List String} {listed : List Int}
    (lists : List.Forall₂ ListsDays parts listed) {part : String} (among : part ∈ parts) :
    ∃ days ∈ listed, ListsDays part days := by
  induction lists with
  | nil => cases among
  | cons first _ inductionHypothesis =>
      rcases List.mem_cons.mp among with rfl | later
      · exact ⟨_, List.mem_cons_self, first⟩
      · obtain ⟨days, listed, lists⟩ := inductionHypothesis later
        exact ⟨days, List.mem_cons_of_mem _ listed, lists⟩

theorem exists_part {parts : List String} {listed : List Int}
    (lists : List.Forall₂ ListsDays parts listed) {days : Int} (among : days ∈ listed) :
    ∃ part ∈ parts, ListsDays part days := by
  induction lists with
  | nil => cases among
  | cons first _ inductionHypothesis =>
      rcases List.mem_cons.mp among with rfl | later
      · exact ⟨_, List.mem_cons_self, first⟩
      · obtain ⟨part, listed, lists⟩ := inductionHypothesis later
        exact ⟨part, List.mem_cons_of_mem _ listed, lists⟩

section Parts

variable {seen : List Int} {part : String} {parts : List String} {days : Int}

theorem validatePart_eq_ok_iff :
    validatePart seen (Text.strip part) = .ok days ↔ ListsDays part days ∧ days ∉ seen := by
  unfold validatePart ListsDays
  cases digits : Numerals.isDigits (Text.strip part) with
  | false => simp
  | true =>
      cases read : Numerals.readInt (Text.strip part) with
      | none => simp
      | some value =>
          have nonneg := Numerals.readInt_nonneg digits read
          simp only [Bool.not_true, Bool.false_eq_true, if_false, true_and, Option.some.injEq]
          split
          · next outside =>
              constructor
              · intro impossible
                cases impossible
              · rintro ⟨⟨rfl, small⟩, _⟩
                exact absurd ⟨nonneg, small⟩ outside
          · next inside =>
              have small := (not_not.mp inside).2
              split
              · next listed =>
                  constructor
                  · intro impossible
                    cases impossible
                  · rintro ⟨⟨rfl, _⟩, unseen⟩
                    exact absurd listed unseen
              · next unseen =>
                  constructor
                  · intro same
                    obtain rfl := Except.ok.inj same
                    exact ⟨⟨rfl, small⟩, unseen⟩
                  · rintro ⟨⟨rfl, _⟩, _⟩
                    rfl

theorem validatePart_eq_valueError_iff :
    validatePart seen part = .error .valueError ↔
      Numerals.isDigits part = true ∧ Numerals.Unreadable part := by
  unfold validatePart
  cases digits : Numerals.isDigits part with
  | false => simp
  | true =>
      rw [← Numerals.readInt_eq_none_iff digits]
      cases read : Numerals.readInt part with
      | none => simp
      | some value =>
          simp only [Bool.not_true, Bool.false_eq_true, if_false, true_and, reduceCtorEq,
            iff_false]
          split
          · simp
          · split <;> simp

theorem validateParts_of_ok (checked : validatePart seen (Text.strip part) = .ok days) :
    validateParts seen (part :: parts) = validateParts (days :: seen) parts := by
  change (match validatePart seen (Text.strip part) with
    | .error failure => Except.error failure
    | .ok days => validateParts (days :: seen) parts) = _
  rw [checked]

theorem validateParts_of_error {failure : LeadDaysFailure}
    (checked : validatePart seen (Text.strip part) = .error failure) :
    validateParts seen (part :: parts) = .error failure := by
  change (match validatePart seen (Text.strip part) with
    | .error failure => Except.error failure
    | .ok days => validateParts (days :: seen) parts) = _
  rw [checked]

theorem Admitted.nil : Admitted seen [] [] := by
  refine ⟨.nil, List.nodup_nil, ?_⟩
  intro days listed
  cases listed

theorem admitted_cons_iff {listed : List Int} :
    Admitted seen (part :: parts) listed ↔ ∃ days more, listed = days :: more ∧
      (ListsDays part days ∧ days ∉ seen) ∧ Admitted (days :: seen) parts more := by
  constructor
  · rintro ⟨lists, once, unseen⟩
    obtain ⟨days, more, first, rest, rfl⟩ := List.forall₂_cons_left_iff.mp lists
    rw [List.nodup_cons] at once
    refine ⟨days, more, rfl, ⟨first, unseen days (by simp)⟩, rest, once.2, ?_⟩
    intro other listed again
    rcases List.mem_cons.mp again with rfl | earlier
    · exact once.1 listed
    · exact unseen other (List.mem_cons_of_mem _ listed) earlier
  · rintro ⟨days, more, rfl, ⟨first, new⟩, rest, once, unseen⟩
    refine ⟨.cons first rest, List.nodup_cons.mpr ⟨?_, once⟩, ?_⟩
    · intro again
      exact unseen days again List.mem_cons_self
    · intro other listed
      rcases List.mem_cons.mp listed with rfl | later
      · exact new
      · intro earlier
        exact unseen other later (List.mem_cons_of_mem _ earlier)

/-- The check gets through parts that each list a number, no two the same. -/
theorem validateParts_eq_ok_iff :
    validateParts seen parts = .ok () ↔ ∃ listed, Admitted seen parts listed := by
  induction parts generalizing seen with
  | nil => exact iff_of_true rfl ⟨[], .nil⟩
  | cons part parts inductionHypothesis =>
      cases checked : validatePart seen (Text.strip part) with
      | error failure =>
          rw [validateParts_of_error checked]
          constructor
          · rintro ⟨⟩
          · rintro ⟨_, admitted⟩
            obtain ⟨days, _, _, first, _⟩ := admitted_cons_iff.mp admitted
            rw [validatePart_eq_ok_iff.mpr first] at checked
            cases checked
      | ok days =>
          rw [validateParts_of_ok checked, inductionHypothesis]
          constructor
          · rintro ⟨more, admitted⟩
            exact ⟨days :: more, admitted_cons_iff.mpr
              ⟨days, more, rfl, validatePart_eq_ok_iff.mp checked, admitted⟩⟩
          · rintro ⟨_, admitted⟩
            obtain ⟨days', more, _, first, admitted⟩ := admitted_cons_iff.mp admitted
            rw [validatePart_eq_ok_iff.mpr first] at checked
            obtain rfl := Except.ok.inj checked
            exact ⟨more, admitted⟩

theorem Admitted.validateParts_append {listed : List Int}
    (admitted : Admitted seen parts listed) (rest : List String) :
    validateParts seen (parts ++ rest) = validateParts (listed.reverse ++ seen) rest := by
  induction parts generalizing seen listed with
  | nil =>
      obtain rfl := List.forall₂_nil_left_iff.mp admitted.lists
      rfl
  | cons part parts inductionHypothesis =>
      obtain ⟨days, more, rfl, first, admitted⟩ := admitted_cons_iff.mp admitted
      rw [List.cons_append, validateParts_of_ok (validatePart_eq_ok_iff.mpr first),
        List.reverse_cons, List.append_assoc]
      exact inductionHypothesis admitted

theorem validateParts_eq_error {failure : LeadDaysFailure}
    (raised : validateParts seen parts = .error failure) :
    ∃ before part after listed, parts = before ++ part :: after ∧ Admitted seen before listed ∧
      validatePart (listed.reverse ++ seen) (Text.strip part) = .error failure := by
  induction parts generalizing seen with
  | nil => cases raised
  | cons part parts inductionHypothesis =>
      cases checked : validatePart seen (Text.strip part) with
      | error stopped =>
          rw [validateParts_of_error checked] at raised
          obtain rfl := Except.error.inj raised
          exact ⟨[], part, parts, [], rfl, .nil, checked⟩
      | ok days =>
          rw [validateParts_of_ok checked] at raised
          obtain ⟨before, other, after, listed, rfl, admitted, stops⟩ :=
            inductionHypothesis raised
          refine ⟨part :: before, other, after, days :: listed, rfl,
            admitted_cons_iff.mpr
              ⟨days, listed, rfl, validatePart_eq_ok_iff.mp checked, admitted⟩, ?_⟩
          rw [List.reverse_cons, List.append_assoc]
          exact stops

/-- The check raises an error of its own where it reaches digits that do not read. -/
theorem validateParts_eq_valueError_iff :
    validateParts seen parts = .error .valueError ↔
      ∃ before part after listed, parts = before ++ part :: after ∧
        Admitted seen before listed ∧ Numerals.isDigits (Text.strip part) = true ∧
        Numerals.Unreadable (Text.strip part) := by
  constructor
  · intro raised
    obtain ⟨before, part, after, listed, split, admitted, stops⟩ := validateParts_eq_error raised
    exact ⟨before, part, after, listed, split, admitted, validatePart_eq_valueError_iff.mp stops⟩
  · rintro ⟨before, part, after, listed, rfl, admitted, unreadable⟩
    rw [admitted.validateParts_append]
    exact validateParts_of_error (validatePart_eq_valueError_iff.mpr unreadable)

end Parts

end VolunteerScreening.Tenants
