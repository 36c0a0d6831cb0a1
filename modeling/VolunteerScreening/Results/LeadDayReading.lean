import VolunteerScreening.Tenants.LeadDays

/-!
# The schedule's validator and its reader

What the validator lets through is read as listed.  The validator itself raises
an error of its own at digits that are not decimal, or too many.
-/

namespace VolunteerScreening.Tenants

def Lists (value : String) (days : Int) : Prop :=
  ∃ part ∈ Text.split ',' value, ListsDays part days

def Tenant.FallsBack (tenant : Tenant) : Prop :=
  (((Text.split ',' tenant.reminderLeadDays).map Text.strip).filter (· ≠ "")).mapM
    Numerals.readInt = none

/-- The lead times are the positive numbers the schedule lists, in descending order. -/
structure ReadsAsListed (tenant : Tenant) : Prop where
  reads : ¬tenant.FallsBack
  listed : ∀ days, days ∈ tenant.leadDays ↔ 0 < days ∧ Lists tenant.reminderLeadDays days
  descending : tenant.leadDays.Pairwise (· > ·)

/-- The check comes to digits that do not read: one of them is not decimal, or there are too
many, and every part before lists a number of its own. -/
def ReachesUnreadable (value : String) : Prop :=
  ∃ before part after listed, Text.split ',' value = before ++ part :: after ∧
    Admitted [] before listed ∧ Numerals.isDigits (Text.strip part) = true ∧
    Numerals.Unreadable (Text.strip part)

theorem split_of_strip_eq {value : String} (nothing : Text.strip value = "") :
    Text.split ',' value = [value] := by
  have one_group : value.toList.splitOn ',' = [value.toList] := by
    apply List.splitOnP_eq_singleton
    intro character listed
    have space := Text.forall_isSpace_of_strip_eq nothing character listed
    rw [beq_eq_false_iff_ne]
    rintro rfl
    revert space
    decide
  rw [Text.split, one_group, List.map_singleton, String.ofList_toList]

/-- The validator raises an error of its own exactly where it comes to digits that do not
read. -/
theorem validateLeadDays_eq_valueError_iff {value : String} :
    validateLeadDays value = .error .valueError ↔ ReachesUnreadable value := by
  rw [ReachesUnreadable, ← validateParts_eq_valueError_iff, validateLeadDays]
  split
  · next nothing =>
      have stops : validateParts [] (Text.split ',' value) ≠ .error .valueError := by
        rw [split_of_strip_eq nothing]
        have blank : validatePart [] (Text.strip value) =
            .error (.validation ("'" ++ "" ++ "' is not a whole number of days.")) := by
          rw [nothing]
          rfl
        rw [validateParts_of_error blank]
        rintro ⟨⟩
      simpa using stops
  · rfl

section Accepted

variable {tenant : Tenant} {numbers : List Int}
  (admitted : Admitted [] (Text.split ',' tenant.reminderLeadDays) numbers)

include admitted

theorem mapM_readInt_of_admitted :
    (((Text.split ',' tenant.reminderLeadDays).map Text.strip).filter (· ≠ "")).mapM
      Numerals.readInt = some numbers := by
  have solid : ∀ stripped ∈ (Text.split ',' tenant.reminderLeadDays).map Text.strip,
      decide (stripped ≠ "") = true := by
    intro stripped listed
    obtain ⟨part, among, rfl⟩ := List.mem_map.mp listed
    obtain ⟨_, _, digits, _⟩ := exists_listed admitted.lists among
    rw [decide_eq_true_eq]
    intro empty
    rw [empty] at digits
    revert digits
    decide
  rw [List.filter_eq_self.mpr solid, Fallible.mapM_eq_some_iff, List.forall₂_map_left_iff]
  exact admitted.lists.imp fun _ _ lists => lists.2.1

theorem leadDays_of_admitted :
    tenant.leadDays =
      (((numbers.filter (0 < ·)).map Int.toNat).dedup).insertionSort (· ≥ ·) := by
  unfold Tenant.leadDays
  dsimp only
  rw [mapM_readInt_of_admitted admitted, Option.getD_some]

theorem lists_iff_of_admitted {days : Int} :
    Lists tenant.reminderLeadDays days ↔ days ∈ numbers := by
  constructor
  · rintro ⟨part, listed, lists⟩
    obtain ⟨other, among, lists'⟩ := exists_listed admitted.lists listed
    obtain rfl := Option.some.inj (lists.2.1.symm.trans lists'.2.1)
    exact among
  · intro among
    exact exists_part admitted.lists among

theorem mem_leadDays_of_admitted {days : Nat} :
    days ∈ tenant.leadDays ↔ 0 < days ∧ Lists tenant.reminderLeadDays days := by
  rw [leadDays_of_admitted admitted, lists_iff_of_admitted admitted, List.mem_insertionSort,
    List.mem_dedup, List.mem_map]
  constructor
  · rintro ⟨number, kept, rfl⟩
    obtain ⟨among, positive⟩ := List.mem_filter.mp kept
    have positive : 0 < number := by simpa using positive
    rw [Int.toNat_of_nonneg positive.le]
    exact ⟨by omega, among⟩
  · rintro ⟨positive, among⟩
    exact ⟨days, List.mem_filter.mpr ⟨among, by simpa using positive⟩, Int.toNat_natCast days⟩

theorem readsAsListed_of_admitted : ReadsAsListed tenant := by
  refine ⟨?_, ?_, ?_⟩
  · intro fallsBack
    rw [Tenant.FallsBack, mapM_readInt_of_admitted admitted] at fallsBack
    cases fallsBack
  · intro days
    exact mem_leadDays_of_admitted admitted
  · rw [leadDays_of_admitted admitted]
    have unique := List.nodup_dedup ((numbers.filter (0 < ·)).map Int.toNat)
    have once := (List.perm_insertionSort (· ≥ ·) _).nodup_iff.mpr unique
    have ordered := List.pairwise_insertionSort (· ≥ ·)
      ((numbers.filter (0 < ·)).map Int.toNat).dedup
    exact (ordered.and once).imp fun both => lt_of_le_of_ne both.1 both.2.symm

end Accepted

theorem readsAsListed_of_accepted {tenant : Tenant}
    (accepted : validateLeadDays tenant.reminderLeadDays = .ok ()) : ReadsAsListed tenant := by
  unfold validateLeadDays at accepted
  split at accepted
  · cases accepted
  · obtain ⟨numbers, admitted⟩ := validateParts_eq_ok_iff.mp accepted
    exact readsAsListed_of_admitted admitted

/-- The validator accepts or raises a validation error, and what it accepts is read as listed,
exactly for schedules in which the check never comes to digits that do not read. -/
theorem lead_days_read_as_validated_iff (value : String) :
    (validateLeadDays value ≠ .error .valueError ∧
      ∀ tenant : Tenant, tenant.reminderLeadDays = value →
        validateLeadDays value = .ok () → ReadsAsListed tenant) ↔
      ¬ReachesUnreadable value := by
  rw [← validateLeadDays_eq_valueError_iff]
  constructor
  · exact And.left
  · intro quiet
    refine ⟨quiet, ?_⟩
    rintro tenant rfl accepted
    exact readsAsListed_of_accepted accepted

/-- Superscripts are digits to the check, and no number to the reader. -/
theorem superscript_lead_days_raise : validateLeadDays "60,³⁰" = .error .valueError := by
  decide +kernel

end VolunteerScreening.Tenants
