import Mathlib.Data.List.Forall2

/-!
# Steps that may fail

A guard that refuses, and what it takes for a sequence of fallible steps to
succeed: each step does, and hands its result on.
-/

namespace VolunteerScreening.Fallible

universe u v

variable {Failure Exception : Type u} {Result Next : Type v}

def refuseIf (condition : Prop) [Decidable condition] (failure : Failure) : Except Failure Unit :=
  if condition then .error failure else .ok ()

@[simp]
theorem refuseIf_eq_ok_iff {condition : Prop} [Decidable condition] {failure : Failure}
    {done : Unit} : refuseIf condition failure = .ok done ↔ ¬condition := by
  unfold refuseIf
  split <;> simp_all

theorem bind_eq_ok_iff {first : Except Failure Result} {rest : Result → Except Failure Next}
    {outcome : Next} :
    (first >>= rest) = .ok outcome ↔
      ∃ result, first = .ok result ∧ rest result = .ok outcome := by
  cases first with
  | error failure =>
      constructor
      · intro impossible
        cases impossible
      · rintro ⟨_, impossible, _⟩
        cases impossible
  | ok result =>
      constructor
      · intro succeeds
        exact ⟨result, rfl, succeeds⟩
      · rintro ⟨_, same, succeeds⟩
        cases same
        exact succeeds

@[simp]
theorem ok_bind (result : Result) (rest : Result → Except Failure Next) :
    (Except.ok result >>= rest) = rest result := rfl

@[simp]
theorem pure_eq_ok_iff {result outcome : Result} :
    (pure result : Except Failure Result) = .ok outcome ↔ result = outcome := by
  constructor
  · intro same
    exact Except.ok.inj same
  · rintro rfl
    rfl

theorem map_eq_ok_iff {first : Except Failure Result} {change : Result → Next} {outcome : Next} :
    first.map change = .ok outcome ↔ ∃ result, first = .ok result ∧ change result = outcome := by
  cases first <;> simp [Except.map]

theorem mapError_eq_ok_iff {raise : Failure → Exception} {first : Except Failure Result}
    {result : Result} : first.mapError raise = .ok result ↔ first = .ok result := by
  cases first <;> simp [Except.mapError]

theorem mapError_bind (raise : Failure → Exception) (first : Except Failure Result)
    (rest : Result → Except Failure Next) :
    (first >>= rest).mapError raise =
      first.mapError raise >>= fun result => (rest result).mapError raise := by
  cases first <;> rfl

theorem map_of_bind {Last : Type v} (change : Next → Last) (first : Except Failure Result)
    (rest : Result → Except Failure Next) :
    (first >>= rest).map change = first >>= fun result => (rest result).map change := by
  cases first <;> rfl

theorem bind_of_map {Last : Type v} (change : Result → Next) (first : Except Failure Result)
    (rest : Next → Except Failure Last) :
    (first.map change >>= rest) = first >>= fun result => rest (change result) := by
  cases first <;> rfl

theorem mapM_eq_ok_iff {Item : Type v} {each : Item → Except Failure Result} {items : List Item}
    {results : List Result} :
    items.mapM each = .ok results ↔
      List.Forall₂ (fun item result => each item = .ok result) items results := by
  induction items generalizing results with
  | nil =>
      rw [List.mapM_nil, pure_eq_ok_iff, List.forall₂_nil_left_iff]
      exact eq_comm
  | cons item items inductionHypothesis =>
      rw [List.mapM_cons, bind_eq_ok_iff, List.forall₂_cons_left_iff]
      constructor
      · rintro ⟨result, first, rest⟩
        obtain ⟨later, succeeds, collected⟩ := bind_eq_ok_iff.mp rest
        exact ⟨result, later, first, inductionHypothesis.mp succeeds,
          (pure_eq_ok_iff.mp collected).symm⟩
      · rintro ⟨result, later, first, succeeds, rfl⟩
        exact ⟨result, first,
          bind_eq_ok_iff.mpr ⟨later, inductionHypothesis.mpr succeeds, rfl⟩⟩

/-- When each step that succeeds makes one change, the results are the changed items. -/
theorem mapM_eq_ok_map {Item : Type v} {each : Item → Except Failure Result} {items : List Item}
    {results : List Result} {change : Item → Result}
    (changes : ∀ item result, each item = .ok result → result = change item)
    (success : items.mapM each = .ok results) : results = items.map change := by
  have collected := mapM_eq_ok_iff.mp success
  clear success
  induction collected with
  | nil => rfl
  | cons first _ inductionHypothesis =>
      rw [List.map_cons, changes _ _ first, inductionHypothesis]

theorem mapM_eq_some_iff {Item : Type u} {read : Item → Option Result} {items : List Item}
    {results : List Result} :
    items.mapM read = some results ↔
      List.Forall₂ (fun item result => read item = some result) items results := by
  induction items generalizing results with
  | nil => simp [List.forall₂_nil_left_iff, eq_comm]
  | cons item items inductionHypothesis =>
      simp only [List.mapM_cons, List.forall₂_cons_left_iff, Option.bind_eq_bind,
        Option.bind_eq_some_iff, inductionHypothesis]
      constructor
      · rintro ⟨result, first, later, rest, collected⟩
        exact ⟨result, later, first, rest, (Option.some.inj collected).symm⟩
      · rintro ⟨result, later, first, rest, rfl⟩
        exact ⟨result, first, later, rest, rfl⟩

theorem mapM_eq_none_iff {Item : Type u} {read : Item → Option Result} {items : List Item} :
    items.mapM read = none ↔ ∃ item ∈ items, read item = none := by
  induction items with
  | nil => simp
  | cons item items inductionHypothesis =>
      simp only [List.mapM_cons, List.exists_mem_cons_iff, ← inductionHypothesis]
      cases read item with
      | none => simp
      | some result => cases items.mapM read <;> simp

end VolunteerScreening.Fallible
