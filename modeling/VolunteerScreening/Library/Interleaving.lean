import VolunteerScreening.Library.Machine

/-!
# Parties at work on one store

Parties join at any time, and each advances through its own states step by step,
reading and writing a store they share.  A run is any order of these turns.
-/

namespace VolunteerScreening

universe u v w

/-- A store and the parties at work on it. -/
structure Interleaved (Store : Type u) (Party : Type v) where
  store : Store
  parties : List Party

inductive Turn (Request : Type w) where
  | join (request : Request)
  | advance (party : Nat)

namespace Interleaved

variable {Store : Type u} {Party : Type v} {Request : Type w}
  (enter : Request → Store → Option Party) (advance : Party → Store → Party × Store)

/-- One turn.  Nobody enters where there is nothing to work on. -/
def step (shared : Interleaved Store Party) (turn : Turn Request) : Interleaved Store Party :=
  match turn with
  | .join request =>
      match enter request shared.store with
      | some party => { shared with parties := shared.parties ++ [party] }
      | none => shared
  | .advance position =>
      match shared.parties[position]? with
      | some party =>
          let (after, store) := advance party shared.store
          ⟨store, shared.parties.set position after⟩
      | none => shared

variable {enter advance} {shared : Interleaved Store Party} {turn : Turn Request}

theorem step_join {request : Request} {party : Party}
    (entered : enter request shared.store = some party) :
    step enter advance shared (.join request) = ⟨shared.store, shared.parties ++ [party]⟩ := by
  simp [step, entered]

theorem step_advance {position : Nat} {party : Party}
    (found : shared.parties[position]? = some party) :
    step enter advance shared (.advance position : Turn Request) =
      ⟨(advance party shared.store).2,
        shared.parties.set position (advance party shared.store).1⟩ := by
  simp [step, found]

variable (enter advance shared turn)

/-- A turn changes nothing, lets somebody in, or takes one party further. -/
theorem step_cases :
    (step enter advance shared turn = shared ∧
        ∀ position party, turn = .advance position → shared.parties[position]? ≠ some party) ∨
      (∃ request party, turn = .join request ∧ enter request shared.store = some party ∧
        step enter advance shared turn = ⟨shared.store, shared.parties ++ [party]⟩) ∨
      ∃ position party, turn = .advance position ∧ shared.parties[position]? = some party ∧
        step enter advance shared turn = ⟨(advance party shared.store).2,
          shared.parties.set position (advance party shared.store).1⟩ := by
  cases turn with
  | join request =>
      cases entered : enter request shared.store with
      | none => exact .inl ⟨by simp [step, entered], nofun⟩
      | some party => exact .inr (.inl ⟨request, party, rfl, entered, step_join entered⟩)
  | advance position =>
      cases found : shared.parties[position]? with
      | none =>
          refine .inl ⟨by simp [step, found], ?_⟩
          rintro _ party ⟨⟩ present
          rw [found] at present
          cases present
      | some party => exact .inr (.inr ⟨position, party, rfl, found, step_advance found⟩)

end Interleaved

/-! ## Counting parties -/

section Counting

variable {Party : Type v} {parties : List Party} {counted : Party → Bool}

theorem countP_set_eq {position : Nat} {party : Party} (after : Party)
    (found : parties[position]? = some party) :
    (parties.set position after).countP counted + (counted party).toNat =
      parties.countP counted + (counted after).toNat := by
  obtain ⟨within, rfl⟩ := List.getElem?_eq_some_iff.mp found
  rw [List.countP_set within]
  cases member : counted parties[position] with
  | false => cases counted after <;> simp
  | true =>
      have among : 0 < parties.countP counted :=
        List.countP_pos_iff.mpr ⟨_, List.getElem_mem within, member⟩
      cases counted after <;> simp <;> omega

theorem countP_cons_toNat (head : Party) (rest : List Party) :
    (head :: rest).countP counted = rest.countP counted + (counted head).toNat := by
  rw [List.countP_cons]
  cases counted head <;> rfl

/-- A party accounts for the whole count exactly when no other party counts. -/
theorem countP_eq_own_iff {position : Nat} {party : Party}
    (found : parties[position]? = some party) :
    parties.countP counted = (counted party).toNat ↔
      ∀ (other : Nat) (row : Party), parties[other]? = some row → other ≠ position →
        counted row = false := by
  induction parties generalizing position with
  | nil => simp at found
  | cons head rest inductionHypothesis =>
      rw [countP_cons_toNat]
      cases position with
      | zero =>
          cases found
          rw [Nat.add_eq_right, List.countP_eq_zero]
          constructor
          · rintro none_ (_ | other) row found' different
            · exact absurd rfl different
            · simpa using none_ row (List.mem_of_getElem? found')
          · intro others row listed
            obtain ⟨other, found'⟩ := List.mem_iff_getElem?.mp listed
            simpa using others (other + 1) row found' (Nat.succ_ne_zero other)
      | succ position =>
          have among := @inductionHypothesis position found
          have atLeast : (counted party).toNat ≤ rest.countP counted := by
            cases member : counted party with
            | false => exact Nat.zero_le _
            | true => exact List.countP_pos_iff.mpr ⟨party, List.mem_of_getElem? found, member⟩
          constructor
          · rintro alone (_ | other) row found' different
            · cases found'
              cases member : counted head with
              | false => rfl
              | true =>
                  rw [member, Bool.toNat_true] at alone
                  omega
            · exact among.mp (by omega) other row found' fun same => different (congrArg _ same)
          · intro others
            have first : counted head = false := others 0 head rfl (Nat.succ_ne_zero position).symm
            rw [first, Bool.toNat_false, Nat.add_zero]
            exact among.mpr fun other row found' different =>
              others (other + 1) row found' fun same => different (Nat.succ.inj same)

end Counting

end VolunteerScreening
