import Mathlib.Data.List.Basic
import VolunteerScreening.Library.Chains

/-!
# Tables that keep their rows

Rows are added at the end of a table and rewritten in place, never taken out.
What one change may make of a row, many changes make of it as well.  Where a row
is replaced by a later one and none replaces two, following the replacements
tells the history of a row that stands.
-/

namespace VolunteerScreening.Tables

universe u

variable {Row : Type u}

/-- Every row is still in its place, as a change may have left it. -/
def Retains (may : Row → Row → Prop) (before after : List Row) : Prop :=
  ∀ (position : Nat) (row : Row), before[position]? = some row →
    ∃ later, after[position]? = some later ∧ may row later

section Keeping

variable {may : Row → Row → Prop} {before middle after : List Row}

theorem Retains.refl (refl : ∀ row, may row row) (rows : List Row) : Retains may rows rows :=
  fun _ row found => ⟨row, found, refl row⟩

theorem Retains.trans (trans : ∀ {first second third}, may first second → may second third →
      may first third)
    (early : Retains may before middle) (late : Retains may middle after) :
    Retains may before after := by
  intro position row found
  obtain ⟨between, foundBetween, became⟩ := early position row found
  obtain ⟨later, foundLater, becameLater⟩ := late position between foundBetween
  exact ⟨later, foundLater, trans became becameLater⟩

theorem Retains.append (kept : Retains may before after) (added : List Row) :
    Retains may before (after ++ added) := by
  intro position row found
  obtain ⟨later, foundLater, became⟩ := kept position row found
  refine ⟨later, ?_, became⟩
  rw [List.getElem?_append_left (List.getElem?_eq_some_iff.mp foundLater).1]
  exact foundLater

/-- Rewriting each row as it may be rewritten keeps them all. -/
theorem retains_mapIdx {change : Nat → Row → Row} (may_change : ∀ position row,
    may row (change position row)) (rows : List Row) : Retains may rows (rows.mapIdx change) := by
  intro position row found
  refine ⟨change position row, ?_, may_change position row⟩
  rw [List.getElem?_mapIdx, found]
  rfl

theorem retains_modify (refl : ∀ row, may row row) {rows : List Row} {position : Nat}
    {change : Row → Row}
    (may_change : ∀ row, rows[position]? = some row → may row (change row)) :
    Retains may rows (rows.modify position change) := by
  intro other row found
  rw [List.getElem?_modify, found]
  by_cases same : position = other
  · subst same
    exact ⟨change row, by simp, may_change row found⟩
  · exact ⟨row, by simp [same], refl row⟩

theorem retains_set (refl : ∀ row, may row row) {rows : List Row} {position : Nat} {row after : Row}
    (found : rows[position]? = some row) (became : may row after) :
    Retains may rows (rows.set position after) := by
  intro other earlier listed
  by_cases same : position = other
  · subst same
    obtain rfl := Option.some.inj (found.symm.trans listed)
    refine ⟨after, ?_, became⟩
    rw [List.getElem?_set_self (List.getElem?_eq_some_iff.mp found).1]
  · refine ⟨earlier, ?_, refl earlier⟩
    rw [List.getElem?_set_ne same]
    exact listed

end Keeping

/-! ## Rows that later rows replace -/

section Replacing

open Chains Relation

/-- What replaces each row: nothing or a later row, and no row replaces two. -/
structure Succession (links : List (Option Nat)) : Prop where
  later : ∀ {position target : Nat}, links[position]? = some (some target) →
    position < target ∧ target < links.length
  single : ∀ {first second target : Nat}, links[first]? = some (some target) →
    links[second]? = some (some target) → first = second

def successor (links : List (Option Nat)) (position : Nat) : Option Nat := links[position]?.join

/-- From every row its history leads to one that stands, and one that stands ends one history. -/
structure Histories (links : List (Option Nat)) : Prop where
  ends : ∀ position < links.length,
    ∃ final, Leads (successor links) position final ∧ links[final]? = some none
  linear : ∀ {first second final : Nat}, Leads (successor links) first final →
    Leads (successor links) second final →
      Leads (successor links) first second ∨ Leads (successor links) second first
  ordered : ∀ {earlier later : Nat}, TransGen (Points (successor links)) earlier later →
    earlier < later

variable {links : List (Option Nat)}

theorem points_successor {position target : Nat} :
    Points (successor links) position target ↔ links[position]? = some (some target) := by
  unfold Points successor
  exact Option.join_eq_some_iff

theorem succession_nil : Succession [] where
  later found := by cases found
  single found := by cases found

theorem getElem?_concat_none {position target : Nat}
    (found : (links ++ [none])[position]? = some (some target)) :
    links[position]? = some (some target) := by
  by_cases within : position < links.length
  · rwa [List.getElem?_append_left within] at found
  · rw [List.getElem?_append_right (Nat.le_of_not_lt within)] at found
    cases List.mem_singleton.mp (List.mem_of_getElem? found)

/-- A new row is not replaced yet, and replaces none. -/
theorem Succession.append (succession : Succession links) : Succession (links ++ [none]) where
  later found := by
    obtain ⟨after, within⟩ := succession.later (getElem?_concat_none found)
    rw [List.length_append]
    exact ⟨after, Nat.lt_add_right _ within⟩
  single found also :=
    succession.single (getElem?_concat_none found) (getElem?_concat_none also)

theorem getElem?_set_some {position other target : Nat} {link : Option Nat}
    (found : (links.set position link)[other]? = some (some target)) :
    position = other ∧ position < links.length ∧ link = some target ∨
      links[other]? = some (some target) := by
  rw [List.getElem?_set] at found
  split at found
  · next same =>
      split at found
      · next within => exact .inl ⟨same, within, Option.some.inj found⟩
      · cases found
  · exact .inr found

theorem Succession.replace (succession : Succession links) (position : Nat) :
    Succession (links.set position (some links.length) ++ [none]) where
  later found := by
    rw [List.length_append, List.length_set]
    obtain ⟨rfl, within, same⟩ | old := getElem?_set_some (getElem?_concat_none found)
    · obtain rfl := Option.some.inj same
      exact ⟨within, Nat.lt_succ_self _⟩
    · obtain ⟨after, within⟩ := succession.later old
      exact ⟨after, Nat.lt_add_right _ within⟩
  single found also := by
    -- the new row is past the end of what the old rows point at
    have fresh : ∀ {row : Nat}, ¬links[row]? = some (some links.length) :=
      fun old => Nat.lt_irrefl _ (succession.later old).2
    obtain ⟨rfl, _, same⟩ | old := getElem?_set_some (getElem?_concat_none found)
    · obtain rfl := Option.some.inj same
      obtain ⟨rfl, _, _⟩ | old := getElem?_set_some (getElem?_concat_none also)
      · rfl
      · exact absurd old fresh
    · obtain ⟨_, _, same⟩ | older := getElem?_set_some (getElem?_concat_none also)
      · obtain rfl := Option.some.inj same
        exact absurd old fresh
      · exact succession.single old older

theorem Succession.reinstate (succession : Succession links) (position : Nat) :
    Succession (links.set position none) where
  later found := by
    rw [List.length_set]
    obtain ⟨_, _, same⟩ | old := getElem?_set_some found
    · cases same
    · exact succession.later old
  single found also := by
    obtain ⟨_, _, same⟩ | old := getElem?_set_some found
    · cases same
    · obtain ⟨_, _, same⟩ | older := getElem?_set_some also
      · cases same
      · exact succession.single old older

theorem Succession.leads_to_standing (succession : Succession links) {position : Nat}
    (within : position < links.length) :
    ∃ final, Leads (successor links) position final ∧ links[final]? = some none := by
  -- the distance to the end of the table goes down at every step
  induction distance : links.length - position using Nat.strong_induction_on
    generalizing position with
  | _ distance inductionHypothesis =>
      have found : links[position]? = some links[position] := List.getElem?_eq_getElem within
      cases replaced : links[position] with
      | none => exact ⟨position, .refl, found.trans (congrArg some replaced)⟩
      | some target =>
          rw [replaced] at found
          obtain ⟨after, inside⟩ := succession.later found
          obtain ⟨final, leads, standing⟩ :=
            inductionHypothesis (links.length - target) (by omega) inside rfl
          exact ⟨final, .head (points_successor.mpr found) leads, standing⟩

theorem Succession.histories (succession : Succession links) : Histories links where
  ends _ within := succession.leads_to_standing within
  linear early late := by
    have unique : Relator.RightUnique (Function.swap (Points (successor links))) := by
      intro target first second points also
      exact succession.single (points_successor.mp points) (points_successor.mp also)
    obtain reached | reached :=
      ReflTransGen.total_of_right_unique unique early.swap late.swap
    · exact .inr reached.swap
    · exact .inl reached.swap
  ordered leads := by
    induction leads with
    | single points => exact (succession.later (points_successor.mp points)).1
    | tail _ points inductionHypothesis =>
        exact inductionHypothesis.trans (succession.later (points_successor.mp points)).1

end Replacing

end VolunteerScreening.Tables
