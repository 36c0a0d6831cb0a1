import Mathlib.Data.List.Induction
import Mathlib.Data.List.Nodup

/-!
# Keeping the first row of each key

A pass over rows that skips a row whose key it has seen.  Where the key tells
the rows apart, what it keeps is every row, once.
-/

namespace VolunteerScreening.Distinct

universe u v

variable {Row : Type u} {Key : Type v} [BEq Key] (key : Row → Key)

/-- The rows in order, without those whose key came before. -/
def keepFirst (rows : List Row) : List Row :=
  rows.foldl (fun seen row => if seen.any (key · == key row) then seen else seen ++ [row]) []

theorem keepFirst_concat (rows : List Row) (row : Row) :
    keepFirst key (rows ++ [row]) =
      if (keepFirst key rows).any (key · == key row) then keepFirst key rows
      else keepFirst key rows ++ [row] := by
  unfold keepFirst
  rw [List.foldl_append]
  rfl

variable [LawfulBEq Key]

theorem keepFirst_nodup (rows : List Row) : ((keepFirst key rows).map key).Nodup := by
  induction rows using List.reverseRecOn with
  | nil => exact List.nodup_nil
  | append_singleton rows row inductionHypothesis =>
      rw [keepFirst_concat]
      split
      · exact inductionHypothesis
      · next fresh =>
          rw [List.map_append, List.nodup_append]
          refine ⟨inductionHypothesis, List.nodup_singleton _, ?_⟩
          intro seen listed last new same
          obtain ⟨kept, found, rfl⟩ := List.mem_map.mp listed
          obtain rfl : last = key row := by simpa using new
          exact fresh (List.any_eq_true.mpr ⟨kept, found, by simpa using same⟩)

/-- What is kept was there, and every row's key is kept. -/
theorem keepFirst_covers (rows : List Row) :
    (∀ row ∈ keepFirst key rows, row ∈ rows) ∧
      ∀ row ∈ rows, ∃ kept ∈ keepFirst key rows, key kept = key row := by
  induction rows using List.reverseRecOn with
  | nil => exact ⟨fun _ listed => listed, fun _ listed => nomatch listed⟩
  | append_singleton rows last inductionHypothesis =>
      obtain ⟨sound, complete⟩ := inductionHypothesis
      rw [keepFirst_concat]
      split
      · next seen =>
          refine ⟨fun row listed => List.mem_append_left _ (sound row listed), ?_⟩
          intro row listed
          rcases List.mem_append.mp listed with early | new
          · exact complete row early
          · obtain rfl : row = last := by simpa using new
            obtain ⟨kept, found, same⟩ := List.any_eq_true.mp seen
            exact ⟨kept, found, eq_of_beq same⟩
      · constructor
        · intro row listed
          rcases List.mem_append.mp listed with early | new
          · exact List.mem_append_left _ (sound row early)
          · exact List.mem_append_right _ new
        · intro row listed
          rcases List.mem_append.mp listed with early | new
          · obtain ⟨kept, found, same⟩ := complete row early
            exact ⟨kept, List.mem_append_left _ found, same⟩
          · exact ⟨row, List.mem_append_right _ new, rfl⟩

/-- Where the key tells the rows apart, every row is kept. -/
theorem mem_keepFirst {rows : List Row}
    (determines : ∀ first ∈ rows, ∀ second ∈ rows, key first = key second → first = second)
    {row : Row} : row ∈ keepFirst key rows ↔ row ∈ rows := by
  obtain ⟨sound, complete⟩ := keepFirst_covers key rows
  refine ⟨sound row, ?_⟩
  intro listed
  obtain ⟨kept, found, same⟩ := complete row listed
  rw [← determines kept (sound kept found) row listed same]
  exact found

end VolunteerScreening.Distinct
