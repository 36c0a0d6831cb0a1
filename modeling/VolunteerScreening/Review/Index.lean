import VolunteerScreening.Review.Models
import Mathlib.Data.List.AList

/-!
# The index of what is unverified

Open review items by the row they cover and by the row they affect, in one
dictionary.  A row's own item is written over what is there; an item that only
affects a row is kept for it only while nothing is there yet.
-/

namespace VolunteerScreening.Review

abbrev RowKey := String × String

structure ReviewRow where
  id : Nat
  kind : ReviewKind
  entityType : String
  entityId : String
  affectedEntityType : String
  affectedEntityId : String
  recordedByDisplay : String
  createdAt : Nat
  deriving DecidableEq

namespace ReviewRow

variable (row : ReviewRow)

def covered : RowKey := (row.entityType, row.entityId)

def affected : Option RowKey :=
  if row.affectedEntityType = "" then none else some (row.affectedEntityType, row.affectedEntityId)

/-- Whether the item covers or affects this row. -/
def PointsAt (key : RowKey) : Prop := row.covered = key ∨ row.affected = some key

end ReviewRow

/-- Open items, in any order: no two are the same one, and at most one covers each row. -/
structure OpenRows where
  rows : List ReviewRow
  uniqueId : (rows.map (·.id)).Nodup
  oneOpenReviewPerEntity : (rows.map (·.covered)).Nodup

abbrev ByKey := AList fun _ : RowKey => ReviewRow

namespace ByKey

/-- Write a row where there is none yet. -/
def setDefault (byKey : ByKey) (key : RowKey) (row : ReviewRow) : ByKey :=
  if key ∈ byKey then byKey else byKey.insert key row

def enter (byKey : ByKey) (row : ReviewRow) : ByKey :=
  let byKey := byKey.insert row.covered row
  match row.affected with
  | some key => setDefault byKey key row
  | none => byKey

variable {byKey : ByKey} {key other : RowKey} {row found : ReviewRow}

theorem lookup_setDefault_of_some (present : byKey.lookup key = some found) :
    (byKey.setDefault other row).lookup key = some found := by
  unfold setDefault
  split
  · exact present
  · next absent =>
      have different : key ≠ other := by
        rintro rfl
        exact absent (AList.lookup_isSome.mp (by rw [present]; rfl))
      rw [AList.lookup_insert_ne different]
      exact present

theorem lookup_setDefault_cases (present : (byKey.setDefault other row).lookup key = some found) :
    byKey.lookup key = some found ∨ key = other ∧ found = row := by
  unfold setDefault at present
  split at present
  · exact .inl present
  · by_cases same : key = other
    · subst same
      rw [AList.lookup_insert, Option.some.injEq] at present
      exact .inr ⟨rfl, present.symm⟩
    · rw [AList.lookup_insert_ne same] at present
      exact .inl present

theorem mem_setDefault : key ∈ byKey.setDefault other row ↔ key = other ∨ key ∈ byKey := by
  unfold setDefault
  split
  · next present =>
      constructor
      · exact .inr
      · rintro (rfl | listed)
        · exact present
        · exact listed
  · exact AList.mem_insert byKey

theorem lookup_enter_covered : (byKey.enter row).lookup row.covered = some row := by
  unfold enter
  cases row.affected with
  | none => exact AList.lookup_insert byKey
  | some key => exact lookup_setDefault_of_some (AList.lookup_insert byKey)

theorem lookup_enter_of_ne (different : key ≠ row.covered)
    (present : byKey.lookup key = some found) : (byKey.enter row).lookup key = some found := by
  have kept : (byKey.insert row.covered row).lookup key = some found := by
    rw [AList.lookup_insert_ne different]
    exact present
  unfold enter
  cases row.affected with
  | none => exact kept
  | some key => exact lookup_setDefault_of_some kept

/-- What is found was there before, or is the item entered, under a row it points at. -/
theorem lookup_enter_cases (present : (byKey.enter row).lookup key = some found) :
    byKey.lookup key = some found ∨ found = row ∧ row.PointsAt key := by
  have inserted {found : ReviewRow} (present : (byKey.insert row.covered row).lookup key =
      some found) : byKey.lookup key = some found ∨ found = row ∧ row.PointsAt key := by
    by_cases same : key = row.covered
    · subst same
      rw [AList.lookup_insert, Option.some.injEq] at present
      exact .inr ⟨present.symm, .inl rfl⟩
    · rw [AList.lookup_insert_ne same] at present
      exact .inl present
  unfold enter at present
  cases affects : row.affected with
  | none =>
      rw [affects] at present
      exact inserted present
  | some other =>
      rw [affects] at present
      rcases lookup_setDefault_cases present with earlier | ⟨rfl, rfl⟩
      · exact inserted earlier
      · exact .inr ⟨rfl, .inr affects⟩

theorem mem_enter : key ∈ byKey.enter row ↔ row.PointsAt key ∨ key ∈ byKey := by
  unfold enter ReviewRow.PointsAt
  cases affects : row.affected with
  | none =>
      rw [AList.mem_insert]
      simp [eq_comm]
  | some other =>
      rw [mem_setDefault, AList.mem_insert, Option.some.injEq, eq_comm (a := key),
        eq_comm (a := key)]
      tauto

end ByKey

/-- Open review items keyed by both the row they cover and the row they affect. -/
structure ReviewIndex where
  byKey : ByKey

namespace ReviewIndex

def ofRows (rows : List ReviewRow) : ReviewIndex := ⟨rows.foldl ByKey.enter ∅⟩

variable (index : ReviewIndex)

def length : Nat := (index.byKey.entries.map (·.2.id)).dedup.length

def lookup (entityType entityId : String) : Option ReviewRow :=
  index.byKey.lookup (entityType, entityId)

end ReviewIndex

structure ByKey.Indexes (byKey : ByKey) (rows : List ReviewRow) : Prop where
  points : ∀ key row, byKey.lookup key = some row → row ∈ rows ∧ row.PointsAt key
  direct : ∀ row ∈ rows, byKey.lookup row.covered = some row
  found : ∀ row ∈ rows, ∀ key, row.PointsAt key → key ∈ byKey

namespace ByKey.Indexes

theorem empty : ByKey.Indexes ∅ [] := by
  refine ⟨?_, ?_, ?_⟩
  · intro key row present
    rw [AList.lookup_empty] at present
    cases present
  · intro row listed
    cases listed
  · intro row listed
    cases listed

variable {byKey : ByKey} {rows : List ReviewRow} {row : ReviewRow}

theorem enter (indexes : byKey.Indexes rows) (fresh : row.covered ∉ rows.map (·.covered)) :
    (byKey.enter row).Indexes (rows ++ [row]) := by
  refine ⟨?_, ?_, ?_⟩
  · intro key found present
    rcases lookup_enter_cases present with earlier | ⟨rfl, pointed⟩
    · obtain ⟨listed, pointed⟩ := indexes.points key found earlier
      exact ⟨List.mem_append_left _ listed, pointed⟩
    · exact ⟨List.mem_append_right _ List.mem_cons_self, pointed⟩
  · intro found listed
    rcases List.mem_append.mp listed with earlier | last
    · apply lookup_enter_of_ne _ (indexes.direct found earlier)
      intro same
      exact fresh (same ▸ List.mem_map_of_mem earlier)
    · obtain rfl := List.mem_singleton.mp last
      exact lookup_enter_covered
  · intro found listed key pointed
    rcases List.mem_append.mp listed with earlier | last
    · exact mem_enter.mpr (.inr (indexes.found found earlier key pointed))
    · obtain rfl := List.mem_singleton.mp last
      exact mem_enter.mpr (.inl pointed)

theorem foldl (indexes : byKey.Indexes rows) {more : List ReviewRow}
    (unique : ((rows ++ more).map (·.covered)).Nodup) :
    (more.foldl ByKey.enter byKey).Indexes (rows ++ more) := by
  induction more generalizing byKey rows with
  | nil => simpa using indexes
  | cons row more inductionHypothesis =>
      rw [List.append_cons] at unique ⊢
      apply inductionHypothesis _ unique
      apply indexes.enter
      intro listed
      rw [List.map_append, List.map_append, List.nodup_append] at unique
      have apart := (List.nodup_append.mp unique.1).2.2
      exact apart _ listed _ (by simp) rfl

end ByKey.Indexes

/-- The index of open items holds each of them under its own row, and nothing else. -/
theorem OpenRows.indexes (listing : OpenRows) :
    (ReviewIndex.ofRows listing.rows).byKey.Indexes listing.rows :=
  ByKey.Indexes.empty.foldl listing.oneOpenReviewPerEntity

end VolunteerScreening.Review
