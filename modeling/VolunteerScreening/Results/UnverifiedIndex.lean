import VolunteerScreening.Review.Index
import VolunteerScreening.Review.Queue
import Mathlib.Data.List.Dedup

/-!
# The index of what is unverified misses nothing

What the index finds under a row, in whatever order the open items come in; and
the index of one volunteer's file, whose queue has one open item on each row at
most.
-/

namespace VolunteerScreening.Review

namespace OpenRows

variable (listing : OpenRows)

theorem mem_ids {id : Nat} :
    id ∈ (ReviewIndex.ofRows listing.rows).byKey.entries.map (·.2.id) ↔
      id ∈ listing.rows.map (·.id) := by
  have indexes := listing.indexes
  rw [List.mem_map, List.mem_map]
  constructor
  · rintro ⟨⟨key, row⟩, entered, rfl⟩
    exact ⟨row, (indexes.points key row (AList.mem_lookup_iff.mpr entered)).1, rfl⟩
  · rintro ⟨row, listed, rfl⟩
    exact ⟨⟨row.covered, row⟩, AList.mem_lookup_iff.mp (indexes.direct row listed), rfl⟩

theorem length_ofRows : (ReviewIndex.ofRows listing.rows).length = listing.rows.length := by
  have same : (((ReviewIndex.ofRows listing.rows).byKey.entries.map (·.2.id)).dedup).Perm
      (listing.rows.map (·.id)) := by
    apply (List.perm_ext_iff_of_nodup (List.nodup_dedup _) listing.uniqueId).mpr
    intro id
    rw [List.mem_dedup, mem_ids]
  rw [ReviewIndex.length, same.length_eq, List.length_map]

end OpenRows

/-- Something is found under a row exactly when an open item covers or affects it, and then it
is such an item, and the one that covers the row if there is one; the index is as long as the
list. -/
theorem unverified_index_complete (listing : OpenRows) :
    let index := ReviewIndex.ofRows listing.rows
    (∀ entityType entityId, (index.lookup entityType entityId).isSome = true ↔
      ∃ row ∈ listing.rows, row.PointsAt (entityType, entityId)) ∧
    (∀ entityType entityId row, index.lookup entityType entityId = some row →
      row ∈ listing.rows ∧ row.PointsAt (entityType, entityId)) ∧
    (∀ entityType entityId, ∀ row ∈ listing.rows, row.covered = (entityType, entityId) →
      index.lookup entityType entityId = some row) ∧
    index.length = listing.rows.length := by
  intro index
  have indexes := listing.indexes
  refine ⟨?_, ?_, ?_, listing.length_ofRows⟩
  · intro entityType entityId
    constructor
    · intro present
      obtain ⟨row, present⟩ := Option.isSome_iff_exists.mp present
      exact ⟨row, indexes.points _ row present⟩
    · rintro ⟨row, listed, pointed⟩
      exact AList.lookup_isSome.mpr (indexes.found row listed _ pointed)
  · intro entityType entityId row present
    exact indexes.points _ row present
  · intro entityType entityId row listed covers
    rw [ReviewIndex.lookup, ← covers]
    exact indexes.direct row listed

namespace Sample

/-- A check waits that affects an instance, and the instance's own completion after it. -/
def twoRows : OpenRows where
  rows :=
    [⟨7, .crc, "CRCRecord", "3", "RequirementInstance", "12", "Ada Stone", 1⟩,
      ⟨8, .requirementCompletion, "RequirementInstance", "12", "", "", "Ben Field", 2⟩]
  uniqueId := by decide
  oneOpenReviewPerEntity := by decide

end Sample

example : ((ReviewIndex.ofRows Sample.twoRows.rows).lookup "RequirementInstance" "12").map (·.id) =
    some 8 := by decide

/-! ## The index of one file -/

structure EntityNames where
  key : Entity → RowKey
  injective : Function.Injective key
  typed : ∀ entity, (key entity).1 ≠ ""

namespace EntityNames

variable (names : EntityNames) (created : Nat → Nat)

/-- The columns of one item, which goes by its position in the file. -/
def reviewRow (item : ReviewItem) (position : Nat) : ReviewRow where
  id := position
  kind := item.kind
  entityType := (names.key item.entity).1
  entityId := (names.key item.entity).2
  affectedEntityType := ((item.affectedEntity.map names.key).getD ("", "")).1
  affectedEntityId := ((item.affectedEntity.map names.key).getD ("", "")).2
  recordedByDisplay := item.recordedByDisplay
  createdAt := created position

def openReviewRows (items : List ReviewItem) : List ReviewRow :=
  (items.zipIdx.filter (·.1.isOpen)).map fun (item, position) =>
    names.reviewRow created item position

variable {names} {created} {items : List ReviewItem}

theorem pointsAt_reviewRow {item : ReviewItem} {position : Nat} {entity : Entity} :
    (names.reviewRow created item position).PointsAt (names.key entity) ↔
      item.pointsAt entity = true := by
  have affects : (names.reviewRow created item position).affected =
      item.affectedEntity.map names.key := by
    unfold reviewRow ReviewRow.affected
    cases affected : item.affectedEntity with
    | none => rfl
    | some other => exact if_neg (names.typed other)
  rw [ReviewRow.PointsAt, affects, ReviewItem.pointsAt, Bool.or_eq_true, beq_iff_eq, beq_iff_eq]
  apply or_congr
  · exact names.injective.eq_iff
  · cases item.affectedEntity with
    | none => simp
    | some other => simpa using names.injective.eq_iff

theorem mem_openReviewRows {row : ReviewRow} :
    row ∈ names.openReviewRows created items ↔
      ∃ position item, items[position]? = some item ∧ item.isOpen = true ∧
        row = names.reviewRow created item position := by
  unfold openReviewRows
  constructor
  · intro listed
    obtain ⟨⟨item, position⟩, kept, rfl⟩ := List.mem_map.mp listed
    obtain ⟨placed, waiting⟩ := List.mem_filter.mp kept
    exact ⟨position, item, List.mem_zipIdx_iff_getElem?.mp placed, waiting, rfl⟩
  · rintro ⟨position, item, placed, waiting, rfl⟩
    exact List.mem_map.mpr ⟨(item, position),
      List.mem_filter.mpr ⟨List.mem_zipIdx_iff_getElem?.mpr placed, waiting⟩, rfl⟩

theorem nodup_waiting (items : List ReviewItem) :
    (items.zipIdx.filter (·.1.isOpen)).Nodup :=
  (List.Nodup.of_map Prod.snd (List.nodup_zipIdx_map_snd items)).filter _

def tableName : Entity → String
  | .requirementInstance _ => "RequirementInstance"
  | .crcRecord _ => "CRCRecord"
  | .disqualifyingConviction _ => "DisqualifyingConviction"
  | .discretionaryOverride _ => "DiscretionaryOverride"
  | .document _ => "Document"

def number : Entity → Nat
  | .requirementInstance definition => definition
  | .crcRecord position => position
  | .disqualifyingConviction position => position
  | .discretionaryOverride position => position
  | .document position => position

def byNumber : EntityNames where
  key entity := (tableName entity, (number entity).repr)
  injective := by
    intro first second same
    obtain ⟨sameTable, sameText⟩ := Prod.mk.inj same
    have sameNumber : number first = number second := by
      have read := congrArg (fun text : String => Nat.ofDigitChars 10 text.toList 0) sameText
      simpa using read
    cases first <;> cases second <;> simp_all [tableName, number]
  typed entity := by cases entity <;> simp [tableName]

/-- A queue with one open item at most on each row makes a listing. -/
def openRows (names : EntityNames) (created : Nat → Nat) (items : List ReviewItem)
    (sole : reviewQueue.SoleOpen items) : OpenRows where
  rows := names.openReviewRows created items
  uniqueId := by
    unfold openReviewRows
    rw [List.map_map]
    refine List.Nodup.map_on ?_ (nodup_waiting items)
    rintro ⟨item, position⟩ listed ⟨other, position'⟩ listed' samePosition
    obtain rfl : position = position' := samePosition
    have placed := List.mem_zipIdx_iff_getElem?.mp (List.mem_filter.mp listed).1
    have placed' := List.mem_zipIdx_iff_getElem?.mp (List.mem_filter.mp listed').1
    rw [Prod.mk.injEq]
    exact ⟨Option.some.inj (placed.symm.trans placed'), rfl⟩
  oneOpenReviewPerEntity := by
    unfold openReviewRows
    rw [List.map_map]
    refine List.Nodup.map_on ?_ (nodup_waiting items)
    rintro ⟨item, position⟩ listed ⟨other, position'⟩ listed' sameKey
    have sameEntity : item.entity = other.entity := names.injective sameKey
    obtain ⟨placed, waiting⟩ := List.mem_filter.mp listed
    obtain ⟨placed', waiting'⟩ := List.mem_filter.mp listed'
    have placed := List.mem_zipIdx_iff_getElem?.mp placed
    have placed' := List.mem_zipIdx_iff_getElem?.mp placed'
    obtain rfl := sole position position' item other placed placed' waiting waiting' sameEntity
    rw [Prod.mk.injEq]
    exact ⟨Option.some.inj (placed.symm.trans placed'), rfl⟩

/-- The index of a file's open items finds something under a row exactly when an open item of
the file points at it. -/
theorem lookup_openRows (sole : reviewQueue.SoleOpen items) (entity : Entity) :
    ((ReviewIndex.ofRows (names.openRows created items sole).rows).lookup
        (names.key entity).1 (names.key entity).2).isSome = true ↔
      ∃ item ∈ items, item.isOpen = true ∧ item.pointsAt entity = true := by
  have indexes := (names.openRows created items sole).indexes
  constructor
  · intro present
    obtain ⟨row, present⟩ := Option.isSome_iff_exists.mp present
    obtain ⟨listed, pointed⟩ := indexes.points _ row present
    obtain ⟨position, item, placed, waiting, rfl⟩ := mem_openReviewRows.mp listed
    exact ⟨item, List.mem_of_getElem? placed, waiting, pointsAt_reviewRow.mp pointed⟩
  · rintro ⟨item, listed, waiting, pointed⟩
    obtain ⟨position, placed⟩ := List.mem_iff_getElem?.mp listed
    have entered : names.reviewRow created item position ∈
        (names.openRows created items sole).rows :=
      mem_openReviewRows.mpr ⟨position, item, placed, waiting, rfl⟩
    exact AList.lookup_isSome.mpr
      (indexes.found _ entered _ (pointsAt_reviewRow.mpr pointed))

def waiting : ReviewItem :=
  ⟨.requirementCompletion, .requirementInstance 12, "Orientation", none, .pending, some 4,
    "Ben Field", some 1, .empty, none, none, "", "", none⟩

example : (byNumber.openReviewRows id [waiting]).map (·.covered) =
    [("RequirementInstance", "12")] := by decide

end EntityNames

end VolunteerScreening.Review
