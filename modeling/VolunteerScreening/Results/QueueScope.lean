import VolunteerScreening.Application
import VolunteerScreening.Review.Views

/-!
# Whose entries the review queue shows

The queue lists every entry of the church to whoever may open it; only the
filter on one's own entries narrows it.
-/

namespace VolunteerScreening.Review

open Accounts Fallible Org

/-! ## Pages -/

theorem mem_iff_onPage {Row : Type} {rows : List Row} {row : Row} :
    row ∈ rows ↔ ∃ asked, row ∈ pageItems rows asked := by
  constructor
  · intro listed
    obtain ⟨position, within, rfl⟩ := List.getElem_of_mem listed
    refine ⟨some (position / pageSize + 1 : Nat), ?_⟩
    have inRange : (1 : Int) ≤ (position / pageSize + 1 : Nat) ∧
        ((position / pageSize + 1 : Nat) : Int) ≤
          (max 1 ((rows.length + pageSize - 1) / pageSize) : Nat) := by
      unfold pageSize
      omega
    have number : pageNumber rows.length (some (position / pageSize + 1 : Nat)) =
        position / pageSize + 1 := by
      unfold pageNumber
      exact if_pos inRange
    unfold pageItems
    rw [number, Nat.add_sub_cancel]
    apply List.mem_of_getElem? (i := position % pageSize)
    have split := Nat.div_add_mod' position pageSize
    have offset : position % pageSize < pageSize := Nat.mod_lt _ (by decide)
    rw [List.getElem?_take_of_lt offset, List.getElem?_drop, split,
      List.getElem?_eq_getElem within]
  · rintro ⟨asked, shown⟩
    exact List.mem_of_mem_drop (List.mem_of_mem_take shown)

/-! ## What a query selects -/

def ListedItem.isOf (listed : ListedItem) (now : Nat) : QueueShow → Bool
  | .pending => listed.item.isOpen
  | .stale => listed.isStale now
  | .closed => !listed.item.isOpen

theorem mem_pendingItems_iff {church : Church} {created : CreationTimes} {listed : ListedItem} :
    listed ∈ pendingItems church created ↔
      listed ∈ reviewItems church created ∧ listed.item.isOpen = true := by
  unfold pendingItems
  rw [List.mem_insertionSort, List.mem_filter]

theorem mem_staleItems_iff {church : Church} {created : CreationTimes} {now : Nat}
    {listed : ListedItem} :
    listed ∈ staleItems church created now ↔
      listed ∈ reviewItems church created ∧ listed.isStale now = true := by
  unfold staleItems
  rw [List.mem_filter, mem_pendingItems_iff]
  constructor
  · rintro ⟨⟨there, _⟩, old⟩
    exact ⟨there, old⟩
  · rintro ⟨there, old⟩
    have waiting : listed.item.isOpen = true := by
      unfold ListedItem.isStale at old
      simp only [Bool.and_eq_true] at old
      exact old.1.1
    exact ⟨⟨there, waiting⟩, old⟩

theorem mem_closedItems_iff {church : Church} {created : CreationTimes} {listed : ListedItem} :
    listed ∈ closedItems church created ↔
      listed ∈ reviewItems church created ∧ (!listed.item.isOpen) = true := by
  unfold closedItems
  rw [List.mem_insertionSort, List.mem_filter]

theorem mem_own_iff {items : List ListedItem} {listed : ListedItem} {user : Pk} {mine : Bool} :
    listed ∈ (if mine then items.filter (·.item.recordedByUserId == some user) else items) ↔
      listed ∈ items ∧ (mine = true → listed.item.recordedByUserId = some user) := by
  cases mine <;> simp

theorem mem_selected_iff {query : QueueQuery} {church : Church} {created : CreationTimes}
    {now : Nat} {user : Pk} {listed : ListedItem} :
    listed ∈ query.selected church created now user ↔
      (listed ∈ reviewItems church created ∧ listed.isOf now query.shown = true) ∧
        (query.mine = true → listed.item.recordedByUserId = some user) := by
  obtain ⟨shown, mine, page⟩ := query
  refine mem_own_iff.trans (and_congr_left fun _ => ?_)
  cases shown with
  | pending => exact mem_pendingItems_iff
  | stale => exact mem_staleItems_iff
  | closed => exact mem_closedItems_iff

/-! ## Scope -/

/-- An entry an administrator may know of: about somebody they see, or recorded by them. -/
def MayKnow (church : Church) (acting : Directory.Administrator) (listed : ListedItem) : Prop :=
  volunteerInScope church.settings acting.account listed.file = true ∨
    listed.item.recordedByUserId = some acting.pk

/-- Whatever page is asked for, the queue shows whoever opens it entries they may know of. -/
def QueueInScope (church : Church) (created : CreationTimes) (visit : Visit) (shown : QueueShow)
    (mine : Bool) : Prop :=
  ∀ acting asked page, church.directory.administrator visit.user = some acting →
    queue church created visit ⟨shown, mine, asked⟩ = .ok page →
      ∀ listed ∈ page.items, MayKnow church acting listed

theorem queue_eq_ok_iff {church : Church} {created : CreationTimes} {visit : Visit}
    {query : QueueQuery} {page : QueuePage} :
    queue church created visit query = .ok page ↔
      ∃ acting, church.requires visit .viewVolunteers = .ok acting ∧
        page = {
          items := pageItems (query.selected church created visit.now acting.pk) query.page
          total := (query.selected church created visit.now acting.pk).length
          shown := query.shown
          mine := query.mine
          pendingCount := (pendingItems church created).length
          staleCount := (staleItems church created visit.now).length
          staleDays := reviewStaleDays
          canReview := church.directory.administration.isUnscoped acting.account } := by
  unfold queue
  rw [bind_eq_ok_iff]
  simp only [pure_eq_ok_iff, eq_comm (a := page)]

/-- The queue respects scope exactly when it is narrowed to one's own entries, or the church has no
entry of the kind shown that whoever opens it should not know of. -/
theorem queue_in_scope_iff (church : Church) (created : CreationTimes) (visit : Visit)
    (shown : QueueShow) (mine : Bool) :
    QueueInScope church created visit shown mine ↔
      mine = true ∨ ∀ acting, church.requires visit .viewVolunteers = .ok acting →
        ∀ listed ∈ reviewItems church created, listed.isOf visit.now shown = true →
          MayKnow church acting listed := by
  constructor
  · intro inScope
    cases mine with
    | true => exact .inl rfl
    | false =>
        refine .inr fun acting allowed listed there ofKind => ?_
        have chosen : listed ∈ QueueQuery.selected ⟨shown, false, none⟩ church created visit.now
            acting.pk := mem_selected_iff.mpr ⟨⟨there, ofKind⟩, nofun⟩
        obtain ⟨asked, onPage⟩ := mem_iff_onPage.mp chosen
        obtain ⟨signedIn, _⟩ := church.requires_eq_ok_iff.mp allowed
        exact inScope acting asked _ signedIn (queue_eq_ok_iff.mpr ⟨acting, allowed, rfl⟩) listed
          onPage
  · rintro condition acting asked page signedIn opened listed onPage
    obtain ⟨acting', allowed, rfl⟩ := queue_eq_ok_iff.mp opened
    obtain ⟨signedIn', _⟩ := church.requires_eq_ok_iff.mp allowed
    obtain rfl := Option.some.inj (signedIn.symm.trans signedIn')
    obtain ⟨⟨there, ofKind⟩, own⟩ := mem_selected_iff.mp (mem_iff_onPage.mpr ⟨asked, onPage⟩)
    rcases condition with narrowed | every
    · exact .inr (own narrowed)
    · exact every acting allowed listed there ofKind

namespace Sample

/-- A church where somebody joined the nursery, and their orientation was recorded complete by the
coordinator of its department. -/
def recordedChurch : Church :=
  Machine.run requestStep
    (VolunteerScreening.Sample.church VolunteerScreening.Sample.orientationOnly [])
    [(VolunteerScreening.Sample.visit 0, .organisation (.volunteerCreate
        ⟨"Finn", "Reed", "", none, none, false⟩ (some 1))),
      (VolunteerScreening.Sample.visit 2, .screening 0
        (.instanceComplete 1 (VolunteerScreening.Sample.january 9) ""))]

end Sample

/-- The helper of another department opens the queue, and sees the coordinator's entry. -/
theorem queue_shows_other_department :
    let created : CreationTimes := fun _ _ => 0
    let visit := VolunteerScreening.Sample.visit 3
    (queue Sample.recordedChurch created visit ⟨.pending, false, none⟩).toOption.map
        (fun page => page.items.map fun listed =>
          (listed.file.volunteer.displayName, listed.item.recordedByUserId,
            (Sample.recordedChurch.directory.administrator 3).map fun acting =>
              (acting.level.isScoped,
                volunteerInScope Sample.recordedChurch.settings acting.account listed.file))) =
      some [("Finn Reed", some 2, some (true, false))] := by
  decide +kernel

end VolunteerScreening.Review
