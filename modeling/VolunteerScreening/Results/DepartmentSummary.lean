import VolunteerScreening.Library.Distinct
import VolunteerScreening.Results.ReportScope

/-!
# The grouped department summary is the plain one

One pass over a join that repeats an instance for every role its volunteer
serves in gives, for each department, what counting that department's own
instances gives.
-/

namespace VolunteerScreening.Reporting

open Calendar Org Requirements

/-- The summary that asks for each department's instances in turn, as a reader may see them. -/
def plainDepartmentSummary (church : Church) (today : Date) (user reader : Option Core.User) :
    List DepartmentSummary :=
  (scopeDepartments church user).map fun department =>
    let instancesHere := instanceQueryset church reader ⟨some department.pk, none, none⟩
    let counts := bucketCounts today instancesHere
    { department := department
      volunteers := volunteerCount church department.pk
      requirements := instancesHere.length
      counts := counts
      needsAction := counts.overdue + counts.outstanding }

namespace DashboardEntry

def key (entry : DashboardEntry) : Nat × Pk := (entry.volunteerPk, entry.definition.pk)

end DashboardEntry

section Rows

variable {church : Church} {departments : List Pk}

theorem mem_instancesOf {catalogue : Catalogue} {listed : Listed} {entry : DashboardEntry} :
    entry ∈ instancesOf catalogue none listed ↔
      entry.volunteerPk = listed.2 ∧ entry.volunteer = listed.1.volunteer ∧
        entry.definition ∈ catalogue.active ∧
        listed.1.requirementInstances entry.definition.pk = some entry.row := by
  unfold instancesOf
  simp only [List.mem_filterMap, List.mem_filter, Option.map_eq_some_iff, Catalogue.mem_active]
  constructor
  · rintro ⟨definition, ⟨there, active⟩, row, present, rfl⟩
    exact ⟨rfl, rfl, ⟨there, by simpa [inForce] using active⟩, present⟩
  · obtain ⟨volunteerPk, volunteer, definition, row⟩ := entry
    rintro ⟨rfl, rfl, ⟨there, active⟩, present⟩
    exact ⟨definition, ⟨there, by simpa [inForce] using active⟩, row, present, rfl⟩

theorem eq_of_key_eq {first second : Listed} {entry entry' : DashboardEntry}
    (firstListed : first ∈ church.files.zipIdx) (secondListed : second ∈ church.files.zipIdx)
    (fromFirst : entry ∈ instancesOf church.catalogue none first)
    (fromSecond : entry' ∈ instancesOf church.catalogue none second)
    (same : entry.key = entry'.key) : entry = entry' := by
  obtain ⟨pk, volunteer, inForce, present⟩ := mem_instancesOf.mp fromFirst
  obtain ⟨pk', volunteer', inForce', present'⟩ := mem_instancesOf.mp fromSecond
  obtain ⟨samePk, sameDefinition⟩ := Prod.mk.inj same
  have sameListed : first = second := by
    have here := List.mem_zipIdx_iff_getElem?.mp firstListed
    have there := List.mem_zipIdx_iff_getElem?.mp secondListed
    rw [← pk, samePk, pk', there] at here
    exact Prod.ext (Option.some.inj here).symm (by rw [← pk, samePk, pk'])
  subst sameListed
  have definitions : entry.definition = entry'.definition :=
    church.catalogue.eq_of_pk_eq (church.catalogue.mem_active.mp inForce).1
      (church.catalogue.mem_active.mp inForce').1 sameDefinition
  rw [definitions, present'] at present
  obtain ⟨_, _, _, _⟩ := entry
  obtain ⟨_, _, _, _⟩ := entry'
  simp_all

theorem instancesOf_nodup (catalogue : Catalogue) (listed : Listed) :
    ((instancesOf catalogue none listed).map DashboardEntry.key).Nodup := by
  have keys := (catalogue.definitions.filter_sublist (p := inForce none)).map (·.pk)
  refine List.pairwise_map.mpr (List.pairwise_filterMap.mpr
    ((List.pairwise_map.mp (keys.nodup catalogue.uniquePk)).imp ?_))
  intro first second apart entry made entry' made' same
  obtain ⟨_, _, rfl⟩ := Option.map_eq_some_iff.mp made
  obtain ⟨_, _, rfl⟩ := Option.map_eq_some_iff.mp made'
  exact apart (congrArg Prod.snd same)

def servesIn (church : Church) (department : Pk) (listed : Listed) : Bool :=
  listed.1.volunteer.isActive &&
    (listed.1.activeRoles church.settings).any (·.department == department)

theorem mem_servedInstances {department : Pk} (chosen : department ∈ departments)
    {entry : DashboardEntry} :
    (⟨department, entry⟩ : ServedInstance) ∈ servedInstances church departments ↔
      ∃ listed ∈ church.files.zipIdx, servesIn church department listed = true ∧
        entry ∈ instancesOf church.catalogue none listed := by
  unfold servedInstances servesIn
  simp only [List.mem_flatMap, Bool.and_eq_true, activeRoles_any_iff]
  constructor
  · rintro ⟨listed, there, joined⟩
    split at joined
    · next active =>
        simp only [List.mem_flatMap, List.mem_filter, List.mem_map, Bool.and_eq_true] at joined
        obtain ⟨assignment, ⟨held, current⟩, role, ⟨inTable, isHeld, _⟩, entry', found, same⟩ :=
          joined
        cases same
        refine ⟨listed, there, ⟨active, assignment, held, current, role, ?_, by simp⟩, found⟩
        exact List.mem_filter.mpr ⟨inTable, isHeld⟩
    · cases joined
  · rintro ⟨listed, there, ⟨active, assignment, held, current, role, found, inside⟩, entered⟩
    obtain ⟨inTable, isHeld⟩ := List.mem_filter.mp found
    refine ⟨listed, there, ?_⟩
    rw [if_pos active]
    simp only [List.mem_flatMap, List.mem_filter, List.mem_map, Bool.and_eq_true]
    refine ⟨assignment, ⟨held, current⟩, role, ⟨inTable, isHeld, ?_⟩, entry, entered, ?_⟩
    · rw [eq_of_beq inside]
      exact List.contains_iff_mem.mpr chosen
    · rw [eq_of_beq inside]

theorem servedDepartment_mem {served : ServedInstance}
    (joined : served ∈ servedInstances church departments) :
    served.servedDepartment ∈ departments := by
  unfold servedInstances at joined
  obtain ⟨listed, _, joined⟩ := List.mem_flatMap.mp joined
  split at joined
  · simp only [List.mem_flatMap, List.mem_filter, List.mem_map, Bool.and_eq_true] at joined
    obtain ⟨_, _, role, ⟨_, _, chosen⟩, _, _, rfl⟩ := joined
    exact List.contains_iff_mem.mp chosen
  · cases joined

theorem servedInstances_determined :
    ∀ first ∈ servedInstances church departments, ∀ second ∈ servedInstances church departments,
      first.key = second.key → first = second := by
  rintro ⟨department, entry⟩ joined ⟨department', entry'⟩ joined' same
  obtain ⟨rfl, sameEntry⟩ := Prod.mk.inj same
  obtain ⟨listed, there, _, found⟩ :=
    (mem_servedInstances (servedDepartment_mem joined)).mp joined
  obtain ⟨listed', there', _, found'⟩ :=
    (mem_servedInstances (servedDepartment_mem joined')).mp joined'
  rw [eq_of_key_eq there there' found found' sameEntry]

end Rows

section Lines

variable {church : Church} {departments : List Pk} {department : Pk}

def groupedUnder (church : Church) (departments : List Pk) (department : Pk) :
    List DashboardEntry :=
  ((keepFirst (servedInstances church departments)).filter
    (·.servedDepartment == department)).map (·.entry)

theorem mem_groupedUnder (chosen : department ∈ departments) {entry : DashboardEntry} :
    entry ∈ groupedUnder church departments department ↔
      ∃ listed ∈ church.files.zipIdx, servesIn church department listed = true ∧
        entry ∈ instancesOf church.catalogue none listed := by
  rw [← mem_servedInstances chosen, ← Distinct.mem_keepFirst _ servedInstances_determined]
  unfold groupedUnder keepFirst
  rw [List.mem_map]
  constructor
  · rintro ⟨⟨servedDepartment, entry⟩, kept, rfl⟩
    obtain ⟨kept, here⟩ := List.mem_filter.mp kept
    rw [← eq_of_beq here]
    exact kept
  · intro kept
    exact ⟨_, List.mem_filter.mpr ⟨kept, by simp⟩, rfl⟩

/-- Under one department an instance is grouped once, however many roles repeat it. -/
theorem groupedUnder_nodup : (groupedUnder church departments department).Nodup := by
  have keys := Distinct.keepFirst_nodup ServedInstance.key (servedInstances church departments)
  unfold groupedUnder
  refine List.pairwise_map.mpr ?_
  refine ((List.pairwise_map.mp keys).filter _).imp_of_mem ?_
  intro first second here there apart same
  have department := eq_of_beq (List.mem_filter.mp here).2
  have department' := eq_of_beq (List.mem_filter.mp there).2
  refine apart ?_
  unfold ServedInstance.key
  rw [department, department', same]

theorem seesVolunteer_of_servesIn {reader : Option Core.User}
    (sees : seesDepartment church.settings reader department = true) {listed : Listed}
    (serves : servesIn church department listed = true) :
    seesVolunteer church.settings reader listed.1 = true := by
  cases reader with
  | none => rfl
  | some user =>
      obtain ⟨_, serves⟩ := Bool.and_eq_true_iff.mp serves
      obtain ⟨assignment, held, _, role, found, inside⟩ := activeRoles_any_iff.mp serves
      obtain ⟨inTable, isHeld⟩ := List.mem_filter.mp found
      have administered : departmentInScope church.settings user department = true := sees
      show volunteerInScope church.settings user listed.1 = true
      unfold volunteerInScope
      rw [Bool.or_eq_true]
      refine .inr (List.any_eq_true.mpr ⟨assignment, held, ?_⟩)
      refine List.any_eq_true.mpr ⟨role, inTable, ?_⟩
      rw [isHeld, eq_of_beq inside, administered]
      rfl

theorem mem_instanceQueryset {reader : Option Core.User}
    (sees : seesDepartment church.settings reader department = true) {entry : DashboardEntry} :
    entry ∈ instanceQueryset church reader ⟨some department, none, none⟩ ↔
      ∃ listed ∈ church.files.zipIdx, servesIn church department listed = true ∧
        entry ∈ instancesOf church.catalogue none listed := by
  unfold instanceQueryset scopeVolunteers
  simp only [List.mem_insertionSort, List.mem_flatMap, List.mem_filter]
  constructor
  · rintro ⟨listed, ⟨⟨there, _⟩, serves⟩, found⟩
    exact ⟨listed, there, serves, found⟩
  · rintro ⟨listed, there, serves, found⟩
    exact ⟨listed, ⟨⟨there, seesVolunteer_of_servesIn sees serves⟩, serves⟩, found⟩

theorem instanceQueryset_nodup {reader : Option Core.User} :
    (instanceQueryset church reader ⟨some department, none, none⟩).Nodup := by
  unfold instanceQueryset scopeVolunteers
  refine (List.perm_insertionSort _ _).nodup_iff.mpr ?_
  refine List.Nodup.of_map DashboardEntry.key (List.pairwise_map.mpr ?_)
  rw [List.pairwise_flatMap]
  refine ⟨fun listed _ => List.pairwise_map.mp (instancesOf_nodup church.catalogue listed), ?_⟩
  have keys : (church.files.zipIdx.map Prod.snd).Nodup := by
    rw [List.zipIdx_map_snd]
    exact List.nodup_range'
  refine (((List.pairwise_map.mp keys).filter _).filter _).imp ?_
  intro first second apart entry fromFirst entry' fromSecond same
  refine apart ?_
  rw [← (mem_instancesOf.mp fromFirst).1, ← (mem_instancesOf.mp fromSecond).1]
  exact congrArg Prod.fst same

theorem groupedUnder_perm {reader : Option Core.User} (chosen : department ∈ departments)
    (sees : seesDepartment church.settings reader department = true) :
    (groupedUnder church departments department).Perm
      (instanceQueryset church reader ⟨some department, none, none⟩) := by
  rw [List.perm_ext_iff_of_nodup groupedUnder_nodup instanceQueryset_nodup]
  intro entry
  rw [mem_groupedUnder chosen, mem_instanceQueryset sees]

theorem bucketCounts_perm {first second : List DashboardEntry} (same : first.Perm second)
    (today : Date) : bucketCounts today first = bucketCounts today second := by
  unfold bucketCounts
  simp only [same.countP_eq]

end Lines

/-- The grouped summary is the plain one, whether each department's instances are read as the
reader sees them or without access control. -/
theorem department_summary_plain (church : Church) (today : Date) (user : Option Core.User) :
    buildDepartmentSummary church today user = plainDepartmentSummary church today user user ∧
      buildDepartmentSummary church today user = plainDepartmentSummary church today user none := by
  have lines : ∀ reader, (∀ department ∈ scopeDepartments church user,
        seesDepartment church.settings reader department.pk = true) →
      buildDepartmentSummary church today user =
        plainDepartmentSummary church today user reader := by
    intro reader sees
    refine List.map_congr_left fun department shown => ?_
    have same := groupedUnder_perm (List.mem_map_of_mem shown) (sees department shown)
    have counted := bucketCounts_perm same today
    have total := same.length_eq
    unfold groupedUnder at counted total
    dsimp only
    rw [counted, total]
  refine ⟨lines user ?_, lines none fun _ _ => rfl⟩
  intro department shown
  exact (Bool.and_eq_true_iff.mp (List.mem_filter.mp shown).2).2

end VolunteerScreening.Reporting
