import VolunteerScreening.Reporting.Dashboard
import VolunteerScreening.Results.GrowingScope

/-!
# What the reports say of the rest of the church

Two churches that a scoped administrator cannot tell apart give them the same
dashboard and the same department summary.  The compliance report also lists every
role a volunteer serves in, and a filter may name any department: these agree
once the roles those volunteers serve in do.
-/

namespace VolunteerScreening

open Calendar Org Requirements Review Reporting

/-! ## Lists that differ out of sight -/

theorem filter_zipIdx_congr {Row : Type} {seen seen' : Row → Bool} {rows rows' : List Row}
    (same : ∀ position : Nat, (rows[position]?).filter seen = (rows'[position]?).filter seen')
    (start : Nat) :
    (rows.zipIdx start).filter (fun listed => seen listed.1) =
      (rows'.zipIdx start).filter fun listed => seen' listed.1 := by
  induction rows generalizing rows' start with
  | nil =>
      symm
      rw [List.zipIdx_nil, List.filter_nil, List.filter_eq_nil_iff]
      rintro ⟨row, position⟩ placed visible
      obtain ⟨_, found⟩ := List.mk_mem_zipIdx_iff_le_and_getElem?_sub.mp placed
      have hidden := same (position - start)
      rw [found, Option.filter_some, if_pos visible] at hidden
      cases hidden
  | cons row rows inductionHypothesis =>
      cases rows' with
      | nil =>
          rw [List.zipIdx_nil, List.filter_nil, List.filter_eq_nil_iff]
          rintro ⟨other, position⟩ placed visible
          obtain ⟨_, found⟩ := List.mk_mem_zipIdx_iff_le_and_getElem?_sub.mp placed
          have hidden := same (position - start)
          rw [found, Option.filter_some, if_pos visible] at hidden
          cases hidden
      | cons row' rows' =>
          have later := inductionHypothesis (fun position => same (position + 1)) (start + 1)
          have now := same 0
          simp only [List.getElem?_cons_zero, Option.filter_some] at now
          rw [List.zipIdx_cons, List.zipIdx_cons, List.filter_cons, List.filter_cons, later]
          cases shown : seen row <;> cases shown' : seen' row' <;> simp_all

theorem flatMap_eq_filter_flatMap {Row Item : Type} {rows : List Row} {seen : Row → Bool}
    {items : Row → List Item} (hidden : ∀ row ∈ rows, seen row = false → items row = []) :
    rows.flatMap items = (rows.filter seen).flatMap items := by
  induction rows with
  | nil => rfl
  | cons row rows inductionHypothesis =>
      have later := inductionHypothesis fun other listed =>
        hidden other (List.mem_cons_of_mem row listed)
      cases shown : seen row with
      | false => simp [shown, hidden row List.mem_cons_self shown, later]
      | true => simp [shown, later]

/-! ## Churches that look alike -/

/-- The volunteers who have ever served in the departments. -/
def inSight (church : Church) (departments : List Pk) : List Listed :=
  church.files.zipIdx.filter fun listed => everIn church.roles departments listed.1

/-- Two churches that agree on an administrator's grant, on the definitions, on their departments
and the roles there, and on everything about the volunteers who have ever served there. -/
structure AgreeWithin (viewer : Core.User) (departments : List Pk) (first second : Church)
    (created created' : CreationTimes) : Prop where
  limited : ScopedTo viewer departments first
  limited' : ScopedTo viewer departments second
  catalogue : first.catalogue = second.catalogue
  departmentRows : (first.departments.filter fun row => departments.contains row.pk) =
    second.departments.filter fun row => departments.contains row.pk
  roleRows : (first.roles.filter fun role => departments.contains role.department) =
    second.roles.filter fun role => departments.contains role.department
  volunteers : ∀ volunteer : Nat,
    (first.files[volunteer]?).filter (everIn first.roles departments) =
      (second.files[volunteer]?).filter (everIn second.roles departments)
  reviewItems : ∀ listed ∈ inSight first departments, created listed.2 = created' listed.2

/-- Two churches that also agree on the roles these volunteers serve in now, and on the departments
of those. -/
def SameService (departments : List Pk) (first second : Church) : Prop :=
  ∀ listed ∈ inSight first departments, ∀ assignment ∈ listed.1.assignments,
    assignment.isActive = true →
      (first.roles.filter (·.pk == assignment.role)) =
          second.roles.filter (·.pk == assignment.role) ∧
        ∀ role ∈ first.roles, role.pk = assignment.role →
          first.departments.find? (·.pk == role.department) =
            second.departments.find? (·.pk == role.department)

section Scope

variable {viewer : Core.User} {departments : List Pk} {church : Church}

theorem seesVolunteer_of_scopedTo (limited : ScopedTo viewer departments church)
    (file : VolunteerFile) :
    seesVolunteer church.settings (some viewer) file = everIn church.roles departments file :=
  volunteerInScope_of_scopedTo limited file

theorem seesDepartment_of_scopedTo (limited : ScopedTo viewer departments church)
    (department : Pk) :
    seesDepartment church.settings (some viewer) department = departments.contains department := by
  have scope : church.settings.administration.scopeDepartmentIds (some viewer) =
      some departments := limited
  simp only [seesDepartment, departmentInScope, scope]

theorem scopeVolunteers_of_scopedTo (limited : ScopedTo viewer departments church) :
    scopeVolunteers church (some viewer) = inSight church departments := by
  unfold scopeVolunteers inSight
  simp only [seesVolunteer_of_scopedTo limited]

theorem scopeDepartments_of_scopedTo (limited : ScopedTo viewer departments church) :
    scopeDepartments church (some viewer) =
      (church.departments.filter fun row => departments.contains row.pk).filter (·.isActive) := by
  unfold scopeDepartments
  simp only [seesDepartment_of_scopedTo limited, List.filter_filter]

theorem scopeRoles_of_scopedTo (limited : ScopedTo viewer departments church) :
    scopeRoles church (some viewer) =
      (church.roles.filter fun role => departments.contains role.department).filter
        (·.isActive) := by
  unfold scopeRoles
  simp only [seesDepartment_of_scopedTo limited, List.filter_filter]

theorem everIn_of_activeRoles {department : Pk} (inside : department ∈ departments)
    {file : VolunteerFile}
    (serves : (file.activeRoles church.settings).any (·.department == department) = true) :
    everIn church.roles departments file = true := by
  obtain ⟨role, current, same⟩ := List.any_eq_true.mp serves
  obtain ⟨listed, held⟩ := List.mem_filter.mp current
  obtain ⟨assignment, there, current⟩ := List.any_eq_true.mp held
  obtain ⟨_, held⟩ := Bool.and_eq_true_iff.mp current
  refine everIn_iff.mpr ⟨role, listed, ?_, ?_⟩
  · exact List.mem_map.mpr ⟨assignment, there, eq_of_beq held⟩
  · rw [eq_of_beq same]
    exact inside

theorem volunteerCount_eq_inSight {department : Pk} (inside : department ∈ departments) :
    volunteerCount church department =
      (inSight church departments).countP fun listed => listed.1.volunteer.isActive &&
        (listed.1.activeRoles church.settings).any (·.department == department) := by
  unfold volunteerCount inSight
  rw [List.countP_filter]
  refine List.countP_congr fun listed _ => ?_
  simp only [Bool.and_eq_true]
  exact ⟨fun serves => ⟨serves, everIn_of_activeRoles inside serves.2⟩, And.left⟩

theorem servedInstances_eq_inSight {chosen : List Pk} (inside : chosen ⊆ departments) :
    servedInstances church chosen = (inSight church departments).flatMap fun listed =>
      if listed.1.volunteer.isActive then
        (listed.1.assignments.filter (·.isActive)).flatMap fun assignment =>
          (church.roles.filter fun role =>
              role.pk == assignment.role && chosen.contains role.department).flatMap fun role =>
            (instancesOf church.catalogue none listed).map fun entry => ⟨role.department, entry⟩
      else [] := by
  refine flatMap_eq_filter_flatMap fun listed _ hidden => ?_
  split
  · refine List.flatMap_eq_nil_iff.mpr fun assignment there => ?_
    obtain ⟨there, _⟩ := List.mem_filter.mp there
    rw [List.flatMap_eq_nil_iff]
    intro role served
    obtain ⟨inTable, held⟩ := List.mem_filter.mp served
    obtain ⟨held, chosen⟩ := Bool.and_eq_true_iff.mp held
    have seen : everIn church.roles departments listed.1 = true :=
      everIn_iff.mpr ⟨role, inTable, List.mem_map.mpr ⟨assignment, there, (eq_of_beq held).symm⟩,
        inside (List.contains_iff_mem.mp chosen)⟩
    rw [hidden] at seen
    cases seen
  · rfl

end Scope

/-! ## What is read of a file in sight -/

section SameFile

variable {viewer : Core.User} {departments : List Pk} {first second : Church}
  {created created' : CreationTimes}

theorem activeRoles_any_iff {church : Church} {file : VolunteerFile} {fits : Role → Bool} :
    (file.activeRoles church.settings).any fits = true ↔
      ∃ assignment ∈ file.assignments, assignment.isActive = true ∧
        ∃ role ∈ church.roles.filter (·.pk == assignment.role), fits role = true := by
  unfold VolunteerFile.activeRoles
  simp only [List.any_eq_true, List.mem_filter, Bool.and_eq_true, beq_iff_eq]
  constructor
  · rintro ⟨role, ⟨listed, assignment, there, current, held⟩, fit⟩
    exact ⟨assignment, there, current, role, ⟨listed, held.symm⟩, fit⟩
  · rintro ⟨assignment, there, current, role, ⟨listed, held⟩, fit⟩
    exact ⟨role, ⟨listed, assignment, there, current, held.symm⟩, fit⟩

namespace AgreeWithin

variable (agree : AgreeWithin viewer departments first second created created')

include agree

theorem inSight_eq : inSight first departments = inSight second departments :=
  filter_zipIdx_congr agree.volunteers 0

theorem mem_roles_iff {role : Role} (inside : role.department ∈ departments) :
    role ∈ first.roles ↔ role ∈ second.roles := by
  have visible : departments.contains role.department = true := List.contains_iff_mem.mpr inside
  have same : role ∈ (first.roles.filter fun role => departments.contains role.department) ↔
      role ∈ second.roles.filter fun role => departments.contains role.department := by
    rw [agree.roleRows]
  simpa only [List.mem_filter, visible, and_true] using same

theorem serves_eq {department : Pk} (inside : department ∈ departments) (file : VolunteerFile) :
    (file.activeRoles first.settings).any (·.department == department) =
      (file.activeRoles second.settings).any (·.department == department) := by
  rw [Bool.eq_iff_iff, activeRoles_any_iff, activeRoles_any_iff]
  refine exists_congr fun assignment => and_congr_right fun _ => and_congr_right fun _ =>
    exists_congr fun role => ?_
  simp only [List.mem_filter, beq_iff_eq]
  refine and_congr_left fun there => and_congr_left fun _ => ?_
  rw [agree.mem_roles_iff (there ▸ inside)]

theorem rolesAt_eq {chosen : List Pk} (inside : chosen ⊆ departments) (pk : Pk) :
    (first.roles.filter fun role => role.pk == pk && chosen.contains role.department) =
      second.roles.filter fun role => role.pk == pk && chosen.contains role.department := by
  have narrowed : ∀ roles : List Role,
      (roles.filter fun role => role.pk == pk && chosen.contains role.department) =
        (roles.filter fun role => departments.contains role.department).filter fun role =>
          role.pk == pk && chosen.contains role.department := by
    intro roles
    rw [List.filter_filter]
    refine List.filter_congr fun role _ => ?_
    by_cases there : role.department ∈ chosen
    · simp [there, inside there]
    · simp [there]
  rw [narrowed first.roles, narrowed second.roles, agree.roleRows]

/-! ## The dashboard -/

theorem scopeVolunteers_eq :
    scopeVolunteers first (some viewer) = scopeVolunteers second (some viewer) := by
  rw [scopeVolunteers_of_scopedTo agree.limited, scopeVolunteers_of_scopedTo agree.limited',
    agree.inSight_eq]

theorem scopeDepartments_eq :
    scopeDepartments first (some viewer) = scopeDepartments second (some viewer) := by
  rw [scopeDepartments_of_scopedTo agree.limited, scopeDepartments_of_scopedTo agree.limited',
    agree.departmentRows]

theorem scopeRoles_eq : scopeRoles first (some viewer) = scopeRoles second (some viewer) := by
  rw [scopeRoles_of_scopedTo agree.limited, scopeRoles_of_scopedTo agree.limited', agree.roleRows]

theorem dashboardHeadline_eq (today : Date) (asOf : Option Date) :
    dashboardHeadline first today asOf (some viewer) =
      dashboardHeadline second today asOf (some viewer) := by
  unfold dashboardHeadline
  rw [agree.scopeVolunteers_eq, agree.scopeDepartments_eq, agree.scopeRoles_eq]

theorem buildBuckets_eq {filters : DashboardFilters}
    (same : ∀ listed ∈ inSight first departments,
      filters.selects first.settings listed.1 = filters.selects second.settings listed.1)
    (today : Date) (asOf : Option Date) :
    buildBuckets first today asOf (some viewer) filters =
      buildBuckets second today asOf (some viewer) filters := by
  have queried : instanceQueryset first (some viewer) filters =
      instanceQueryset second (some viewer) filters := by
    unfold instanceQueryset
    rw [← agree.scopeVolunteers_eq, ← agree.catalogue]
    dsimp only
    congr 2
    refine List.filter_congr fun listed visible => ?_
    rw [scopeVolunteers_of_scopedTo agree.limited] at visible
    rw [same listed visible]
  unfold buildBuckets
  rw [queried]

/-! ## The department summary -/

theorem volunteerCount_eq {department : Pk} (inside : department ∈ departments) :
    volunteerCount first department = volunteerCount second department := by
  rw [volunteerCount_eq_inSight inside, volunteerCount_eq_inSight inside, ← agree.inSight_eq]
  simp only [agree.serves_eq inside]

theorem servedInstances_eq {chosen : List Pk} (inside : chosen ⊆ departments) :
    servedInstances first chosen = servedInstances second chosen := by
  rw [servedInstances_eq_inSight inside, servedInstances_eq_inSight inside,
    agree.inSight_eq, agree.catalogue]
  simp only [agree.rolesAt_eq inside]

theorem buildDepartmentSummary_eq (today : Date) :
    buildDepartmentSummary first today (some viewer) =
      buildDepartmentSummary second today (some viewer) := by
  have inside : (scopeDepartments first (some viewer)).map (·.pk) ⊆ departments := by
    intro pk there
    obtain ⟨department, shown, rfl⟩ := List.mem_map.mp there
    rw [scopeDepartments_of_scopedTo agree.limited] at shown
    have granted := (List.mem_filter.mp (List.mem_of_mem_filter shown)).2
    exact List.contains_iff_mem.mp granted
  unfold buildDepartmentSummary
  dsimp only
  rw [← agree.scopeDepartments_eq, agree.servedInstances_eq inside]
  refine List.map_congr_left fun department shown => ?_
  rw [agree.volunteerCount_eq (inside (List.mem_map_of_mem shown))]

end AgreeWithin

end SameFile

/-! ## The compliance report -/

section Compliance

variable {viewer : Core.User} {departments : List Pk} {query : ReportQuery}

theorem filter_shows {church : Church} (limited : ScopedTo viewer departments church)
    (reader : query.user = some viewer) :
    (church.files.zipIdx.filter fun listed => query.shows church.settings listed.1) =
      (inSight church departments).filter fun listed =>
        query.matchesFilter church.settings listed.1 := by
  unfold inSight
  rw [List.filter_filter]
  refine List.filter_congr fun listed _ => ?_
  unfold ReportQuery.shows ReportQuery.inScope
  rw [reader]
  dsimp only
  rw [volunteerInScope_of_scopedTo limited, Bool.and_comm]

theorem shown_eq_inSight {church : Church} (limited : ScopedTo viewer departments church)
    (reader : query.user = some viewer) :
    query.shown church.settings church.files =
      (((inSight church departments).filter fun listed =>
        query.matchesFilter church.settings listed.1).map (·.1)).insertionSort
          ReportQuery.nameBefore := by
  unfold ReportQuery.shown
  congr 1
  rw [← filter_shows limited reader]
  conv_lhs => rw [← List.zipIdx_map_fst 0 church.files, List.filter_map]
  rfl

namespace SameService

variable {first second : Church} {created created' : CreationTimes}
  (service : SameService departments first second)

include service

theorem activeRoles_any_eq {listed : Listed} (visible : listed ∈ inSight first departments)
    (fits : Role → Bool) :
    (listed.1.activeRoles first.settings).any fits =
      (listed.1.activeRoles second.settings).any fits := by
  rw [Bool.eq_iff_iff, activeRoles_any_iff, activeRoles_any_iff]
  refine exists_congr fun assignment => and_congr_right fun there => and_congr_right fun current =>
    ?_
  rw [(service listed visible assignment there current).1]

theorem matchesFilter_eq {listed : Listed} (visible : listed ∈ inSight first departments) :
    query.matchesFilter first.settings listed.1 = query.matchesFilter second.settings listed.1 := by
  unfold ReportQuery.matchesFilter
  cases query.department with
  | none => rfl
  | some department =>
      dsimp only
      rw [service.activeRoles_any_eq visible]

theorem selects_eq {listed : Listed} (visible : listed ∈ inSight first departments)
    (filters : DashboardFilters) :
    filters.selects first.settings listed.1 = filters.selects second.settings listed.1 := by
  unfold DashboardFilters.selects
  cases filters.role with
  | some role => rfl
  | none =>
      cases filters.department with
      | none => rfl
      | some department => exact service.activeRoles_any_eq visible _

theorem servedRoles_eq {listed : Listed} (visible : listed ∈ inSight first departments) :
    ReportQuery.servedRoles first.settings listed.1 =
      ReportQuery.servedRoles second.settings listed.1 := by
  unfold ReportQuery.servedRoles
  refine List.filterMap_congr fun assignment there => ?_
  obtain ⟨there, current⟩ := List.mem_filter.mp ((List.mem_insertionSort _).mp there)
  rw [← List.head?_filter, ← List.head?_filter]
  exact congrArg List.head? (service listed visible assignment there current).1

theorem servedDepartments_eq {listed : Listed} (visible : listed ∈ inSight first departments) :
    ((ReportQuery.servedRoles first.settings listed.1).map fun role =>
        first.departments.find? (·.pk == role.department)) =
      (ReportQuery.servedRoles second.settings listed.1).map fun role =>
        second.departments.find? (·.pk == role.department) := by
  rw [← service.servedRoles_eq visible]
  refine List.map_congr_left fun role served => ?_
  obtain ⟨assignment, there, found⟩ := List.mem_filterMap.mp served
  obtain ⟨there, current⟩ := List.mem_filter.mp ((List.mem_insertionSort _).mp there)
  refine (service listed visible assignment there current).2 role (List.mem_of_find?_eq_some found)
    ?_
  simpa using List.find?_some found

variable (agree : AgreeWithin viewer departments first second created created')
  (reader : query.user = some viewer)

include agree reader

theorem filter_shows_eq :
    (first.files.zipIdx.filter fun listed => query.shows first.settings listed.1) =
      second.files.zipIdx.filter fun listed => query.shows second.settings listed.1 := by
  rw [filter_shows agree.limited reader, filter_shows agree.limited' reader, ← agree.inSight_eq]
  exact List.filter_congr fun listed visible => service.matchesFilter_eq visible

theorem shown_eq :
    query.shown first.settings first.files = query.shown second.settings second.files := by
  rw [shown_eq_inSight agree.limited reader, shown_eq_inSight agree.limited' reader,
    ← agree.inSight_eq]
  congr 2
  exact List.filter_congr fun listed visible => service.matchesFilter_eq visible

theorem row_eq {file : VolunteerFile} (shown : file ∈ query.shown first.settings first.files) :
    query.row first.settings file = query.row second.settings file ∧
      ((query.row first.settings file).roles.map fun role =>
          first.departments.find? (·.pk == role.department)) =
        (query.row second.settings file).roles.map fun role =>
          second.departments.find? (·.pk == role.department) := by
  rw [shown_eq_inSight agree.limited reader] at shown
  obtain ⟨listed, selected, rfl⟩ := List.mem_map.mp ((List.mem_insertionSort _).mp shown)
  have visible := List.mem_of_mem_filter selected
  refine ⟨?_, service.servedDepartments_eq visible⟩
  unfold ReportQuery.row ReportQuery.instances
  rw [service.servedRoles_eq visible]
  simp only [Church.settings, agree.catalogue]

theorem buildComplianceReport_eq (today : Date) :
    buildComplianceReport first.settings today query first.files =
      buildComplianceReport second.settings today query second.files := by
  have rows : (query.shown second.settings second.files).map (query.row first.settings) =
      (query.shown second.settings second.files).map (query.row second.settings) := by
    rw [← service.shown_eq agree reader]
    exact List.map_congr_left fun file shown => (service.row_eq agree reader shown).1
  unfold buildComplianceReport
  dsimp only
  rw [service.shown_eq agree reader, rows]

theorem fullComplianceReport_eq (today : Date) (now : Nat) :
    fullComplianceReport first created today now query =
      fullComplianceReport second created' today now query := by
  have listedDepartments :
      (buildComplianceReport first.settings today query first.files).rows.map (fun row =>
          row.roles.map fun role => first.departments.find? (·.pk == role.department)) =
        (buildComplianceReport second.settings today query second.files).rows.map fun row =>
          row.roles.map fun role => second.departments.find? (·.pk == role.department) := by
    unfold buildComplianceReport
    dsimp only
    rw [List.map_map, List.map_map, ← service.shown_eq agree reader]
    exact List.map_congr_left fun file shown => (service.row_eq agree reader shown).2
  have waiting : unverifiedCreated query first created = unverifiedCreated query second created' :=
      by
    unfold unverifiedCreated
    rw [← service.filter_shows_eq agree reader, filter_shows agree.limited reader]
    refine List.flatMap_congr fun listed selected => ?_
    rw [agree.reviewItems listed (List.mem_of_mem_filter selected)]
  unfold fullComplianceReport
  rw [service.buildComplianceReport_eq agree reader, waiting]
  rw [service.buildComplianceReport_eq agree reader] at listedDepartments
  rw [listedDepartments]

end SameService

end Compliance

/-! ## The four reports together -/

/-- On churches that look alike within the scope, the summary, the tiles and the columns with no
filter outside it are the same; and everything is, once the roles served in are. -/
theorem reports_agree {viewer : Core.User} {departments : List Pk} {first second : Church}
    {created created' : CreationTimes}
    (agree : AgreeWithin viewer departments first second created created') (today : Date)
    (asOf : Option Date) (now : Nat) :
    buildDepartmentSummary first today (some viewer) =
        buildDepartmentSummary second today (some viewer) ∧
      dashboardHeadline first today asOf (some viewer) =
        dashboardHeadline second today asOf (some viewer) ∧
      (∀ filters : DashboardFilters, (∀ department ∈ filters.department, department ∈ departments) →
        buildBuckets first today asOf (some viewer) filters =
          buildBuckets second today asOf (some viewer) filters) ∧
      (SameService departments first second →
        (∀ filters : DashboardFilters, buildBuckets first today asOf (some viewer) filters =
          buildBuckets second today asOf (some viewer) filters) ∧
        ∀ query : ReportQuery, query.user = some viewer →
          fullComplianceReport first created today now query =
            fullComplianceReport second created' today now query) := by
  refine ⟨agree.buildDepartmentSummary_eq today, agree.dashboardHeadline_eq today asOf, ?_, ?_⟩
  · intro filters inside
    refine agree.buildBuckets_eq (fun listed _ => ?_) today asOf
    unfold DashboardFilters.selects
    cases filters.role with
    | some role => rfl
    | none =>
        cases asked : filters.department with
        | none => rfl
        | some department => exact agree.serves_eq (inside department asked) listed.1
  · intro service
    refine ⟨fun filters => ?_, fun query reader => ?_⟩
    · exact agree.buildBuckets_eq (fun _ visible => service.selects_eq visible filters) today asOf
    · exact service.fullComplianceReport_eq agree reader today now

namespace Sample

/-- The nursery's church with another volunteer, who serves nowhere, and another name for the role
of the other department. -/
def busierChurch : Church :=
  { nurseryChurch with
    roles := [⟨1, 1, "Nursery helper", false, true⟩, ⟨2, 2, "Band leader", false, true⟩]
    files := nurseryChurch.files ++ [VolunteerFile.opened adult] }

/-- A volunteer serves in the nursery, and in a role of the other department. -/
def sharedChurch (otherRole : String) : Church :=
  { nurseryChurch with
    roles := [⟨1, 1, "Nursery helper", false, true⟩, ⟨2, 2, otherRole, false, true⟩]
    files := [{ VolunteerFile.opened adult with
      assignments := [⟨1, january 3, none, true⟩, ⟨2, january 3, none, true⟩] }] }

def coordinatorQuery : ReportQuery := ⟨none, none, false, none, some coordinator⟩

end Sample

theorem reports_agree_busier :
    let created : CreationTimes := fun _ _ => 0
    dashboardHeadline Sample.nurseryChurch (Sample.january 10) none (some Sample.coordinator) =
        dashboardHeadline Sample.busierChurch (Sample.january 10) none (some Sample.coordinator) ∧
      fullComplianceReport Sample.nurseryChurch created (Sample.january 10) 0
          Sample.coordinatorQuery =
        fullComplianceReport Sample.busierChurch created (Sample.january 10) 0
          Sample.coordinatorQuery := by
  intro created
  have agree : AgreeWithin Sample.coordinator [1] Sample.nurseryChurch Sample.busierChurch created
      created := by
    refine ⟨rfl, rfl, rfl, rfl, by decide, ?_, fun _ _ => rfl⟩
    intro volunteer
    cases volunteer with
    | zero => rfl
    | succ later => cases later <;> rfl
  have service : SameService [1] Sample.nurseryChurch Sample.busierChurch := by
    unfold SameService
    decide +kernel
  obtain ⟨_, tiles, _, rest⟩ := reports_agree agree (Sample.january 10) none 0
  exact ⟨tiles, (rest service).2 Sample.coordinatorQuery rfl⟩

/-- Two churches differ only in the name of another department's role, and the coordinator reads
that name in the row of a volunteer they share. -/
theorem report_names_other_role :
    let created : CreationTimes := fun _ _ => 0
    let first := Sample.sharedChurch "Youth leader"
    let second := Sample.sharedChurch "Band leader"
    AgreeWithin Sample.coordinator [1] first second created created ∧
      (fullComplianceReport first created (Sample.january 10) 0
          Sample.coordinatorQuery).rows.map (·.roles.map (·.name)) =
        [["Nursery helper", "Youth leader"]] ∧
      (fullComplianceReport second created (Sample.january 10) 0
          Sample.coordinatorQuery).rows.map (·.roles.map (·.name)) =
        [["Nursery helper", "Band leader"]] := by
  intro created first second
  refine ⟨⟨rfl, rfl, rfl, rfl, by decide, ?_, fun _ _ => rfl⟩, ?_, ?_⟩
  · intro volunteer
    cases volunteer <;> rfl
  · decide +kernel
  · decide +kernel

end VolunteerScreening
