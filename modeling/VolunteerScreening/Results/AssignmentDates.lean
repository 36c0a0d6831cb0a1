import VolunteerScreening.Assignments

/-!
# Assignment dates stay ordered

An assignment is ended on the day a form or the calendar gives, without the
row's own validation.  The dates stay in order as long as none is ended before
the day it starts.
-/

namespace VolunteerScreening

open Calendar Org

/-- An ended assignment has a last day, on or after its first. -/
def Org.RoleAssignment.InOrder (assignment : RoleAssignment) : Prop :=
  assignment.isActive = false →
    ∃ endedOn, assignment.endedOn = some endedOn ∧ assignment.startedOn ≤ endedOn

/-- Every ended assignment of a file is in order. -/
def DatesInOrder (file : VolunteerFile) : Prop :=
  ∀ assignment ∈ file.assignments, assignment.InOrder

/-- The request, if it goes through, ends no active assignment before the day it starts. -/
def EndsInOrder (file : VolunteerFile) (request : Request) : Prop :=
  request.isRefused file = false → ∀ position assignment day,
    file.assignments[position]? = some assignment → assignment.isActive = true →
    request.operation.endsOn request.ambient.today position = some day →
    assignment.startedOn ≤ day

theorem inOrder_started {operation : Operation} {assignment : RoleAssignment}
    (listed : assignment ∈ operation.started) : assignment.InOrder := by
  cases operation with
  | assignmentCreate =>
      obtain rfl := List.mem_singleton.mp listed
      intro inactive
      cases inactive
  | _ => cases listed

theorem inOrder_endedBy_iff {assignment : RoleAssignment} {on : Option Date}
    (inOrder : assignment.InOrder) :
    (assignment.endedBy on).InOrder ↔
      (assignment.isActive = true → ∀ day, on = some day → assignment.startedOn ≤ day) := by
  unfold RoleAssignment.endedBy
  cases on with
  | none => simpa using inOrder
  | some day =>
      cases active : assignment.isActive with
      | false => simpa using inOrder
      | true => simp [RoleAssignment.InOrder, RoleAssignment.finish]

theorem datesInOrder_step_iff {file : VolunteerFile} {request : Request}
    (inOrder : DatesInOrder file) :
    DatesInOrder (step file request) ↔ EndsInOrder file request := by
  obtain ⟨⟨refusal, refused⟩, same⟩ | ⟨work, success, after⟩ := step_cases file request
  · rw [same]
    apply iff_of_true inOrder
    intro accepted
    rw [Request.isRefused_of_error refused] at accepted
    cases accepted
  · have rows : (step file request).assignments =
        ended (request.operation.endsOn request.ambient.today ·) file.assignments ++
          request.operation.started := by
      rw [after, commit_assignments, perform_assignments success]
    unfold DatesInOrder EndsInOrder
    rw [rows, Request.isRefused_of_ok success]
    constructor
    · intro ordered _ position assignment day placed active ends
      have listed : assignment.endedBy (some day) ∈
          ended (request.operation.endsOn request.ambient.today ·) file.assignments := by
        apply List.mem_of_getElem? (i := position)
        rw [ended, List.getElem?_mapIdx, placed, Option.map_some, ends]
      have kept := ordered _ (List.mem_append_left _ listed)
      exact (inOrder_endedBy_iff (inOrder assignment (List.mem_of_getElem? placed))).mp kept
        active day rfl
    · intro endsInOrder assignment listed
      rcases List.mem_append.mp listed with earlier | new
      · obtain ⟨position, placed⟩ := List.mem_iff_getElem?.mp earlier
        rw [ended, List.getElem?_mapIdx, Option.map_eq_some_iff] at placed
        obtain ⟨before, placed, rfl⟩ := placed
        apply (inOrder_endedBy_iff (inOrder before (List.mem_of_getElem? placed))).mpr
        intro active day ends
        exact endsInOrder rfl position before day placed active ends
      · exact inOrder_started new

/-- Over every run of a church, every ended assignment has its last day on or after its first,
exactly when no request of the run ends one before the day it starts. -/
theorem assignment_dates_ordered_iff (files : List VolunteerFile)
    (start : Machine.Each DatesInOrder files) (requests : List (Nat × Request)) :
    Machine.Always churchStep (Machine.Each DatesInOrder) files requests ↔
      Machine.Guarded churchStep (Machine.guardAt EndsInOrder) files requests :=
  Machine.always_each_iff_guarded step EndsInOrder (fun _ => True) DatesInOrder
    (fun _ _ _ _ _ => trivial) (fun _ _ _ inOrder => datesInOrder_step_iff inOrder)
    (fun _ _ _ => trivial) start requests

theorem newChurch_inOrder (volunteers : List Volunteer) :
    Machine.Each DatesInOrder (newChurch volunteers) := by
  intro component file found assignment listed
  simp only [newChurch, List.getElem?_map, Option.map_eq_some_iff] at found
  obtain ⟨volunteer, _, rfl⟩ := found
  cases listed

/-- Somebody who is to start on 20 March withdraws on 10 March. -/
def withdrawingRun : List (Nat × Request) :=
  let ambient := Sample.byPrimaryAdmin Sample.recordCheckOnly (Sample.march 9)
  [(0, ⟨ambient, .assignmentCreate Sample.primaryAdmin 1 (Sample.march 19)⟩),
    (0, ⟨ambient, .recordCrc ⟨.notClear, Sample.february 0, true, false, "", ""⟩⟩),
    (0, ⟨ambient, .resolveNotClear 0 .withdrew ""⟩)]

theorem assignment_dates_ordered_before :
    Machine.Always churchStep (Machine.Each DatesInOrder) (newChurch [Sample.adult])
      (withdrawingRun.take 2) := by
  refine (assignment_dates_ordered_iff (newChurch [Sample.adult]) (newChurch_inOrder _) _).mpr ?_
  refine ⟨?_, ?_, trivial⟩
  · intro file _ _ position assignment day _ _ ends
    cases ends
  · intro file _ _ position assignment day _ _ ends
    cases ends

theorem assignment_ended_before_start :
    ∃ file assignment, (Machine.run churchStep (newChurch [Sample.adult])
        withdrawingRun)[0]? = some file ∧ assignment ∈ file.assignments ∧
      assignment.isActive = false ∧ assignment.startedOn = Sample.march 19 ∧
      assignment.endedOn = some (Sample.march 9) := by
  refine ⟨_, ⟨1, Sample.march 19, some (Sample.march 9), false⟩, rfl, ?_, rfl, rfl, rfl⟩
  decide +kernel

end VolunteerScreening
