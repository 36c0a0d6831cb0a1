import VolunteerScreening.Transactions.Writes

/-!
# What a status says about the dates

In every file a run reaches, a requirement that reads complete was completed, and
one that is parked has no deadline.
-/

namespace VolunteerScreening

open Calendar Documents Fallible Org Requirements Review

namespace Requirements.RequirementInstance

/-- A row whose status its dates allow. -/
structure Coherent (row : RequirementInstance) : Prop where
  completed : row.status = .complete → row.completedOn.isSome = true
  parked : row.status = .notApplicable → row.dueOn = none

variable {row : RequirementInstance}

theorem coherent_of_open (incomplete : row.status ≠ .complete)
    (unparked : row.status ≠ .notApplicable) : row.Coherent :=
  ⟨fun complete => absurd complete incomplete, fun parked => absurd parked unparked⟩

theorem Coherent.recompute (coherent : row.Coherent) (asOf : Date) :
    (row.recompute asOf).Coherent := by
  refine ⟨?_, ?_⟩
  · intro complete
    rw [recompute_completedOn]
    revert complete
    unfold RequirementInstance.recompute
    cases status : row.status <;> dsimp only <;> (try split) <;>
      simp_all [coherent.completed]
  · intro parked
    rw [recompute_dueOn]
    exact coherent.parked ((row.recompute_notApplicable_iff asOf).mp parked)

theorem coherent_of_reversal (fits : row.status = row.statusAfterReversal) : row.Coherent := by
  unfold statusAfterReversal at fits
  refine ⟨?_, ?_⟩
  · intro complete
    by_contra incomplete
    rw [complete, if_neg incomplete] at fits
    split at fits <;> cases fits
  · intro parked
    rw [parked] at fits
    split at fits
    · cases fits
    · split at fits <;> cases fits

theorem coherent_restoredRow (state : Snapshot) : (restoredRow state row).Coherent :=
  coherent_of_reversal rfl

theorem coherent_unwaivedRow (restoreDue : Option (Option Date × String)) :
    (unwaivedRow row restoreDue).Coherent := by
  cases restoreDue <;> exact coherent_of_reversal rfl

theorem coherent_holdNotApplicable (reason : String) : (holdNotApplicable row reason).Coherent := by
  refine ⟨?_, fun _ => rfl⟩
  intro complete
  cases complete

theorem coherent_activate (catalogue : Catalogue) (rows : Instances) (volunteer : Volunteer)
    (definition : RequirementDefinition) :
    (activate catalogue rows volunteer definition row).Coherent := by
  obtain ⟨_, _, written⟩ := activate_eq catalogue rows volunteer definition row
  rw [written]
  exact coherent_of_open (by simp) (by simp)

end Requirements.RequirementInstance

open RequirementInstance

def Requirements.CoherentRows (rows : Instances) : Prop :=
  ∀ pk row, rows pk = some row → row.Coherent

theorem CoherentRows.update {rows : Instances} (coherent : CoherentRows rows) (pk : Pk)
    {row : RequirementInstance} (written : row.Coherent) :
    CoherentRows (Function.update rows pk (some row)) := by
  intro other found present
  by_cases self : other = pk
  · rw [self, Function.update_self] at present
    exact Option.some.inj present ▸ written
  · rw [Function.update_of_ne self] at present
    exact coherent other found present

theorem reconciled_coherent (subject : SyncSubject) (rows : Instances)
    (definition : RequirementDefinition) {row : RequirementInstance} (coherent : row.Coherent) :
    (subject.reconciled rows definition row).Coherent := by
  unfold SyncSubject.reconciled
  split
  · split
    · exact coherent_holdNotApplicable _
    · exact coherent
  · split
    · exact coherent_activate _ _ _ _
    · split
      · next derives =>
          cases refreshed : refreshPrerequisiteDeadline subject.catalogue rows definition row with
          | none => exact coherent
          | some changed =>
              obtain ⟨_, _, _, _, _, rfl⟩ := refreshPrerequisiteDeadline_some refreshed
              have outstanding : row.status.isOutstanding = true := by
                simp only [Bool.and_eq_true] at derives
                exact derives.2
              refine coherent_of_open ?_ ?_
              · intro complete
                rw [show row.status = .complete from complete] at outstanding
                cases outstanding
              · intro parked
                rw [show row.status = .notApplicable from parked] at outstanding
                cases outstanding
      · exact coherent

theorem synced_coherent (settings : Settings) (asOf : Date) {file : VolunteerFile}
    (coherent : CoherentRows file.requirementInstances) :
    CoherentRows (synced settings asOf file).requirementInstances := by
  intro pk row present
  obtain there | ⟨definition, _, _, ⟨_, rfl⟩ | ⟨before, there, rfl⟩⟩ := synced_instance present
  · exact coherent pk row there
  · unfold SyncSubject.createdRow
    split
    · refine ⟨?_, fun _ => rfl⟩
      intro complete
      cases complete
    · exact coherent_of_open (by decide) (by decide)
  · exact reconciled_coherent _ _ _ (coherent pk before there)

/-! ## Every transaction -/

section Transactions

variable {ambient : Ambient} {file : VolunteerFile} {work : Work}

theorem Written.coherent {operation : Operation} {pk : Pk} {row : RequirementInstance}
    (coherent : CoherentRows file.requirementInstances)
    (written : Written ambient operation file pk row) : row.Coherent := by
  cases written with
  | kept there => exact coherent pk row there
  | completed there definition completedOn notes =>
      refine ⟨fun _ => rfl, ?_⟩
      intro parked
      cases parked
  | cleared there reportDate =>
      refine ⟨fun _ => rfl, ?_⟩
      intro parked
      cases parked
  | notClear there => exact coherent_of_open (by simp [notClearRow]) (by simp [notClearRow])
  | blocked there outstanding => exact coherent_of_open (by simp) (by simp)
  | started there startable =>
      rcases startable with notStarted | overdue
      · exact coherent_of_open (by simp [notStarted]) (by simp [notStarted])
      · exact coherent_of_open (by simp [overdue]) (by simp [overdue])
  | waived there reason waivedBy =>
      exact coherent_of_open (by simp [waivedRow]) (by simp [waivedRow])
  | reversed there waived => exact (coherent_unwaivedRow none).recompute _
  | sentBack _ _ _ undone =>
      cases undone with
      | snapshot there rewrites => exact (coherent_restoredRow _).recompute _
      | waiver there kind waived gives => exact (coherent_unwaivedRow _).recompute _

theorem activateTurning18Checks_coherent (settings : Settings) (asOf : Date)
    (coherent : CoherentRows file.requirementInstances) :
    CoherentRows (activateTurning18Checks settings asOf file).requirementInstances := by
  unfold activateTurning18Checks
  refine List.foldlRecOn (motive := CoherentRows) _ _ coherent ?_
  intro rows kept definition _
  split
  · split
    · exact CoherentRows.update kept _ (coherent_activate _ _ _ _)
    · exact kept
  · exact kept

theorem sweepVolunteer_coherent (settings : Settings) (asOf : Date)
    (coherent : CoherentRows file.requirementInstances) :
    CoherentRows (sweepVolunteer settings asOf file).requirementInstances := by
  unfold sweepVolunteer
  split
  · intro pk row present
    obtain ⟨earlier, there, rfl⟩ := Option.map_eq_some_iff.mp present
    have activated : CoherentRows (activateTurning18Checks settings asOf
        (synced settings asOf file)).requirementInstances :=
      activateTurning18Checks_coherent settings asOf (synced_coherent settings asOf coherent)
    exact (activated pk earlier there).recompute asOf
  · exact coherent

theorem perform_coherent {operation : Operation}
    (coherent : CoherentRows file.requirementInstances)
    (success : perform ambient operation file = .ok work) :
    CoherentRows work.file.requirementInstances := by
  cases single : operation.isSweep with
  | false =>
      obtain ⟨between, writes⟩ := perform_writes single success
      have saved : CoherentRows between.requirementInstances := fun pk row present =>
        (writes.written pk row present).coherent coherent
      obtain same | same := writes.synced
      · rw [same]
        exact saved
      · rw [same]
        exact synced_coherent _ _ saved
  | true =>
      cases operation with
      | nightlySweep asOf =>
          cases success
          exact sweepVolunteer_coherent _ _ coherent
      | _ => cases single

end Transactions

/-- In every file a run reaches, the statuses are ones their dates allow. -/
theorem run_coherent (volunteer : Volunteer) (requests : List Request) :
    CoherentRows
      (Machine.run step (.opened volunteer.deriveBirth) requests).requirementInstances := by
  have opened : CoherentRows (VolunteerFile.opened volunteer.deriveBirth).requirementInstances := by
    intro _ _ present
    cases present
  refine Machine.run_preserves step (fun file => CoherentRows file.requirementInstances) ?_ opened
    requests
  intro file request coherent
  refine @step_induction (fun _ after => CoherentRows after.requirementInstances) request file
    coherent ?_ ?_
  · intro work success
    exact perform_coherent coherent success
  · intro after kept
    exact synced_coherent _ _ kept

end VolunteerScreening
