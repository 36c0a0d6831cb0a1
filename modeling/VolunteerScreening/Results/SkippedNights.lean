import VolunteerScreening.Results.SyncIdempotence
import VolunteerScreening.Transactions.Writes

/-!
# Nights that are skipped

Recomputing reads the stored status as well as the dates and moves it both ways.
It still makes no difference to leave nights out: whatever was completed once
and is owed again had run out before, and what has run out stays so.
-/

namespace VolunteerScreening

open Calendar Org Requirements Review

namespace Requirements.RequirementInstance

variable {row : RequirementInstance} {today asOf first second : Date}

theorem isBefore_mono {date : Option Date} (passed : isBefore date first = true)
    (later : first ≤ second) : isBefore date second = true := by
  cases date with
  | none => cases passed
  | some date =>
      have before : date < first := of_decide_eq_true passed
      exact decide_eq_true (lt_of_lt_of_le before later)

/-- What was completed, and is owed or parked again, has run out by this day. -/
def LapsedBy (row : RequirementInstance) (today : Date) : Prop :=
  row.status ≠ .complete → row.status ≠ .waived → row.completedOn.isSome = true →
    row.isExpired today = true

theorem lapsedBy_of_incomplete (incomplete : row.completedOn = none) : row.LapsedBy today := by
  intro _ _ completed
  rw [incomplete] at completed
  cases completed

theorem lapsedBy_of_reversal (fits : row.status = row.statusAfterReversal) :
    row.LapsedBy today := by
  intro open_ _ completed
  rw [fits, statusAfterReversal, if_pos completed] at open_
  exact absurd rfl open_

theorem LapsedBy.mono (lapsed : row.LapsedBy first) (later : first ≤ second) :
    row.LapsedBy second := fun open_ unwaived completed =>
  isBefore_mono (lapsed open_ unwaived completed) later

theorem LapsedBy.recompute (lapsed : row.LapsedBy today) (past : asOf ≤ today) :
    (row.recompute asOf).LapsedBy today := by
  unfold LapsedBy isExpired at *
  rw [recompute_completedOn, recompute_expiresOn]
  intro open_ unwaived completed
  by_cases before : row.status ≠ .complete ∧ row.status ≠ .waived
  · exact lapsed before.1 before.2 completed
  · by_cases expired : isBefore row.expiresOn asOf = true
    · exact isBefore_mono expired past
    · -- what is complete or waived and has not run out stays so
      have done : row.completedOn ≠ none := Option.isSome_iff_ne_none.mp completed
      have stays : row.recompute asOf = row := by
        rw [not_and_or, not_not, not_not] at before
        obtain complete | waived := before
        · simp [RequirementInstance.recompute, complete, expired, done]
        · exact row.recompute_status_of_not_dated asOf (.inr (.inl waived))
      rw [stays] at open_ unwaived
      exact absurd ⟨open_, unwaived⟩ before

theorem recompute_overdue (overdue : row.status = .overdue) :
    row.recompute asOf =
      if row.completedOn.isSome = true ∧ row.isExpired asOf = false then
        { row with status := .complete }
      else row := by
  unfold RequirementInstance.recompute
  rw [overdue]
  dsimp only
  by_cases back : row.completedOn.isSome = true ∧ row.isExpired asOf = false
  · rw [if_pos back, if_pos (by simpa [isExpired] using back)]
  · rw [if_neg back, if_neg (by simpa [isExpired] using back)]

theorem recompute_complete (complete : row.status = .complete) :
    row.recompute asOf =
      if row.isExpired asOf = true ∨ row.isPastDueDate asOf = true ∧ row.completedOn = none then
        { row with status := .overdue }
      else row := by
  unfold RequirementInstance.recompute
  rw [complete]
  dsimp only
  by_cases past : row.isExpired asOf = true ∨
      row.isPastDueDate asOf = true ∧ row.completedOn = none
  · rw [if_pos past, if_pos (by simpa [isExpired, isPastDueDate] using past)]
  · rw [if_neg past, if_neg (by simpa [isExpired, isPastDueDate] using past)]

theorem recompute_open (open_ : row.status = .notStarted ∨ row.status = .inProgress) :
    row.recompute asOf =
      if row.isPastDueDate asOf = true then { row with status := .overdue } else row := by
  unfold RequirementInstance.recompute isPastDueDate
  obtain notStarted | inProgress := open_
  · rw [notStarted]
  · rw [inProgress]

/-- After a day by which all that is owed again has run out, an earlier recompute makes no
difference to a later one. -/
theorem LapsedBy.recompute_recompute (lapsed : row.LapsedBy today) (after : today ≤ first)
    (later : first ≤ second) : (row.recompute first).recompute second = row.recompute second := by
  have expires : row.isExpired first = true → row.isExpired second = true :=
    fun passed => isBefore_mono passed later
  have falls : row.isPastDueDate first = true → row.isPastDueDate second = true :=
    fun passed => isBefore_mono passed later
  by_cases complete : row.status = .complete
  · rw [recompute_complete complete, recompute_complete complete]
    by_cases past : row.isExpired first = true ∨
        row.isPastDueDate first = true ∧ row.completedOn = none
    · have still := past.imp expires (And.imp_left falls)
      rw [if_pos past, if_pos still, recompute_overdue rfl, if_neg]
      -- overdue for good: run out, or never completed
      rintro ⟨completed, valid⟩
      obtain expired | ⟨_, incomplete⟩ := still
      · cases expired.symm.trans valid
      · rw [show row.completedOn = none from incomplete] at completed
        cases completed
    · rw [if_neg past, recompute_complete complete]
  by_cases overdue : row.status = .overdue
  · rw [recompute_overdue overdue, recompute_overdue overdue]
    by_cases back : row.completedOn.isSome = true ∧ row.isExpired first = false
    · have done : row.completedOn ≠ none := Option.isSome_iff_ne_none.mp back.1
      rw [if_pos back, recompute_complete rfl]
      cases expired : row.isExpired second with
      | true =>
          rw [if_pos (.inl expired), if_neg (by simp), ← overdue]
      | false =>
          rw [if_neg, if_pos ⟨back.1, rfl⟩]
          rintro (ran | ⟨_, incomplete⟩)
          · cases expired.symm.trans ran
          · exact done incomplete
    · rw [if_neg back, recompute_overdue overdue]
  by_cases open_ : row.status = .notStarted ∨ row.status = .inProgress
  · rw [recompute_open open_, recompute_open open_]
    by_cases past : row.isPastDueDate first = true
    · rw [if_pos past, if_pos (falls past), recompute_overdue rfl, if_neg]
      -- what was completed and is owed again does not come back: it had run out before
      rintro ⟨completed, valid⟩
      have unwaived : row.status ≠ .waived := by
        intro waived
        rw [waived] at open_
        simp at open_
      have expired := expires (isBefore_mono (lapsed complete unwaived completed) after)
      cases expired.symm.trans valid
    · rw [if_neg past, recompute_open open_]
  · have undated : row.status = .notApplicable ∨ row.status = .waived ∨ row.status = .blocked := by
      cases status : row.status <;> simp_all
    rw [row.recompute_status_of_not_dated first undated]

end Requirements.RequirementInstance

/-! ## Every transaction -/

/-- Every instance that was completed and is owed or parked again has run out by this day. -/
def Lapsed (today : Date) (file : VolunteerFile) : Prop :=
  ∀ pk row, file.requirementInstances pk = some row → row.LapsedBy today

section Transactions

open RequirementInstance

variable {file : VolunteerFile} {today : Date} {pk : Pk} {row : RequirementInstance}

theorem Undone.lapsedBy {ambient : Ambient} {item : ReviewItem} (past : ambient.today ≤ today)
    (undone : Undone ambient item file pk row) : row.LapsedBy today := by
  cases undone with
  | snapshot there => exact (lapsedBy_of_reversal rfl).recompute past
  | waiver there kind waived gives =>
      obtain rfl | rfl := gives
      · exact (lapsedBy_of_reversal rfl).recompute past
      · exact (lapsedBy_of_reversal rfl).recompute past

theorem Written.lapsedBy {ambient : Ambient} {operation : Operation} (lapsed : Lapsed today file)
    (past : ambient.today ≤ today) (written : Written ambient operation file pk row) :
    row.LapsedBy today := by
  cases written with
  | kept there => exact lapsed pk row there
  | completed there definition completedOn notes => exact fun open_ => absurd rfl open_
  | cleared there reportDate => exact fun open_ => absurd rfl open_
  | notClear there => exact lapsedBy_of_incomplete rfl
  | @blocked before there outstanding =>
      intro _ _ completed
      refine lapsed pk before there ?_ ?_ completed
      · intro complete
        rw [complete] at outstanding
        cases outstanding
      · intro waived
        rw [waived] at outstanding
        cases outstanding
  | @started before there startable =>
      intro _ _ completed
      refine lapsed pk before there ?_ ?_ completed
      · intro complete
        rw [complete] at startable
        simp at startable
      · intro waived
        rw [waived] at startable
        simp at startable
  | waived there reason waivedBy => exact fun _ unwaived => absurd rfl unwaived
  | reversed there waived => exact (lapsedBy_of_reversal rfl).recompute past
  | sentBack _ _ _ undone => exact undone.lapsedBy past

theorem lapsed_after {move : Move} (lapsed : Lapsed today file) (past : move.today ≤ today) :
    Lapsed today (move.after file) := by
  intro pk row present
  refine @Move.row_induction (·.LapsedBy today) file pk move (lapsed pk) ?_ ?_ ?_ ?_ ?_ ?_ row
    present
  · rintro request work row rfl _ written
    exact written.lapsedBy lapsed past
  · intro subject rows definition
    apply lapsedBy_of_incomplete
    unfold SyncSubject.createdRow
    split <;> rfl
  · intro row reason here outstanding _ _ completed
    refine here ?_ ?_ completed
    · intro complete
      rw [complete] at outstanding
      cases outstanding
    · intro waived
      rw [waived] at outstanding
      cases outstanding
  · rintro definition row rows volunteer rfl activates _ _ completed
    obtain ⟨there, parked⟩ := activates.found
    obtain ⟨_, _, written⟩ := activate_eq move.settings.catalogue rows volunteer definition row
    rw [written] at completed ⊢
    exact lapsed _ row there (by simp [parked]) (by simp [parked]) completed
  · intro _ _ _ row deadline reason _ incomplete _ _
    exact lapsedBy_of_incomplete incomplete
  · rintro settings asOf write planned row rfl there
    exact (lapsed pk row there).recompute past

end Transactions

theorem lapsed_run (volunteer : Volunteer) {moves : List Move} {today : Date}
    (past : ∀ move ∈ moves, move.today ≤ today) :
    Lapsed today (Machine.run Move.after (.opened volunteer.deriveBirth) moves) := by
  have opened : Lapsed today (.opened volunteer.deriveBirth) := by
    intro pk row present
    cases present
  generalize VolunteerFile.opened volunteer.deriveBirth = file at opened
  induction moves generalizing file with
  | nil => exact opened
  | cons move rest inductionHypothesis =>
      obtain ⟨now, later⟩ := List.forall_mem_cons.mp past
      exact inductionHypothesis later _ (lapsed_after opened now)

theorem recomputeAllStatuses_row {file : VolunteerFile} {asOf : Date} {pk : Pk}
    {row : RequirementInstance}
    (present : (recomputeAllStatuses asOf file).requirementInstances pk = some row) :
    ∃ before, file.requirementInstances pk = some before ∧ row = before.recompute asOf := by
  obtain ⟨before, there, written⟩ := Option.map_eq_some_iff.mp present
  exact ⟨before, there, written.symm⟩

theorem Lapsed.recomputeAllStatuses {file : VolunteerFile} {today later : Date}
    (lapsed : Lapsed today file) (after : today ≤ later) :
    Lapsed later (recomputeAllStatuses later file) := by
  intro pk row present
  obtain ⟨before, there, rfl⟩ := recomputeAllStatuses_row present
  exact ((lapsed pk before there).mono after).recompute le_rfl

theorem Lapsed.recomputeAllStatuses_absorbed {file : VolunteerFile} {today first second : Date}
    (lapsed : Lapsed today file) (after : today ≤ first) (later : first ≤ second) :
    Requirements.recomputeAllStatuses second (Requirements.recomputeAllStatuses first file) =
      Requirements.recomputeAllStatuses second file := by
  have rows : ∀ pk, ((file.requirementInstances pk).map (·.recompute first)).map
      (·.recompute second) = (file.requirementInstances pk).map (·.recompute second) := by
    intro pk
    cases there : file.requirementInstances pk with
    | none => rfl
    | some row => exact congrArg some ((lapsed pk row there).recompute_recompute after later)
  unfold Requirements.recomputeAllStatuses
  dsimp only
  rw [funext rows]

/-- In every file that transactions of days up to this one lead to, recomputing at any dates from
this one on, in order, leaves what recomputing at the last of them leaves. -/
theorem skipped_nights_are_harmless (volunteer : Volunteer) {moves : List Move} {today : Date}
    (past : ∀ move ∈ moves, move.today ≤ today) {earlier : List Date} {last : Date}
    (ordered : (today :: (earlier ++ [last])).Pairwise (· ≤ ·)) :
    Machine.run (fun file date => recomputeAllStatuses date file)
        (Machine.run Move.after (.opened volunteer.deriveBirth) moves) (earlier ++ [last]) =
      recomputeAllStatuses last
        (Machine.run Move.after (.opened volunteer.deriveBirth) moves) := by
  refine Machine.run_eq_last (fun file date => recomputeAllStatuses date file) Lapsed ?_ ?_
    (lapsed_run volunteer past) ordered
  · intro file latest date lapsed later
    exact lapsed.recomputeAllStatuses later
  · intro file latest first second lapsed after later
    exact lapsed.recomputeAllStatuses_absorbed after later

namespace Sample

def refreshing (today : Date) : Ambient := byPrimaryAdmin orientationAndRefresher today

/-- Serving, and through with the orientation and its first refresher. -/
def refreshed : List Move :=
  [.transact ⟨refreshing (january 5), .assignmentCreate primaryAdmin 1 (january 5)⟩,
    .transact ⟨refreshing (january 6), .markRequirementComplete 1 (january 6) ""⟩,
    .sync (settings orientationAndRefresher) (january 6),
    .transact ⟨refreshing (january 7), .markRequirementComplete 2 (january 7) ""⟩]

end Sample

theorem refreshed_nights_are_skipped :
    Machine.run (fun file date => recomputeAllStatuses date file)
        (Machine.run Move.after (.opened Sample.adult.deriveBirth) Sample.refreshed)
        ([Sample.january 9, (Sample.january 9).addMonths 24] ++
          [(Sample.january 9).addMonths 36]) =
      recomputeAllStatuses ((Sample.january 9).addMonths 36)
        (Machine.run Move.after (.opened Sample.adult.deriveBirth) Sample.refreshed) :=
  @skipped_nights_are_harmless Sample.adult _ (Sample.january 7) (by decide) _ _ (by decide)

end VolunteerScreening
