import VolunteerScreening.Library.Fallible
import VolunteerScreening.Library.Machine

/-!
# Transactions with savepoints

Inside a transaction a step that raises leaves whatever it had written.
`atomic` sets a savepoint before its body and goes back to it when the body
raises, so an atomic body is all or nothing.  `committed` looks at the rows of
a step that does not raise and at the exception of one that does; it takes
sequences to sequences and does not see savepoints.
-/

namespace VolunteerScreening.Savepoints

open Fallible

universe u

variable {Failure Rows Result Next : Type u}

/-- A step of a transaction: a result or an exception, and the rows it leaves either way. -/
abbrev Transaction (Failure Rows Result : Type u) : Type u := ExceptT Failure (StateM Rows) Result

namespace Transaction

def runOn (rows : Rows) (work : Transaction Failure Rows Result) :
    Except Failure Result × Rows := work.run rows

/-- Give up what was written since the savepoint if an exception ended it. -/
def rollback (savepoint : Rows) : Except Failure Result × Rows → Except Failure Result × Rows
  | (.ok result, after) => (.ok result, after)
  | (.error failure, _) => (.error failure, savepoint)

/-- Set a savepoint, and go back to it when the body raises. -/
def atomic (body : Transaction Failure Rows Result) : Transaction Failure Rows Result :=
  ExceptT.mk fun rows => rollback rows (body.runOn rows)

/-- Raise, if there is something to raise. -/
def raise (fault : Option Failure) : Transaction Failure Rows PUnit :=
  match fault with
  | some failure => throw failure
  | none => pure ⟨⟩

/-- Change the rows, unless the write itself raises. -/
def write (fault : Option Failure) (change : Rows → Rows) : Transaction Failure Rows PUnit := do
  raise fault
  modify change

def read (outcome : Rows → Except Failure Result) : Transaction Failure Rows Result :=
  ExceptT.mk fun rows => (outcome rows, rows)

/-- What a step comes to if nothing rolls it back: its result and rows, or its exception. -/
def committed (rows : Rows) (work : Transaction Failure Rows Result) :
    Except Failure (Result × Rows) :=
  (work.runOn rows).1.map fun result => (result, (work.runOn rows).2)

variable {rows after : Rows} {result : Result} {failure : Failure}

theorem committed_eq_ok_iff {work : Transaction Failure Rows Result} :
    work.committed rows = .ok (result, after) ↔ work.runOn rows = (.ok result, after) := by
  unfold committed
  rcases work.runOn rows with ⟨failure | result, after⟩ <;> simp [Except.map]

@[simp]
theorem committed_pure :
    (pure result : Transaction Failure Rows Result).committed rows = .ok (result, rows) := rfl

@[simp]
theorem committed_throw :
    (throw failure : Transaction Failure Rows Result).committed rows = .error failure := rfl

@[simp]
theorem committed_read (outcome : Rows → Except Failure Result) :
    (read outcome).committed rows = (outcome rows).map fun result => (result, rows) := rfl

@[simp]
theorem committed_raise_none :
    (raise none : Transaction Failure Rows PUnit).committed rows = .ok (⟨⟩, rows) := rfl

@[simp]
theorem committed_write_none (change : Rows → Rows) :
    (write none change : Transaction Failure Rows PUnit).committed rows =
      .ok (⟨⟩, change rows) := rfl

theorem committed_raise_eq_ok_iff {fault : Option Failure} {done : PUnit} :
    (raise fault : Transaction Failure Rows PUnit).committed rows = .ok (done, after) ↔
      fault = none ∧ after = rows := by
  cases fault with
  | none => simp [eq_comm]
  | some failure => simp [raise]

theorem committed_write_eq_ok_iff {fault : Option Failure} {change : Rows → Rows}
    {done : PUnit} :
    (write fault change).committed rows = .ok (done, after) ↔
      fault = none ∧ after = change rows := by
  cases fault with
  | none => simp [eq_comm]
  | some failure =>
      have raised : (write (some failure) change).committed rows = .error failure := rfl
      simp [raised]

theorem runOn_bind (first : Transaction Failure Rows Result)
    (rest : Result → Transaction Failure Rows Next) :
    (first >>= rest).runOn rows =
      StateT.run (ExceptT.bindCont rest (first.runOn rows).1) (first.runOn rows).2 := rfl

theorem runOn_tryCatch_of_ok {body : Transaction Failure Rows Result}
    {handler : Failure → Transaction Failure Rows Result}
    (ended : body.runOn rows = (.ok result, after)) :
    (tryCatch body handler).runOn rows = (.ok result, after) := by
  have started : body rows = (.ok result, after) := ended
  simp only [runOn, ExceptT.run, tryCatch, tryCatchThe, MonadExceptOf.tryCatch, ExceptT.tryCatch,
    ExceptT.mk, bind, StateT.bind, started]
  rfl

theorem runOn_tryCatch_of_error {body : Transaction Failure Rows Result}
    {handler : Failure → Transaction Failure Rows Result}
    (raised : body.runOn rows = (.error failure, after)) :
    (tryCatch body handler).runOn rows = (handler failure).runOn after := by
  have started : body rows = (.error failure, after) := raised
  simp only [runOn, ExceptT.run, tryCatch, tryCatchThe, MonadExceptOf.tryCatch, ExceptT.tryCatch,
    ExceptT.mk, bind, StateT.bind, started]

/-- A sequence comes to what its rest comes to from the rows its first step leaves. -/
@[simp]
theorem committed_bind (first : Transaction Failure Rows Result)
    (rest : Result → Transaction Failure Rows Next) :
    (first >>= rest).committed rows =
      first.committed rows >>= fun done => (rest done.1).committed done.2 := by
  unfold committed
  rw [runOn_bind]
  rcases first.runOn rows with ⟨failure | result, between⟩ <;> rfl

section Sequence

variable {done : Next × Rows}

theorem read_bind_eq_ok_iff {outcome : Rows → Except Failure Result}
    {rest : Result → Transaction Failure Rows Next} :
    (read outcome >>= rest).committed rows = .ok done ↔
      ∃ result, outcome rows = .ok result ∧ (rest result).committed rows = .ok done := by
  rw [committed_bind, committed_read, bind_of_map, bind_eq_ok_iff]

theorem raise_bind_eq_ok_iff {fault : Option Failure}
    {rest : PUnit → Transaction Failure Rows Next} :
    (raise fault >>= rest).committed rows = .ok done ↔
      fault = none ∧ (rest ⟨⟩).committed rows = .ok done := by
  rw [committed_bind, bind_eq_ok_iff]
  constructor
  · rintro ⟨_, raised, finished⟩
    obtain ⟨unbroken, same⟩ := committed_raise_eq_ok_iff.mp raised
    rw [same] at finished
    exact ⟨unbroken, finished⟩
  · rintro ⟨unbroken, finished⟩
    exact ⟨_, committed_raise_eq_ok_iff.mpr ⟨unbroken, rfl⟩, finished⟩

theorem write_bind_eq_ok_iff {fault : Option Failure} {change : Rows → Rows}
    {rest : PUnit → Transaction Failure Rows Next} :
    (write fault change >>= rest).committed rows = .ok done ↔
      fault = none ∧ (rest ⟨⟩).committed (change rows) = .ok done := by
  rw [committed_bind, bind_eq_ok_iff]
  constructor
  · rintro ⟨_, written, finished⟩
    obtain ⟨unbroken, same⟩ := committed_write_eq_ok_iff.mp written
    rw [same] at finished
    exact ⟨unbroken, finished⟩
  · rintro ⟨unbroken, finished⟩
    exact ⟨_, committed_write_eq_ok_iff.mpr ⟨unbroken, rfl⟩, finished⟩

end Sequence

/-! ## Savepoints -/

section Atomic

variable {body : Transaction Failure Rows Result}

theorem runOn_atomic : (atomic body).runOn rows = rollback rows (body.runOn rows) := rfl

@[simp]
theorem committed_atomic : (atomic body).committed rows = body.committed rows := by
  unfold committed
  rw [runOn_atomic]
  rcases body.runOn rows with ⟨failure | result, between⟩ <;> rfl

/-- A step that leaves the rows as they were when it raises. -/
def AllOrNothing (work : Transaction Failure Rows Result) : Prop :=
  ∀ rows failure after, work.runOn rows = (.error failure, after) → after = rows

theorem atomic_allOrNothing (body : Transaction Failure Rows Result) :
    AllOrNothing (atomic body) := by
  intro rows failure after raises
  rw [runOn_atomic] at raises
  rcases ended : body.runOn rows with ⟨failure' | result, between⟩
  · rw [ended] at raises
    exact (Prod.mk.inj raises).2.symm
  · rw [ended] at raises
    cases (Prod.mk.inj raises).1

theorem AllOrNothing.runOn_eq (whole : AllOrNothing body) :
    body.runOn rows =
      ((body.committed rows).map Prod.fst,
        Machine.attempt (fun rows => (body.committed rows).map Prod.snd) rows) := by
  rcases ended : body.runOn rows with ⟨failure | result, after⟩
  · rw [whole rows failure after ended]
    simp [Machine.attempt, committed, ended, Except.map]
  · rw [Machine.attempt, committed_eq_ok_iff.mpr ended]
    rfl

theorem AllOrNothing.andReturn (whole : AllOrNothing body) (value : Next) :
    AllOrNothing (body >>= fun _ => pure value) := by
  intro rows failure after raises
  rw [runOn_bind] at raises
  rcases ended : body.runOn rows with ⟨failure' | result, between⟩
  · rw [ended] at raises
    rw [← whole rows failure' between ended]
    exact (Prod.mk.inj raises).2.symm
  · rw [ended] at raises
    cases (Prod.mk.inj raises).1

/-- Handling what an all or nothing step raises resumes from the rows before it. -/
theorem AllOrNothing.committed_tryCatch (whole : AllOrNothing body)
    (handler : Failure → Transaction Failure Rows Result) :
    (tryCatch body handler).committed rows =
      tryCatch (body.committed rows) fun failure => (handler failure).committed rows := by
  rcases ended : body.runOn rows with ⟨failure | result, after⟩
  · have resumed : (tryCatch body handler).runOn rows = (handler failure).runOn after :=
      runOn_tryCatch_of_error ended
    rw [whole rows failure after ended] at resumed
    unfold committed
    rw [resumed, ended]
    rfl
  · unfold committed
    rw [runOn_tryCatch_of_ok ended, ended]
    rfl

end Atomic

end Transaction

end VolunteerScreening.Savepoints
