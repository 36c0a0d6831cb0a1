import Mathlib.Data.List.Perm.Basic

/-!
# Claims in a shared register

Workers collect entries, claim them one at a time in a register that refuses a
key it already has, and report once what they claimed.  Whatever the order of
their moves, no key is reported twice.
-/

namespace VolunteerScreening.Claims

open scoped List

universe u v w

variable {Job : Type u} {Entry : Type v} {Key : Type w}

/-- A table with a unique constraint, which binds some of its keys. -/
structure Register (Key : Type w) where
  insert : List Key → Key → Option (List Key)
  Binds : Key → Prop
  appends : ∀ {rows after : List Key} {key : Key}, insert rows key = some after →
    after = rows ++ [key]
  refuses : ∀ {rows : List Key} {key : Key}, Binds key → key ∈ rows → insert rows key = none

/-- A worker under way: its job, the entries it still has to claim, and those it has claimed. -/
structure Worker (Job : Type u) (Entry : Type v) where
  job : Job
  pending : List Entry
  claimed : List Entry
  isDone : Bool

def Worker.held (worker : Worker Job Entry) : List Entry :=
  if worker.isDone then [] else worker.claimed

/-- The register's rows, the workers that have begun, and what was reported. -/
structure Board (Job : Type u) (Entry : Type v) (Key : Type w) where
  rows : List Key
  workers : List (Worker Job Entry)
  reports : List (List Entry)

namespace Board

variable (register : Register Key) (key : Entry → Key) (board : Board Job Entry Key)

def start (job : Job) (found : List Entry) : Board Job Entry Key :=
  { board with workers := board.workers ++ [⟨job, found, [], false⟩] }

def collect (position : Nat) (found : List Entry) : Board Job Entry Key :=
  match board.workers[position]? with
  | some ⟨job, pending, claimed, false⟩ =>
      { board with workers := board.workers.set position ⟨job, pending ++ found, claimed, false⟩ }
  | _ => board

def claim (position : Nat) : Board Job Entry Key :=
  match board.workers[position]? with
  | some ⟨job, entry :: pending, claimed, false⟩ =>
      match register.insert board.rows (key entry) with
      | some rows =>
          { board with
            rows := rows
            workers := board.workers.set position ⟨job, pending, claimed ++ [entry], false⟩ }
      | none =>
          { board with workers := board.workers.set position ⟨job, pending, claimed, false⟩ }
  | _ => board

/-- A worker that has nothing left to claim and has not reported. -/
def ready (position : Nat) : Option (Worker Job Entry) :=
  (board.workers[position]?).filter fun worker => worker.pending.isEmpty && !worker.isDone

/-- A worker reports what it claimed, once. -/
def report (position : Nat) : Board Job Entry Key :=
  match board.ready position with
  | some worker =>
      { board with
        workers := board.workers.set position { worker with isDone := true }
        reports := board.reports ++ [worker.claimed] }
  | none => board

def held : List Entry := board.reports.flatten ++ board.workers.flatMap (·.held)

/-- Every claimed entry has its row, no two share one, and what is still to be claimed falls
under the constraint. -/
structure Sound : Prop where
  known : ∀ entry ∈ board.held, key entry ∈ board.rows
  distinct : (board.held.map key).Nodup
  bound : ∀ worker ∈ board.workers, ∀ entry ∈ worker.pending, register.Binds (key entry)

variable {register key board}

theorem claim_inserted {position : Nat} {job : Job} {entry : Entry} {pending claimed : List Entry}
    {rows : List Key}
    (begun : board.workers[position]? = some ⟨job, entry :: pending, claimed, false⟩)
    (inserted : register.insert board.rows (key entry) = some rows) :
    board.claim register key position =
      ⟨rows, board.workers.set position ⟨job, pending, claimed ++ [entry], false⟩,
        board.reports⟩ := by
  unfold claim
  simp only [begun, inserted]

theorem claim_refused {position : Nat} {job : Job} {entry : Entry} {pending claimed : List Entry}
    (begun : board.workers[position]? = some ⟨job, entry :: pending, claimed, false⟩)
    (refused : register.insert board.rows (key entry) = none) :
    board.claim register key position =
      ⟨board.rows, board.workers.set position ⟨job, pending, claimed, false⟩,
        board.reports⟩ := by
  unfold claim
  simp only [begun, refused]

theorem workers_split {workers : List (Worker Job Entry)} {position : Nat}
    {worker : Worker Job Entry} (found : workers[position]? = some worker) :
    ∃ others : List Entry, workers.flatMap (·.held) ~ worker.held ++ others ∧
      ∀ changed : Worker Job Entry,
        (workers.set position changed).flatMap (·.held) ~ changed.held ++ others := by
  obtain ⟨within, rfl⟩ := List.getElem?_eq_some_iff.mp found
  refine ⟨(workers.eraseIdx position).flatMap (·.held), ?_, ?_⟩
  · exact (List.getElem_cons_eraseIdx_perm within).symm.flatMap_right _
  · intro changed
    exact (List.set_perm_cons_eraseIdx within changed).flatMap_right _

/-- What a change of one worker does to the claims on the board. -/
theorem held_set {position : Nat} {worker : Worker Job Entry}
    (found : board.workers[position]? = some worker) :
    ∃ others : List Entry, board.held ~ worker.held ++ others ∧
      ∀ (rows : List Key) (changed : Worker Job Entry) (reported : List (List Entry)),
        (Board.mk rows (board.workers.set position changed) (board.reports ++ reported)).held ~
          reported.flatten ++ changed.held ++ others := by
  obtain ⟨others, before, after⟩ := workers_split found
  refine ⟨board.reports.flatten ++ others, ?_, ?_⟩
  · refine (before.append_left board.reports.flatten).trans ?_
    rw [← List.append_assoc, ← List.append_assoc]
    exact List.perm_append_comm.append_right others
  · intro rows changed reported
    unfold held
    dsimp only
    rw [List.flatten_append]
    refine ((after changed).append_left _).trans ?_
    rw [← List.append_assoc, ← List.append_assoc, List.append_assoc board.reports.flatten]
    exact List.perm_append_comm.append_right others

theorem Sound.of_perm {after : Board Job Entry Key} (sound : board.Sound register key)
    (held : after.held ~ board.held) (rows : after.rows = board.rows)
    (bound : ∀ worker ∈ after.workers, ∀ entry ∈ worker.pending, register.Binds (key entry)) :
    after.Sound register key where
  known := by
    intro entry claimed
    rw [rows]
    exact sound.known entry (held.mem_iff.mp claimed)
  distinct := (held.map key).nodup_iff.mpr sound.distinct
  bound := bound

theorem Sound.pending {position : Nat} {worker : Worker Job Entry}
    (sound : board.Sound register key) (found : board.workers[position]? = some worker) :
    ∀ entry ∈ worker.pending, register.Binds (key entry) :=
  sound.bound worker (List.mem_of_getElem? found)

theorem bound_set {position : Nat} {changed : Worker Job Entry} (sound : board.Sound register key)
    (bound : ∀ entry ∈ changed.pending, register.Binds (key entry)) :
    ∀ worker ∈ board.workers.set position changed, ∀ entry ∈ worker.pending,
      register.Binds (key entry) := by
  intro worker listed
  rcases List.mem_or_eq_of_mem_set listed with kept | rfl
  · exact sound.bound worker kept
  · exact bound

theorem Sound.start (sound : board.Sound register key) (job : Job) {found : List Entry}
    (bound : ∀ entry ∈ found, register.Binds (key entry)) :
    (board.start job found).Sound register key := by
  refine sound.of_perm ?_ rfl ?_
  · simp [held, Board.start, Worker.held]
  · intro worker listed
    rcases List.mem_append.mp listed with kept | new
    · exact sound.bound worker kept
    · rw [List.mem_singleton] at new
      subst new
      exact bound

theorem Sound.collect (sound : board.Sound register key) (position : Nat) {found : List Entry}
    (bound : ∀ entry ∈ found, register.Binds (key entry)) :
    (board.collect position found).Sound register key := by
  unfold Board.collect
  split
  · next job pending claimed worker =>
      obtain ⟨others, before, after⟩ := held_set worker
      refine sound.of_perm ?_ rfl (bound_set sound ?_)
      · have same := after board.rows ⟨job, pending ++ found, claimed, false⟩ []
        rw [List.append_nil] at same
        exact same.trans before.symm
      · intro entry listed
        rcases List.mem_append.mp listed with old | new
        · exact sound.pending worker entry old
        · exact bound entry new
  · exact sound

theorem Sound.claim (sound : board.Sound register key) (position : Nat) :
    (board.claim register key position).Sound register key := by
  unfold Board.claim
  split
  · next job entry pending claimed worker =>
      obtain ⟨others, before, after⟩ := held_set worker
      have rest : ∀ other ∈ pending, register.Binds (key other) :=
        fun other listed => sound.pending worker other (List.mem_cons_of_mem _ listed)
      split
      · next rows inserted =>
          have fresh : key entry ∉ board.rows := by
            intro taken
            have binds := sound.pending worker entry List.mem_cons_self
            rw [register.refuses binds taken] at inserted
            cases inserted
          have appended := register.appends inserted
          have grown := after rows ⟨job, pending, claimed ++ [entry], false⟩ []
          rw [List.append_nil] at grown
          have grown : (Board.mk rows
              (board.workers.set position ⟨job, pending, claimed ++ [entry], false⟩)
              board.reports).held ~ entry :: board.held := by
            refine grown.trans (List.Perm.trans ?_ (before.symm.cons entry))
            show (claimed ++ [entry]) ++ others ~ entry :: (claimed ++ others)
            rw [List.append_assoc]
            exact List.perm_middle
          refine ⟨?_, ?_, bound_set sound rest⟩
          · intro other held
            dsimp only
            rw [appended]
            rcases List.mem_cons.mp (grown.mem_iff.mp held) with rfl | old
            · simp
            · exact List.mem_append_left _ (sound.known other old)
          · rw [(grown.map key).nodup_iff, List.map_cons, List.nodup_cons]
            refine ⟨?_, sound.distinct⟩
            intro repeated
            obtain ⟨other, old, same⟩ := List.mem_map.mp repeated
            exact fresh (same ▸ sound.known other old)
      · next refused =>
          refine sound.of_perm ?_ rfl (bound_set sound rest)
          have same := after board.rows ⟨job, pending, claimed, false⟩ []
          rw [List.append_nil] at same
          exact same.trans before.symm
  · exact sound

theorem ready_some {position : Nat} {worker : Worker Job Entry}
    (ready : board.ready position = some worker) :
    board.workers[position]? = some worker ∧ worker.pending = [] ∧ worker.isDone = false := by
  obtain ⟨found, idle⟩ := Option.filter_eq_some_iff.mp ready
  simpa [found] using idle

theorem Sound.report (sound : board.Sound register key) (position : Nat) :
    (board.report position).Sound register key := by
  unfold Board.report
  split
  · next worker ready =>
      obtain ⟨found, idle, working⟩ := ready_some ready
      obtain ⟨others, before, after⟩ := held_set found
      refine sound.of_perm ?_ rfl (bound_set sound ?_)
      · have moved := after board.rows { worker with isDone := true } [worker.claimed]
        refine moved.trans (List.Perm.trans ?_ before.symm)
        simp [Worker.held, working]
      · intro entry listed
        rw [idle] at listed
        cases listed
  · exact sound

/-- No key is reported twice. -/
theorem Sound.reports_nodup (sound : board.Sound register key) :
    (board.reports.flatten.map key).Nodup := by
  have distinct := sound.distinct
  unfold held at distinct
  rw [List.map_append] at distinct
  exact (List.nodup_append.mp distinct).1

/-- A register of any content, and nobody at work. -/
def opened (rows : List Key) : Board Job Entry Key := ⟨rows, [], []⟩

theorem opened_sound (rows : List Key) :
    (opened rows : Board Job Entry Key).Sound register key := by
  refine ⟨?_, ?_, ?_⟩
  · intro entry claimed
    cases claimed
  · exact List.nodup_nil
  · intro worker listed
    cases listed

end Board

end VolunteerScreening.Claims
