import VolunteerScreening.Notifications.Raising
import VolunteerScreening.Library.Machine

/-!
# A reminder goes out at most once

Reminder passes interleave with each other and with any change to the church.  A
pass makes its two searches, claims what it found one row at a time, and sends
one digest.
-/

namespace VolunteerScreening.Notifications

open Calendar Claims Requirements Review Tenants

/-- The log's constraint binds the rows that carry a date. -/
def reminderRegister : Register ReminderLog where
  insert := ReminderLog.create
  Binds := fun row => row.expiryAtSend.isSome = true
  appends := ReminderLog.create_keeps
  refuses := by
    intro rows row dated listed
    unfold ReminderLog.create
    rw [if_pos]
    simpa [ReminderLog.clashes, dated] using listed

/-- A church, the passes over it that have begun, and the emails logged. -/
structure Racing where
  church : Church
  board : Board (Tenant × Pass) Entry ReminderLog
  emails : List EmailLog

inductive RacingMove where
  | change (church : Church)
  | search (tenant : Tenant) (pass : Pass)
  | searchOverdue (worker : Nat)
  | claim (worker : Nat)
  | send (worker : Nat)

namespace Racing

def opened (church : Church) (reminders : List ReminderLog) : Racing :=
  ⟨church, Board.opened reminders, []⟩

def sent (racing : Racing) (worker : Nat) : List EmailLog :=
  match racing.board.ready worker with
  | some begun =>
      let (tenant, pass) := begun.job
      (sendDigest tenant racing.church pass.delivery racing.emails begun.claimed
        (pendingSummary racing.church pass.created pass.now)).1
  | none => racing.emails

def step (racing : Racing) (move : RacingMove) : Racing :=
  match move with
  | .change church => { racing with church := church }
  | .search tenant pass =>
      { racing with
        board := racing.board.start (tenant, pass)
          (approachingEntries tenant racing.church pass.asOf) }
  | .searchOverdue worker =>
      match racing.board.workers[worker]? with
      | some begun =>
          { racing with
            board := racing.board.collect worker
              (overdueEntries racing.church begun.job.2.asOf) }
      | none => racing
  | .claim worker => { racing with board := racing.board.claim reminderRegister (·.log) worker }
  | .send worker =>
      { racing with
        board := racing.board.report worker
        emails := racing.sent worker }

/-- Every reminder in a digest was claimed and reported by one pass. -/
structure Sound (racing : Racing) : Prop where
  board : racing.board.Sound reminderRegister (·.log)
  reported : (racing.emails.flatMap (·.entries)).Subperm racing.board.reports.flatten

theorem logged_entries (delivery : Delivery) (log : EmailLog) :
    (delivery.logged log).entries = log.entries := by
  cases delivery <;> rfl

theorem Sound.send {racing : Racing} (sound : racing.Sound) (worker : Nat) :
    (racing.step (.send worker)).Sound := by
  refine ⟨sound.board.report worker, ?_⟩
  have earlier := sound.reported
  unfold step sent Board.report
  dsimp only
  cases racing.board.ready worker with
  | none => exact earlier
  | some begun =>
      dsimp only
      rw [List.flatten_append, List.flatten_singleton, sendDigest_emails]
      split
      · exact earlier.trans (List.sublist_append_left _ _).subperm
      · rw [List.flatMap_append, List.flatMap_singleton, logged_entries]
        obtain ⟨listed, permuted, within⟩ := earlier
        exact ⟨listed ++ begun.claimed, permuted.append (digest_entries _ _ _).symm,
          within.append (List.Sublist.refl _)⟩

theorem Sound.step {racing : Racing} (sound : racing.Sound) (move : RacingMove) :
    (racing.step move).Sound := by
  cases move with
  | change church => exact ⟨sound.board, sound.reported⟩
  | search tenant pass =>
      refine ⟨sound.board.start _ ?_, sound.reported⟩
      intro entry found
      exact findDueReminders_dated (List.mem_append_left (overdueEntries _ _) found)
  | searchOverdue worker =>
      unfold Racing.step
      dsimp only
      split
      · next begun _ =>
          refine ⟨sound.board.collect worker ?_, ?_⟩
          · intro entry found
            exact findDueReminders_dated
              (List.mem_append_right (approachingEntries begun.job.1 _ _) found)
          · have earlier := sound.reported
            unfold Board.collect
            dsimp only
            split <;> exact earlier
      · exact sound
  | claim worker =>
      refine ⟨sound.board.claim worker, ?_⟩
      have earlier := sound.reported
      unfold Racing.step Board.claim
      dsimp only
      split
      · split <;> exact earlier
      · exact earlier
  | send worker => exact sound.send worker

end Racing

/-- In every interleaving, no reminder is in two digests or twice in one, and every entry a search
finds carries a date. -/
theorem reminder_sent_at_most_once (church : Church) (reminders : List ReminderLog)
    (moves : List RacingMove) :
    (((Machine.run Racing.step (Racing.opened church reminders) moves).emails.flatMap
        (·.entries)).map (·.log)).Nodup ∧
      ∀ (tenant : Tenant) (church : Church) (asOf : Date),
        ∀ entry ∈ findDueReminders tenant church asOf, entry.dueDate.isSome = true := by
  have sound : (Machine.run Racing.step (Racing.opened church reminders) moves).Sound := by
    apply Machine.run_preserves Racing.step Racing.Sound
    · intro racing move sound
      exact sound.step move
    · exact ⟨Board.opened_sound reminders, List.nil_subperm⟩
  refine ⟨?_, ?_⟩
  · obtain ⟨listed, permuted, within⟩ := sound.reported
    have distinct := (within.map (·.log)).nodup sound.board.reports_nodup
    exact (permuted.map (·.log)).nodup_iff.mp distinct
  · intro tenant church asOf entry found
    exact findDueReminders_dated found

/-! ## A pass on its own -/

theorem raiseAll_cons (rows : List ReminderLog) (entry : Entry) (candidates : List Entry) :
    raiseAll rows (entry :: candidates) =
      match raiseReminder rows entry with
      | some after => ((raiseAll after candidates).1, entry :: (raiseAll after candidates).2)
      | none => raiseAll rows candidates := by
  induction candidates using List.reverseRecOn with
  | nil => exact raiseAll_concat rows [] entry
  | append_singleton candidates last inductionHypothesis =>
      rw [← List.cons_append, raiseAll_concat, inductionHypothesis]
      cases raised : raiseReminder rows entry with
      | none =>
          dsimp only
          rw [raiseAll_concat]
      | some after =>
          dsimp only
          rw [raiseAll_concat]
          cases raiseReminder (raiseAll after candidates).1 last <;> rfl

theorem claim_all {worker : Nat} {job : Tenant × Pass} {candidates : List Entry} :
    ∀ {board : Board (Tenant × Pass) Entry ReminderLog} {claimed : List Entry},
      board.workers[worker]? = some ⟨job, candidates, claimed, false⟩ →
      (fun board => board.claim reminderRegister (·.log) worker)^[candidates.length] board =
        ⟨(raiseAll board.rows candidates).1,
          board.workers.set worker
            ⟨job, [], claimed ++ (raiseAll board.rows candidates).2, false⟩,
          board.reports⟩ := by
  induction candidates with
  | nil =>
      intro board claimed begun
      obtain ⟨within, same⟩ := List.getElem?_eq_some_iff.mp begun
      simp [raiseAll_nil, ← same]
  | cons entry candidates inductionHypothesis =>
      intro board claimed begun
      have within := (List.getElem?_eq_some_iff.mp begun).1
      rw [List.length_cons, Function.iterate_succ_apply, raiseAll_cons]
      cases raised : raiseReminder board.rows entry with
      | none =>
          rw [Board.claim_refused begun raised,
            inductionHypothesis (List.getElem?_set_self within)]
          simp
      | some rows =>
          rw [Board.claim_inserted begun raised,
            inductionHypothesis (List.getElem?_set_self within)]
          simp

def passMoves (racing : Racing) (tenant : Tenant) (pass : Pass) : List RacingMove :=
  let worker := racing.board.workers.length
  [.search tenant pass, .searchOverdue worker] ++
    List.replicate (findDueReminders tenant racing.church pass.asOf).length (.claim worker) ++
    [.send worker]

theorem run_claims (racing : Racing) (worker count : Nat) :
    Machine.run Racing.step racing (List.replicate count (.claim worker)) =
      { racing with
        board := (fun board => board.claim reminderRegister (·.log) worker)^[count]
          racing.board } := by
  induction count generalizing racing with
  | zero => rfl
  | succ count inductionHypothesis =>
      rw [List.replicate_succ, Machine.run_cons, inductionHypothesis, Function.iterate_succ_apply]
      rfl

theorem run_searches (racing : Racing) (tenant : Tenant) (pass : Pass) :
    Machine.run Racing.step racing
        [.search tenant pass, .searchOverdue racing.board.workers.length] =
      { racing with
        board := { racing.board with
          workers := racing.board.workers ++
            [⟨(tenant, pass), findDueReminders tenant racing.church pass.asOf, [], false⟩] } } := by
  simp [Racing.step, Board.start, Board.collect, findDueReminders]

/-- A pass that nobody interrupts does what `processTenantReminders` does. -/
theorem passMoves_eq (racing : Racing) (tenant : Tenant) (pass : Pass) :
    let after := Machine.run Racing.step racing (passMoves racing tenant pass)
    (⟨after.board.rows, after.emails⟩ : Outbox) =
      (processTenantReminders tenant racing.church pass
        ⟨racing.board.rows, racing.emails⟩).1 := by
  unfold passMoves
  dsimp only
  rw [Machine.run_append, Machine.run_append, run_searches, run_claims]
  dsimp only
  rw [claim_all List.getElem?_concat_length]
  dsimp only [Machine.run_cons, Machine.run_nil, Racing.step, Racing.sent, Board.report]
  simp [Board.ready, Option.filter, processTenantReminders]

end VolunteerScreening.Notifications
