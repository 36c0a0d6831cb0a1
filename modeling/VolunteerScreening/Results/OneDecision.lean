import VolunteerScreening.Church
import VolunteerScreening.Review.Entries
import VolunteerScreening.Library.Interleaving

/-!
# Decisions on one entry that interleave

A decision loads the entry, checks the loaded row, and writes later, a send-back
first its undo and then the decision.  Nothing looks at the stored row again, so
two requests that both loaded it open may both go through.  One decision is
taken exactly when each write finds the entry open and undone by nobody else.
-/

namespace VolunteerScreening.Review

open Calendar Fallible Org Requirements

/-! ## Requests in steps -/

/-- What a reviewer decides on an entry. -/
inductive Verdict where
  | affirm
  | sendBack (reason : String)
  deriving DecidableEq

def Verdict.status : Verdict → ReviewStatus
  | .affirm => .affirmed
  | .sendBack _ => .sentBack

def Verdict.reason : Verdict → String
  | .affirm => ""
  | .sendBack reason => reason

theorem Verdict.status_of_ne_affirm {verdict : Verdict} (sends : verdict ≠ .affirm) :
    verdict.status = .sentBack := by
  cases verdict with
  | affirm => exact absurd rfl sends
  | sendBack reason => rfl

structure DecisionRequest where
  ambient : Ambient
  user : Core.User
  verdict : Verdict

namespace DecisionRequest

variable (request : DecisionRequest)

def check (item : ReviewItem) : Except Refusal Unit := do
  requireReviewer request.ambient request.user item
  match request.verdict with
  | .affirm => return ()
  | .sendBack reason =>
      refuseIf (Text.isBlank reason)
        (Refusal.field "reason" "Say why this entry is being sent back.")

/-- The decision on the row as it was loaded, with the checks of its own. -/
def decide (item : ReviewItem) : Except Refusal ReviewItem :=
  match request.verdict with
  | .affirm => item.affirm request.user request.ambient.now
  | .sendBack reason => item.sendBack request.user reason request.ambient.now

def decided (item : ReviewItem) : ReviewItem :=
  item.closed request.verdict.status (some request.user) request.verdict.reason
    request.ambient.now

/-- `save(update_fields=[...])`: whatever the stored row has become. -/
def save (position : Nat) (file : VolunteerFile) : VolunteerFile :=
  { file with reviewItems := file.reviewItems.modify position request.decided }

end DecisionRequest

/-- How far a request has come, and its answer in the end.  One that fails after its checks is
rolled back. -/
inductive Phase where
  | loaded
  | checked
  | reverted (resyncs : Nat) (outcome : Outcome)
  | affirmed
  | sentBack (outcome : Outcome)
  | refused (refusal : Refusal)
  | rolledBack (refusal : Refusal)

namespace Phase

/-- The decision a request was told it has taken. -/
def answer : Phase → Option ReviewStatus
  | .affirmed => some .affirmed
  | .sentBack _ => some .sentBack
  | _ => none

def hasDecided (phase : Phase) : Bool := phase.answer.isSome

/-- Whether the undo of a send-back has run. -/
def hasReverted : Phase → Bool
  | .reverted _ _ => true
  | .sentBack _ => true
  | _ => false

end Phase

structure Reviewing where
  request : DecisionRequest
  loaded : ReviewItem
  phase : Phase

def enter (position : Nat) (request : DecisionRequest) (file : VolunteerFile) :
    Option Reviewing :=
  (file.reviewItems[position]?).map fun item => ⟨request, item, .loaded⟩

namespace Reviewing

variable (reviewing : Reviewing)

def hasDecided : Bool := reviewing.phase.hasDecided

def hasReverted : Bool := reviewing.phase.hasReverted

/-- The undo of a send-back.  Where the decision after it is going to be refused, the undo is
rolled back with it. -/
def undo (reason : String) (file : VolunteerFile) : Except Refusal (Work × Outcome) := do
  let undone ← revert reviewing.request.ambient reviewing.loaded reason (Work.start file)
  let _ ← reviewing.request.decide reviewing.loaded
  return undone

/-- The next step of a request. -/
def advance (position : Nat) (file : VolunteerFile) : Reviewing × VolunteerFile :=
  match reviewing.phase with
  | .loaded =>
      match reviewing.request.check reviewing.loaded with
      | .ok _ => ({ reviewing with phase := .checked }, file)
      | .error refusal => ({ reviewing with phase := .refused refusal }, file)
  | .checked =>
      match reviewing.request.verdict with
      | .affirm =>
          match reviewing.request.decide reviewing.loaded with
          | .ok _ => ({ reviewing with phase := .affirmed }, reviewing.request.save position file)
          | .error refusal => ({ reviewing with phase := .rolledBack refusal }, file)
      | .sendBack reason =>
          match reviewing.undo reason file with
          | .ok (work, outcome) =>
              ({ reviewing with phase := .reverted work.resyncs outcome }, work.file)
          | .error refusal => ({ reviewing with phase := .rolledBack refusal }, file)
  | .reverted resyncs outcome =>
      ({ reviewing with phase := .sentBack outcome },
        (Work.mk (reviewing.request.save position file) resyncs).commit reviewing.request.ambient)
  | _ => (reviewing, file)

end Reviewing

/-- A volunteer's rows, and the requests at work on one of their entries. -/
abbrev Desk := Interleaved VolunteerFile Reviewing

def deskStep (position : Nat) : Desk → Turn DecisionRequest → Desk :=
  Interleaved.step (enter position) fun reviewing => reviewing.advance position

/-! ## What a step does -/

theorem commit_reviewItems (ambient : Ambient) (work : Work) :
    (work.commit ambient).reviewItems = work.file.reviewItems := by
  rw [Work.commit_eq]

namespace DecisionRequest

variable {request : DecisionRequest} {item : ReviewItem}

theorem check_eq_ok_iff :
    request.check item = .ok () ↔
      mayReview request.ambient.settings.administration request.user item = none ∧
        item.isOpen = true ∧
        (request.verdict ≠ .affirm → Text.isBlank request.verdict.reason = false) := by
  unfold check
  rw [bind_eq_ok_iff]
  constructor
  · rintro ⟨_, allowed, explained⟩
    obtain ⟨may, opened⟩ := requireReviewer_eq_ok_iff.mp allowed
    refine ⟨may, opened, fun sends => ?_⟩
    cases verdict : request.verdict with
    | affirm => exact absurd verdict sends
    | sendBack reason =>
        rw [verdict] at explained
        exact Bool.not_eq_true _ ▸ refuseIf_eq_ok_iff.mp explained
  · rintro ⟨may, opened, explained⟩
    refine ⟨(), requireReviewer_eq_ok_iff.mpr ⟨may, opened⟩, ?_⟩
    cases verdict : request.verdict with
    | affirm => rfl
    | sendBack reason =>
        rw [verdict] at explained
        exact refuseIf_eq_ok_iff.mpr (Bool.not_eq_true _ ▸ explained nofun)

theorem decide_ok_iff (checked : request.check item = .ok ()) :
    (∃ after, request.decide item = .ok after) ↔ request.user.displayName.length ≤ 150 := by
  obtain ⟨_, opened, explained⟩ := check_eq_ok_iff.mp checked
  unfold decide
  cases verdict : request.verdict with
  | affirm =>
      simp [ReviewItem.affirm, ReviewItem.close_eq_ok_iff, opened]
  | sendBack reason =>
      have given : Text.isBlank reason = false := by
        rw [verdict] at explained
        exact explained nofun
      simp [ReviewItem.sendBack_eq_ok_iff, opened, given]

end DecisionRequest

namespace Reviewing

structure Fit (reviewing : Reviewing) : Prop where
  checked : reviewing.phase = .checked → reviewing.request.check reviewing.loaded = .ok ()
  refused : ∀ refusal, reviewing.phase = .refused refusal →
    reviewing.request.check reviewing.loaded ≠ .ok ()
  answered : ∀ status, reviewing.phase.answer = some status →
    reviewing.request.verdict.status = status
  undone : reviewing.hasReverted = true → reviewing.request.verdict ≠ .affirm

def Reverts (reviewing : Reviewing) (file : VolunteerFile) : Prop :=
  reviewing.phase = .checked ∧ reviewing.request.verdict ≠ .affirm ∧
    reviewing.request.user.displayName.length ≤ 150 ∧
    Undoable reviewing.request.ambient.settings.catalogue reviewing.loaded file

def Decides (reviewing : Reviewing) : Prop :=
  (reviewing.phase = .checked ∧ reviewing.request.verdict = .affirm ∧
      reviewing.request.user.displayName.length ≤ 150) ∨
    ∃ resyncs outcome, reviewing.phase = .reverted resyncs outcome

variable {reviewing : Reviewing} {position : Nat} {file : VolunteerFile}

theorem undo_ok_iff {reason : String} (sends : reviewing.request.verdict = .sendBack reason)
    (checked : reviewing.request.check reviewing.loaded = .ok ()) :
    (∃ undone, reviewing.undo reason file = .ok undone) ↔
      reviewing.request.user.displayName.length ≤ 150 ∧
        Undoable reviewing.request.ambient.settings.catalogue reviewing.loaded file := by
  have explained : Text.isBlank reason = false := by
    have given := (DecisionRequest.check_eq_ok_iff.mp checked).2.2
    rw [sends] at given
    exact given nofun
  have reverts := @revert_succeeds_iff reviewing.request.ambient reviewing.loaded reason
    (Work.start file) explained
  rw [← DecisionRequest.decide_ok_iff checked]
  refine Iff.trans ?_ (and_congr_right fun _ => reverts)
  unfold undo
  constructor
  · rintro ⟨undone, success⟩
    obtain ⟨undone, reverted, success⟩ := bind_eq_ok_iff.mp success
    obtain ⟨decided, taken, _⟩ := bind_eq_ok_iff.mp success
    exact ⟨⟨decided, taken⟩, undone, reverted⟩
  · rintro ⟨⟨decided, taken⟩, undone, reverted⟩
    exact ⟨undone, bind_eq_ok_iff.mpr ⟨undone, reverted, bind_eq_ok_iff.mpr ⟨decided, taken, rfl⟩⟩⟩

theorem with_phase {phase : Phase} (stage : reviewing.phase = phase) :
    { reviewing with phase := phase } = reviewing := by
  rw [← stage]

/-- A step writes nothing, or is the undo, or is the decision. -/
theorem advance_cases (position : Nat) (file : VolunteerFile) (fit : reviewing.Fit) :
    (¬reviewing.Reverts file ∧ ¬reviewing.Decides ∧
      ∃ phase, reviewing.advance position file = ({ reviewing with phase := phase }, file) ∧
        phase.answer = reviewing.phase.answer ∧ phase.hasReverted = reviewing.hasReverted ∧
        (phase = .checked → reviewing.request.check reviewing.loaded = .ok ()) ∧
        ∀ refusal, phase = .refused refusal →
          reviewing.request.check reviewing.loaded ≠ .ok ()) ∨
      (reviewing.Reverts file ∧ reviewing.hasDecided = false ∧ reviewing.hasReverted = false ∧
        ∃ resyncs outcome after, reviewing.advance position file =
            ({ reviewing with phase := .reverted resyncs outcome }, after) ∧
          after.reviewItems = file.reviewItems) ∨
      (reviewing.Decides ∧ reviewing.hasDecided = false ∧
        ∃ phase after,
          reviewing.advance position file = ({ reviewing with phase := phase }, after) ∧
          phase.answer = some reviewing.request.verdict.status ∧
          phase.hasReverted = reviewing.hasReverted ∧
          after.reviewItems = file.reviewItems.modify position reviewing.request.decided) := by
  have still : ∀ {phase : Phase}, reviewing.phase = phase → phase ≠ .checked →
      ¬reviewing.Reverts file := by
    rintro _ stage other ⟨checked, _⟩
    exact other (stage.symm.trans checked)
  have undecided : ∀ {phase : Phase}, reviewing.phase = phase → phase ≠ .checked →
      (∀ resyncs outcome, phase ≠ .reverted resyncs outcome) → ¬reviewing.Decides := by
    rintro _ stage other none_ (⟨checked, _⟩ | ⟨resyncs, outcome, reverted⟩)
    · exact other (stage.symm.trans checked)
    · exact none_ resyncs outcome (stage.symm.trans reverted)
  unfold advance
  cases stage : reviewing.phase with
  | loaded =>
      refine .inl ⟨still stage nofun, undecided stage nofun nofun, ?_⟩
      have notUndone : reviewing.hasReverted = false := by simp [hasReverted, stage,
        Phase.hasReverted]
      cases result : reviewing.request.check reviewing.loaded with
      | ok done => exact ⟨.checked, rfl, rfl, notUndone.symm, fun _ => rfl, nofun⟩
      | error refusal => exact ⟨.refused refusal, rfl, rfl, notUndone.symm, nofun, nofun⟩
  | checked =>
      have checked := fit.checked stage
      have notYet : reviewing.hasDecided = false := by simp [hasDecided, Phase.hasDecided, stage,
        Phase.answer]
      have notUndone : reviewing.hasReverted = false := by simp [hasReverted, stage,
        Phase.hasReverted]
      cases verdict : reviewing.request.verdict with
      | affirm =>
          have fits := DecisionRequest.decide_ok_iff checked
          dsimp only
          cases taken : reviewing.request.decide reviewing.loaded with
          | ok after =>
              refine .inr (.inr ⟨.inl ⟨stage, verdict, fits.mp ⟨after, taken⟩⟩, notYet, .affirmed,
                _, rfl, rfl, notUndone.symm, rfl⟩)
          | error refusal =>
              refine .inl ⟨fun reverts => reverts.2.1 verdict, ?_, .rolledBack refusal, rfl, rfl,
                notUndone.symm, nofun, nofun⟩
              rintro (⟨_, _, short⟩ | ⟨_, _, reverted⟩)
              · obtain ⟨after, taken'⟩ := fits.mpr short
                cases taken.symm.trans taken'
              · cases stage.symm.trans reverted
      | sendBack reason =>
          have fits := @undo_ok_iff reviewing file reason verdict checked
          have sends : reviewing.request.verdict ≠ .affirm := by
            rw [verdict]
            nofun
          dsimp only
          cases undone : reviewing.undo reason file with
          | ok result =>
              obtain ⟨work, outcome⟩ := result
              obtain ⟨short, undoable⟩ := fits.mp ⟨(work, outcome), undone⟩
              refine .inr (.inl ⟨⟨stage, sends, short, undoable⟩, notYet, notUndone, work.resyncs,
                outcome, work.file, rfl, ?_⟩)
              obtain ⟨_, reverted, success⟩ := bind_eq_ok_iff.mp undone
              obtain ⟨_, _, same⟩ := bind_eq_ok_iff.mp success
              cases same
              exact revert_reviewItems reverted
          | error refusal =>
              refine .inl ⟨?_, ?_, .rolledBack refusal, rfl, rfl, notUndone.symm, nofun, nofun⟩
              · rintro ⟨_, _, short, undoable⟩
                obtain ⟨result, undone'⟩ := fits.mpr ⟨short, undoable⟩
                cases undone.symm.trans undone'
              · rintro (⟨_, affirms, _⟩ | ⟨_, _, reverted⟩)
                · exact sends affirms
                · cases stage.symm.trans reverted
  | reverted resyncs outcome =>
      have sends : reviewing.request.verdict ≠ .affirm := by
        refine fit.undone ?_
        simp [hasReverted, stage, Phase.hasReverted]
      refine .inr (.inr ⟨.inr ⟨resyncs, outcome, stage⟩, ?_, .sentBack outcome, _, rfl, ?_, ?_, ?_⟩)
      · simp [hasDecided, Phase.hasDecided, stage, Phase.answer]
      · rw [Verdict.status_of_ne_affirm sends]
        rfl
      · simp [hasReverted, stage, Phase.hasReverted]
      · rw [commit_reviewItems]
        rfl
  | affirmed =>
      exact .inl ⟨still stage nofun, undecided stage nofun nofun, .affirmed,
        by rw [with_phase stage], rfl, by rw [hasReverted, stage], nofun, nofun⟩
  | sentBack outcome =>
      exact .inl ⟨still stage nofun, undecided stage nofun nofun, .sentBack outcome,
        by rw [with_phase stage], rfl, by rw [hasReverted, stage], nofun, nofun⟩
  | refused refusal =>
      exact .inl ⟨still stage nofun, undecided stage nofun nofun, .refused refusal,
        by rw [with_phase stage], rfl, by rw [hasReverted, stage], nofun,
        fun _ _ => fit.refused refusal stage⟩
  | rolledBack refusal =>
      exact .inl ⟨still stage nofun, undecided stage nofun nofun, .rolledBack refusal,
        by rw [with_phase stage], rfl, by rw [hasReverted, stage], nofun, nofun⟩

end Reviewing

/-! ## An uninterrupted request is the transaction -/

section Uninterrupted

variable {ambient : Ambient} {user : Core.User} {position : Nat} {file : VolunteerFile}
  {parties : List Reviewing}

theorem deskStep_last (position : Nat) (file : VolunteerFile) (parties : List Reviewing)
    (last : Reviewing) :
    deskStep position ⟨file, parties ++ [last]⟩ (.advance parties.length) =
      ⟨(last.advance position file).2, parties ++ [(last.advance position file).1]⟩ := by
  have found : (parties ++ [last])[parties.length]? = some last := List.getElem?_concat_length
  refine (Interleaved.step_advance found).trans ?_
  congr 1
  rw [List.set_append_right _ _ le_rfl, Nat.sub_self]
  rfl

theorem save_eq_set {request : DecisionRequest} {item : ReviewItem}
    (found : file.reviewItems[position]? = some item) :
    request.save position file =
      { file with reviewItems := file.reviewItems.set position (request.decided item) } := by
  unfold DecisionRequest.save
  congr 1
  refine List.ext_getElem? fun other => ?_
  rw [List.getElem?_modify, List.getElem?_set]
  by_cases same : position = other
  · subst same
    obtain ⟨within, rfl⟩ := List.getElem?_eq_some_iff.mp found
    simp [within]
  · simp [same]

/-- An affirmation that nobody interrupts is the transaction. -/
theorem uninterrupted_affirm {after : VolunteerFile}
    (success : affirm ambient user position file = .ok after) :
    (Machine.run (deskStep position) ⟨file, parties⟩
        [.join ⟨ambient, user, .affirm⟩, .advance parties.length,
          .advance parties.length]).store = after := by
  obtain ⟨item, found, allowed, short, rfl⟩ := affirm_eq_ok_iff.mp success
  have entered : enter position ⟨ambient, user, .affirm⟩ file =
      some ⟨⟨ambient, user, .affirm⟩, item, .loaded⟩ := by
    simp [enter, found]
  have checked : (DecisionRequest.mk ambient user .affirm).check item = .ok () := by
    exact bind_eq_ok_iff.mpr ⟨(), allowed, rfl⟩
  obtain ⟨decided, taken⟩ := (DecisionRequest.decide_ok_iff checked).mpr short
  rw [Machine.run_cons, deskStep, Interleaved.step_join entered, ← deskStep, Machine.run_cons,
    deskStep_last]
  simp only [Reviewing.advance, checked, Machine.run_cons, deskStep_last, taken, Machine.run_nil]
  exact save_eq_set found

/-- A send-back that nobody interrupts is the transaction, and the resyncs it queues. -/
theorem uninterrupted_sendBack {reason : String} {work : Work} {outcome : Outcome}
    (success : sendBack ambient user position reason file = .ok (work, outcome)) :
    (Machine.run (deskStep position) ⟨file, parties⟩
        [.join ⟨ambient, user, .sendBack reason⟩, .advance parties.length,
          .advance parties.length, .advance parties.length]).store = work.commit ambient := by
  obtain ⟨item, reverted, found, allowed, short, explained, undone, rfl⟩ :=
    sendBack_eq_ok_iff.mp success
  have entered : enter position ⟨ambient, user, .sendBack reason⟩ file =
      some ⟨⟨ambient, user, .sendBack reason⟩, item, .loaded⟩ := by
    simp [enter, found]
  have checked : (DecisionRequest.mk ambient user (.sendBack reason)).check item = .ok () := by
    obtain ⟨may, opened⟩ := requireReviewer_eq_ok_iff.mp allowed
    exact DecisionRequest.check_eq_ok_iff.mpr ⟨may, opened, fun _ => explained⟩
  obtain ⟨decided, taken⟩ := (DecisionRequest.decide_ok_iff checked).mpr short
  have undo : (Reviewing.mk ⟨ambient, user, .sendBack reason⟩ item .checked).undo reason file =
      .ok (reverted, outcome) := by
    exact bind_eq_ok_iff.mpr ⟨_, undone, bind_eq_ok_iff.mpr ⟨decided, taken, rfl⟩⟩
  rw [Machine.run_cons, deskStep, Interleaved.step_join entered, ← deskStep, Machine.run_cons,
    deskStep_last]
  simp only [Reviewing.advance, checked, Machine.run_cons, deskStep_last, undo, Machine.run_nil]
  have still : reverted.file.reviewItems[position]? = some item := by
    rw [revert_reviewItems undone]
    exact found
  rw [save_eq_set still]
  rfl

end Uninterrupted

/-! ## One decision -/

/-- One decision is taken: one request at most goes through and one undo at most runs, the stored
entry is as the request that was told so decided it, and is not affirmed once undone.  Whoever may
decide and is refused finds that somebody else has decided. -/
structure OneDecision (position : Nat) (desk : Desk) : Prop where
  decidedOnce : desk.parties.countP Reviewing.hasDecided ≤ 1
  revertedOnce : desk.parties.countP Reviewing.hasReverted ≤ 1
  stored : ∀ reviewing ∈ desk.parties, ∀ status, reviewing.phase.answer = some status →
    ∀ item, desk.store.reviewItems[position]? = some item →
      item = item.closed status (some reviewing.request.user) reviewing.request.verdict.reason
        reviewing.request.ambient.now
  neverBoth : ∀ item, desk.store.reviewItems[position]? = some item → item.status = .affirmed →
    desk.parties.countP Reviewing.hasReverted = 0
  answered : ∀ reviewing ∈ desk.parties, ∀ refusal, reviewing.phase = .refused refusal →
    mayReview reviewing.request.ambient.settings.administration reviewing.request.user
      reviewing.loaded = none →
    (reviewing.request.verdict ≠ .affirm →
      Text.isBlank reviewing.request.verdict.reason = false) →
    desk.parties.countP Reviewing.hasDecided = 1

/-- A request that undoes or decides finds the stored entry open, and undone by no other. -/
def FindsOpen (position : Nat) (desk : Desk) (turn : Turn DecisionRequest) : Prop :=
  ∀ index reviewing, turn = .advance index → desk.parties[index]? = some reviewing →
    reviewing.Reverts desk.store ∨ reviewing.Decides →
      (∃ item, desk.store.reviewItems[position]? = some item ∧ item.isOpen = true) ∧
        ∀ (other : Nat) (row : Reviewing), desk.parties[other]? = some row → other ≠ index →
          row.hasReverted = false

/-- What every interleaving keeps: the entry is open as long as nobody has decided it, and whoever
loaded it closed came after a decision. -/
structure Sound (position : Nat) (desk : Desk) : Prop where
  stored : ∃ item, desk.store.reviewItems[position]? = some item ∧
    (item.isOpen = true ↔ desk.parties.countP Reviewing.hasDecided = 0)
  loaded : ∀ reviewing ∈ desk.parties, reviewing.loaded.isOpen = false →
    0 < desk.parties.countP Reviewing.hasDecided
  fit : ∀ reviewing ∈ desk.parties, reviewing.Fit

theorem Sound.answered {position : Nat} {desk : Desk} (sound : Sound position desk)
    (once : desk.parties.countP Reviewing.hasDecided ≤ 1) {reviewing : Reviewing}
    (there : reviewing ∈ desk.parties) {refusal : Refusal}
    (refused : reviewing.phase = .refused refusal)
    (may : mayReview reviewing.request.ambient.settings.administration reviewing.request.user
      reviewing.loaded = none)
    (explained : reviewing.request.verdict ≠ .affirm →
      Text.isBlank reviewing.request.verdict.reason = false) :
    desk.parties.countP Reviewing.hasDecided = 1 := by
  have closed : reviewing.loaded.isOpen = false := by
    by_contra opened
    refine (sound.fit reviewing there).refused refusal refused ?_
    exact DecisionRequest.check_eq_ok_iff.mpr ⟨may, Bool.not_eq_false _ ▸ opened, explained⟩
  have some_ := sound.loaded reviewing there closed
  omega

section Step

variable {position index : Nat} {desk : Desk} {reviewing : Reviewing} {phase : Phase}
  {store : VolunteerFile}

theorem countP_decided (phase : Phase) (found : desk.parties[index]? = some reviewing) :
    (desk.parties.set index { reviewing with phase := phase }).countP Reviewing.hasDecided +
        reviewing.hasDecided.toNat =
      desk.parties.countP Reviewing.hasDecided + phase.hasDecided.toNat :=
  countP_set_eq _ found

theorem countP_reverted (phase : Phase) (found : desk.parties[index]? = some reviewing) :
    (desk.parties.set index { reviewing with phase := phase }).countP Reviewing.hasReverted +
        reviewing.hasReverted.toNat =
      desk.parties.countP Reviewing.hasReverted + phase.hasReverted.toNat :=
  countP_set_eq _ found

theorem hasDecided_iff {reviewing : Reviewing} :
    reviewing.hasDecided = true ↔ ∃ status, reviewing.phase.answer = some status :=
  Option.isSome_iff_exists

theorem modify_decided {request : DecisionRequest} {before : List ReviewItem} {item : ReviewItem}
    (found : before[position]? = some item) :
    (before.modify position request.decided)[position]? = some (request.decided item) := by
  rw [List.getElem?_modify_eq, found]
  rfl

theorem Sound.set (sound : Sound position desk) (found : desk.parties[index]? = some reviewing)
    (fit : Reviewing.Fit { reviewing with phase := phase })
    (grows : desk.parties.countP Reviewing.hasDecided ≤
      (desk.parties.set index { reviewing with phase := phase }).countP Reviewing.hasDecided)
    (stored : ∃ item, store.reviewItems[position]? = some item ∧
      (item.isOpen = true ↔ (desk.parties.set index { reviewing with phase := phase }).countP
        Reviewing.hasDecided = 0)) :
    Sound position ⟨store, desk.parties.set index { reviewing with phase := phase }⟩ := by
  refine ⟨stored, ?_, ?_⟩
  · intro row there closed
    refine Nat.lt_of_lt_of_le ?_ grows
    obtain there | rfl := List.mem_or_eq_of_mem_set there
    · exact sound.loaded row there closed
    · exact sound.loaded reviewing (List.mem_of_getElem? found) closed
  · intro row there
    obtain there | rfl := List.mem_or_eq_of_mem_set there
    · exact sound.fit row there
    · exact fit

theorem Sound.join (sound : Sound position desk) {request : DecisionRequest}
    (entered : enter position request desk.store = some reviewing) :
    reviewing.phase = .loaded ∧ Sound position ⟨desk.store, desk.parties ++ [reviewing]⟩ := by
  obtain ⟨item, found, rfl⟩ := Option.map_eq_some_iff.mp entered
  have same : (desk.parties ++ [Reviewing.mk request item .loaded]).countP Reviewing.hasDecided =
      desk.parties.countP Reviewing.hasDecided :=
    List.countP_append
  refine ⟨rfl, ?_, ?_, ?_⟩
  · rw [same]
    exact sound.stored
  · intro row there closed
    rw [same]
    obtain there | there := List.mem_append.mp there
    · exact sound.loaded row there closed
    · obtain rfl := List.mem_singleton.mp there
      obtain ⟨stored, found', opened⟩ := sound.stored
      obtain rfl := Option.some.inj (found.symm.trans found')
      have shut : item.isOpen = false := closed
      rw [shut] at opened
      exact Nat.pos_of_ne_zero fun none_ => Bool.false_ne_true (opened.mpr none_)
  · intro row there
    obtain there | there := List.mem_append.mp there
    · exact sound.fit row there
    · obtain rfl := List.mem_singleton.mp there
      exact ⟨nofun, nofun, nofun, nofun⟩

theorem sound_step (sound : Sound position desk) (turn : Turn DecisionRequest) :
    Sound position (deskStep position desk turn) := by
  unfold deskStep
  obtain ⟨same, _⟩ | ⟨request, reviewing, _, entered, moved⟩ |
      ⟨index, reviewing, _, found, moved⟩ :=
    Interleaved.step_cases (enter position) (fun reviewing => reviewing.advance position) desk turn
  · rwa [same]
  · rw [moved]
    exact (sound.join entered).2
  · rw [moved]
    have fit := sound.fit reviewing (List.mem_of_getElem? found)
    obtain ⟨item, stored, opened⟩ := sound.stored
    obtain ⟨_, _, phase, step, sameAnswer, sameUndone, checked, refused⟩ |
      ⟨reverts, notDecided, _, resyncs, outcome, after, step, sameItems⟩ |
      ⟨_, notDecided, phase, after, step, answer, sameUndone, written⟩ :=
      Reviewing.advance_cases position desk.store fit
    · have same := countP_decided phase found
      rw [show phase.hasDecided = reviewing.hasDecided by
        rw [Reviewing.hasDecided, Phase.hasDecided, Phase.hasDecided, sameAnswer],
        Nat.add_left_inj] at same
      rw [step]
      refine sound.set found ⟨checked, refused, ?_, ?_⟩ same.ge ⟨item, stored, ?_⟩
      · exact fun status told => fit.answered status (sameAnswer.symm.trans told)
      · exact fun undone => fit.undone (sameUndone.symm.trans undone)
      · rw [same]
        exact opened
    · have same := countP_decided (.reverted resyncs outcome) found
      rw [notDecided, show (Phase.reverted resyncs outcome).hasDecided = false from rfl,
        Nat.add_left_inj] at same
      rw [step]
      refine sound.set found ⟨nofun, nofun, nofun, fun _ => reverts.2.1⟩ same.ge ⟨item, ?_, ?_⟩
      · rw [sameItems]
        exact stored
      · rw [same]
        exact opened
    · have more := countP_decided phase found
      have decided : phase.hasDecided = true := by
        rw [Phase.hasDecided, answer]
        rfl
      rw [notDecided, decided, Bool.toNat_false, Bool.toNat_true, Nat.add_zero] at more
      rw [step]
      refine sound.set found ⟨?_, ?_, ?_, ?_⟩ (by omega) ⟨reviewing.request.decided item, ?_, ?_⟩
      · rintro rfl
        cases answer
      · rintro refusal rfl
        cases answer
      · exact fun status told => Option.some.inj (answer.symm.trans told)
      · exact fun undone => fit.undone (sameUndone.symm.trans undone)
      · rw [written]
        exact modify_decided stored
      · rw [more]
        simp only [Nat.add_eq_zero_iff, Nat.one_ne_zero, and_false, iff_false]
        cases verdict : reviewing.request.verdict <;>
          simp [DecisionRequest.decided, ReviewItem.closed, ReviewItem.isOpen, verdict,
            Verdict.status]

theorem findsOpen_iff (found : desk.parties[index]? = some reviewing)
    (writes : reviewing.Reverts desk.store ∨ reviewing.Decides) :
    FindsOpen position desk (.advance index) ↔
      (∃ item, desk.store.reviewItems[position]? = some item ∧ item.isOpen = true) ∧
        desk.parties.countP Reviewing.hasReverted = reviewing.hasReverted.toNat := by
  rw [countP_eq_own_iff found]
  constructor
  · exact fun opened => opened index reviewing rfl found writes
  · rintro opened other row ⟨⟩ found' _
    obtain rfl := Option.some.inj (found.symm.trans found')
    exact opened

theorem oneDecision_undo_iff (sound : Sound position desk) (good : OneDecision position desk)
    (found : desk.parties[index]? = some reviewing) (reverts : reviewing.Reverts desk.store)
    (notDecided : reviewing.hasDecided = false) (notUndone : reviewing.hasReverted = false)
    {resyncs : Nat} {outcome : Outcome} (sameItems : store.reviewItems = desk.store.reviewItems)
    (after : Sound position
      ⟨store, desk.parties.set index { reviewing with phase := .reverted resyncs outcome }⟩) :
    OneDecision position
        ⟨store, desk.parties.set index { reviewing with phase := .reverted resyncs outcome }⟩ ↔
      FindsOpen position desk (.advance index) := by
  rw [findsOpen_iff found (.inl reverts), notUndone, Bool.toNat_false]
  have decided := countP_decided (.reverted resyncs outcome) found
  rw [notDecided, show (Phase.reverted resyncs outcome).hasDecided = false from rfl,
    Nat.add_left_inj] at decided
  have undone := countP_reverted (.reverted resyncs outcome) found
  rw [notUndone, show (Phase.reverted resyncs outcome).hasReverted = true from rfl,
    Bool.toNat_false, Bool.toNat_true, Nat.add_zero] at undone
  obtain ⟨item, stored, opened⟩ := sound.stored
  constructor
  · intro better
    have once := better.revertedOnce
    rw [undone] at once
    have none_ : desk.parties.countP Reviewing.hasReverted = 0 := by omega
    refine ⟨⟨item, stored, ?_⟩, none_⟩
    rw [opened]
    by_contra some_
    obtain ⟨other, there, has⟩ := List.countP_pos_iff.mp (Nat.pos_of_ne_zero some_)
    obtain ⟨status, told⟩ := hasDecided_iff.mp has
    have never := List.countP_eq_zero.mp none_ other there
    have affirmed : other.phase = .affirmed := by
      cases stage : other.phase with
      | affirmed => rfl
      | sentBack => exact absurd (by rw [Reviewing.hasReverted, stage]; rfl) never
      | loaded | checked | reverted | refused | rolledBack =>
          rw [stage] at told
          cases told
    rw [affirmed] at told
    cases told
    have closed := good.stored other there .affirmed (by rw [affirmed]; rfl) item stored
    have zero := better.neverBoth item (by rw [sameItems]; exact stored) (by rw [closed]; rfl)
    rw [undone] at zero
    omega
  · rintro ⟨⟨item', stored', isOpen⟩, none_⟩
    obtain rfl := Option.some.inj (stored.symm.trans stored')
    have once : (desk.parties.set index
        { reviewing with phase := .reverted resyncs outcome }).countP Reviewing.hasDecided ≤ 1 := by
      rw [decided]
      exact good.decidedOnce
    refine ⟨once, ?_, ?_, ?_, ?_⟩
    · rw [undone, none_]
    · intro row there status told item' found'
      rw [sameItems] at found'
      obtain there | rfl := List.mem_or_eq_of_mem_set there
      · exact good.stored row there status told item' found'
      · cases told
    · intro item' found' affirmed
      rw [sameItems] at found'
      obtain rfl := Option.some.inj (stored.symm.trans found')
      rw [ReviewItem.isOpen, affirmed] at isOpen
      cases isOpen
    · intro row there refusal refused may explained
      exact after.answered once there refused may explained

theorem oneDecision_decide_iff (sound : Sound position desk) (good : OneDecision position desk)
    (found : desk.parties[index]? = some reviewing) (decides : reviewing.Decides)
    (notDecided : reviewing.hasDecided = false)
    (answer : phase.answer = some reviewing.request.verdict.status)
    (sameUndone : phase.hasReverted = reviewing.hasReverted)
    (written : store.reviewItems =
      desk.store.reviewItems.modify position reviewing.request.decided)
    (after : Sound position ⟨store, desk.parties.set index { reviewing with phase := phase }⟩) :
    OneDecision position ⟨store, desk.parties.set index { reviewing with phase := phase }⟩ ↔
      FindsOpen position desk (.advance index) := by
  rw [findsOpen_iff found (.inr decides)]
  have there := List.mem_of_getElem? found
  have fit := sound.fit reviewing there
  have decided := countP_decided phase found
  have isDecided : phase.hasDecided = true := by
    rw [Phase.hasDecided, answer]
    rfl
  rw [notDecided, isDecided, Bool.toNat_false, Bool.toNat_true, Nat.add_zero] at decided
  have undone := countP_reverted phase found
  rw [sameUndone, Nat.add_left_inj] at undone
  obtain ⟨item, stored, opened⟩ := sound.stored
  have now : store.reviewItems[position]? = some (reviewing.request.decided item) := by
    rw [written]
    exact modify_decided stored
  constructor
  · intro better
    have once := better.decidedOnce
    rw [decided] at once
    refine ⟨⟨item, stored, opened.mpr (by omega)⟩, ?_⟩
    cases own : reviewing.hasReverted with
    | true =>
        have some_ : 0 < desk.parties.countP Reviewing.hasReverted :=
          List.countP_pos_iff.mpr ⟨reviewing, there, own⟩
        have atMost := good.revertedOnce
        rw [Bool.toNat_true]
        omega
    | false =>
        have affirms : reviewing.request.verdict = .affirm := by
          obtain ⟨_, affirms, _⟩ | ⟨resyncs, outcome, stage⟩ := decides
          · exact affirms
          · rw [Reviewing.hasReverted, stage] at own
            cases own
        have status : (reviewing.request.decided item).status = .affirmed := by
          show reviewing.request.verdict.status = .affirmed
          rw [affirms]
          rfl
        have zero := better.neverBoth _ now status
        rw [undone] at zero
        exact zero
  · rintro ⟨⟨item', stored', isOpen⟩, alone⟩
    obtain rfl := Option.some.inj (stored.symm.trans stored')
    have none_ := opened.mp isOpen
    have once : (desk.parties.set index { reviewing with phase := phase }).countP
        Reviewing.hasDecided ≤ 1 := by
      rw [decided, none_]
    refine ⟨once, ?_, ?_, ?_, ?_⟩
    · rw [undone]
      exact good.revertedOnce
    · intro row there' status told item' found'
      obtain rfl := Option.some.inj (now.symm.trans found')
      obtain there' | rfl := List.mem_or_eq_of_mem_set there'
      · exact absurd (hasDecided_iff.mpr ⟨status, told⟩)
          (List.countP_eq_zero.mp none_ row there')
      · obtain rfl := Option.some.inj (answer.symm.trans told)
        rfl
    · intro item' found' affirmed
      obtain rfl := Option.some.inj (now.symm.trans found')
      have affirms : reviewing.request.verdict = .affirm := by
        by_contra sends
        have sent : reviewing.request.verdict.status = .affirmed := affirmed
        rw [Verdict.status_of_ne_affirm sends] at sent
        cases sent
      have own : reviewing.hasReverted = false := by
        by_contra has
        exact fit.undone (Bool.not_eq_false _ ▸ has) affirms
      rw [undone, alone, own]
      rfl
    · intro row there' refusal refused may explained
      exact after.answered once there' refused may explained

theorem oneDecision_step_iff (sound : Sound position desk) (good : OneDecision position desk)
    (turn : Turn DecisionRequest) :
    OneDecision position (deskStep position desk turn) ↔ FindsOpen position desk turn := by
  have after := sound_step sound turn
  unfold deskStep at after ⊢
  obtain ⟨same, nobody⟩ | ⟨request, reviewing, rfl, entered, moved⟩ |
    ⟨index, reviewing, rfl, found, moved⟩ :=
    Interleaved.step_cases (enter position) (fun reviewing => reviewing.advance position) desk turn
  · rw [same]
    exact ⟨fun _ index reviewing taken found => absurd found (nobody index reviewing taken),
      fun _ => good⟩
  · rw [moved] at after ⊢
    obtain ⟨stage, _⟩ := sound.join entered
    have silent : reviewing.phase.answer = none ∧ reviewing.hasReverted = false := by
      rw [Reviewing.hasReverted, stage]
      exact ⟨rfl, rfl⟩
    have decided : (desk.parties ++ [reviewing]).countP Reviewing.hasDecided =
        desk.parties.countP Reviewing.hasDecided := by
      rw [List.countP_append, List.countP_singleton, if_neg, Nat.add_zero]
      simp [Reviewing.hasDecided, Phase.hasDecided, silent.1]
    have undone : (desk.parties ++ [reviewing]).countP Reviewing.hasReverted =
        desk.parties.countP Reviewing.hasReverted := by
      rw [List.countP_append, List.countP_singleton, if_neg, Nat.add_zero]
      simp [silent.2]
    constructor
    · intro _ index reviewing taken
      cases taken
    refine fun _ => ⟨decided.le.trans good.decidedOnce, undone.le.trans good.revertedOnce, ?_, ?_,
      ?_⟩
    · intro row there status told
      obtain there | there := List.mem_append.mp there
      · exact good.stored row there status told
      · obtain rfl := List.mem_singleton.mp there
        rw [silent.1] at told
        cases told
    · intro item found affirmed
      exact undone.trans (good.neverBoth item found affirmed)
    · intro row there refusal refused may explained
      exact after.answered (decided.le.trans good.decidedOnce) there refused may explained
  · rw [moved] at after ⊢
    have fit := sound.fit reviewing (List.mem_of_getElem? found)
    obtain ⟨idle, silent, phase, step, sameAnswer, sameUndone, _⟩ |
      ⟨reverts, notDecided, notUndone, resyncs, outcome, store, step, sameItems⟩ |
      ⟨decides, notDecided, phase, store, step, answer, sameUndone, written⟩ :=
      Reviewing.advance_cases position desk.store fit
    · rw [step] at after ⊢
      have decided := countP_decided phase found
      rw [show phase.hasDecided = reviewing.hasDecided by
        rw [Reviewing.hasDecided, Phase.hasDecided, Phase.hasDecided, sameAnswer],
        Nat.add_left_inj] at decided
      have undone := countP_reverted phase found
      rw [sameUndone, Nat.add_left_inj] at undone
      constructor
      · rintro _ other row ⟨⟩ found' writes
        obtain rfl := Option.some.inj (found.symm.trans found')
        exact absurd writes (not_or.mpr ⟨idle, silent⟩)
      · intro _
        refine ⟨decided.le.trans good.decidedOnce, undone.le.trans good.revertedOnce, ?_, ?_, ?_⟩
        · intro row there status told
          obtain there | rfl := List.mem_or_eq_of_mem_set there
          · exact good.stored row there status told
          · exact good.stored reviewing (List.mem_of_getElem? found) status
              (sameAnswer.symm.trans told)
        · intro item found' affirmed
          exact undone.trans (good.neverBoth item found' affirmed)
        · intro row there refusal refused may explained
          exact after.answered (decided.le.trans good.decidedOnce) there refused may explained
    · rw [step] at after ⊢
      exact oneDecision_undo_iff sound good found reverts notDecided notUndone sameItems after
    · rw [step] at after ⊢
      exact oneDecision_decide_iff sound good found decides notDecided answer sameUndone written
        after

end Step

/-- Throughout an interleaving, one decision is taken exactly when every request that undoes or
decides finds the entry open and undone by no other. -/
theorem one_decision_iff {position : Nat} {file : VolunteerFile} {item : ReviewItem}
    (found : file.reviewItems[position]? = some item) (opened : item.isOpen = true)
    (turns : List (Turn DecisionRequest)) :
    Machine.Always (deskStep position) (OneDecision position) ⟨file, []⟩ turns ↔
      Machine.Guarded (deskStep position) (FindsOpen position) ⟨file, []⟩ turns := by
  refine Machine.always_iff_guarded (deskStep position) (FindsOpen position) (Sound position)
    (OneDecision position) (fun _ turn sound _ _ => sound_step sound turn)
    (fun _ turn sound good => oneDecision_step_iff sound good turn) ?_ ?_ turns
  · refine ⟨⟨item, found, by simp [opened]⟩, ?_, ?_⟩
    · intro reviewing there
      cases there
    · intro reviewing there
      cases there
  · refine ⟨Nat.zero_le _, Nat.zero_le _, ?_, fun _ _ _ => rfl, ?_⟩
    · intro reviewing there
      cases there
    · intro reviewing there
      cases there

namespace Sample

def recordedFile : VolunteerFile :=
  { VolunteerFile.opened VolunteerScreening.Sample.adult with
    requirementInstances := fun definition =>
      if definition = 1 then
        some { RequirementInstance.fresh with
          status := .complete
          completedOn := some (VolunteerScreening.Sample.january 9) }
      else none
    reviewItems := [VolunteerScreening.Sample.waitingEntry 2] }

def decisionOf (user : Core.User) (verdict : Verdict) : DecisionRequest where
  ambient := (VolunteerScreening.Sample.church VolunteerScreening.Sample.orientationOnly []).ambient
    (VolunteerScreening.Sample.visit 0) VolunteerScreening.Sample.ada
  user := user
  verdict := verdict

def affirming : DecisionRequest := decisionOf ⟨0, "Ada Stone", true⟩ .affirm

def sendingBack : DecisionRequest := decisionOf ⟨1, "Ben Field", true⟩ (.sendBack "Wrong person")

end Sample

/-- Somebody affirms the entry, and somebody else then comes too late. -/
theorem one_decision_in_turn :
    Machine.Always (deskStep 0) (OneDecision 0) ⟨Sample.recordedFile, []⟩
      [.join Sample.affirming, .advance 0, .advance 0, .join Sample.sendingBack, .advance 1] := by
  refine (@one_decision_iff 0 Sample.recordedFile _ rfl rfl _).mpr
    ⟨?_, ?_, ?_, ?_, ?_, trivial⟩
  · rintro _ _ ⟨⟩
  · rintro _ _ ⟨⟩ ⟨⟩ (⟨stage, _⟩ | ⟨stage, _⟩ | ⟨_, _, stage⟩) <;> cases stage
  · rintro _ _ ⟨⟩ found _
    refine ⟨⟨_, rfl, rfl⟩, ?_⟩
    rintro other row found' different
    cases other with
    | zero => exact absurd rfl different
    | succ other => cases found'
  · rintro _ _ ⟨⟩
  · rintro _ _ ⟨⟩ ⟨⟩ (⟨stage, _⟩ | ⟨stage, _⟩ | ⟨_, _, stage⟩) <;> cases stage

/-- Two administrators load the entry open: one sends it back and its record is undone, the other
affirms it, and both are told so. -/
theorem both_decisions_go_through :
    let desk := Machine.run (deskStep 0) ⟨Sample.recordedFile, []⟩
      [.join Sample.sendingBack, .join Sample.affirming, .advance 0, .advance 1, .advance 0,
        .advance 0, .advance 1]
    desk.parties.map (·.phase.answer) = [some .sentBack, some .affirmed] ∧
      desk.store.reviewItems.map (·.status) = [.affirmed] ∧
      (desk.store.requirementInstances 1).map (·.status) = some .notStarted := by
  decide +kernel

end VolunteerScreening.Review
