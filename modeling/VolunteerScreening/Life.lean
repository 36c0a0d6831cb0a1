import VolunteerScreening.Core.Tasks
import VolunteerScreening.Effects
import VolunteerScreening.Library.Tables

/-!
# The life of a church

Its administrators make requests in any order, and every night a sweep goes as
far as it comes.  Whatever happens to a volunteer's file happens in elementary
changes: a transaction, a link to an account, a sync, or one write of a sweep.
What each of them keeps, a church keeps over its whole life.
-/

namespace VolunteerScreening

open Calendar Org Requirements

/-- What happens to a church: a visitor's request, or a nightly sweep and how many of its writes it
comes to. -/
inductive ChurchEvent where
  | request (visit : Visit) (request : ChurchRequest)
  | night (asOf : Date) (writes : Nat)

def lifeStep (church : Church) : ChurchEvent → Church
  | .request visit request => requestStep church (visit, request)
  | .night asOf writes => Core.sweptUpTo church asOf writes

inductive FileChange (file : VolunteerFile) : VolunteerFile → Prop where
  | performed {ambient : Ambient} {operation : Operation} {work : Work}
      (success : perform ambient operation file = .ok work) : FileChange file work.file
  | linked (subject : Pk) :
      FileChange file { file with
        volunteer := Volunteer.deriveBirth { file.volunteer with userId := some subject } }
  | synced (settings : Settings) (asOf : Date) : FileChange file (synced settings asOf file)
  | swept (settings : Settings) (asOf : Date) (write : Core.SweepStep) :
      FileChange file (Core.sweepStep settings asOf file write)

/-- A file as it is opened: nothing is recorded, and nobody is barred. -/
structure NewFile (file : VolunteerFile) : Prop where
  free : file.volunteer.screeningBlock = .none
  unrecorded : file.volunteer.screeningBlockRecordedAt = none
  blank : file = { VolunteerFile.opened file.volunteer with assignments := file.assignments }

theorem sweepStep_eq (settings : Settings) (asOf : Date) (file : VolunteerFile)
    (write : Core.SweepStep) :
    Core.sweepStep settings asOf file write = { file with
      requirementInstances := (Core.sweepStep settings asOf file write).requirementInstances } := by
  unfold Core.sweepStep
  cases write with
  | sync =>
      dsimp only
      split <;> rfl
  | ageScan definition =>
      dsimp only
      split
      · rfl
      · split <;> rfl
  | recompute definition =>
      dsimp only
      split
      · rfl
      · split <;> rfl

section Changes

open Relation

variable {file after : VolunteerFile}

theorem changes_commit (ambient : Ambient) (work : Work) :
    ReflTransGen FileChange work.file (work.commit ambient) := by
  obtain ⟨file, resyncs⟩ := work
  induction resyncs generalizing file with
  | zero => exact .refl
  | succ resyncs inductionHypothesis =>
      rw [Work.commit_succ]
      exact .head (.synced ambient.settings ambient.today) (inductionHypothesis _)

theorem changes_of_effect {request : ChurchRequest} (effect : Effect request file after) :
    ReflTransGen FileChange file after := by
  cases effect with
  | kept => exact .refl
  | performed ambient operation work edits success =>
      exact .head (.performed success) (changes_commit ambient work)
  | linked ambient subject =>
      apply ReflTransGen.head (.linked subject)
      exact changes_commit ambient
        ((Work.start file).saveVolunteer { file.volunteer with userId := some subject })
  | resynced settings today => exact .single (.synced settings today)

theorem changes_of_created (created : Created file) :
    ∃ opened, NewFile opened ∧ ReflTransGen FileChange opened file := by
  cases created with
  | intake form assignment ambient work started =>
      let volunteer := (form.cleaned.applied Volunteer.blank).deriveBirth
      have block : volunteer.screeningBlock = .none := Volunteer.deriveBirth_screeningBlock _
      have recordedAt : volunteer.screeningBlockRecordedAt = none := by
        dsimp only [volunteer, Volunteer.deriveBirth]
        split <;> rfl
      refine ⟨{ VolunteerFile.opened volunteer with assignments := [assignment] },
        ⟨block, recordedAt, rfl⟩, ?_⟩
      apply ReflTransGen.head (.synced ambient.settings ambient.today)
      rw [← started]
      exact changes_commit ambient work
  | account firstName lastName subject => exact ⟨_, ⟨rfl, rfl, rfl⟩, .refl⟩

theorem changes_of_sweep (settings : Settings) (asOf : Date) (writes : List Core.SweepStep) :
    ReflTransGen FileChange file (Machine.run (Core.sweepStep settings asOf) file writes) := by
  induction writes generalizing file with
  | nil => exact .refl
  | cons write rest inductionHypothesis =>
      exact .head (.swept settings asOf write) inductionHypothesis

end Changes

section Steps

open Relation

variable {church : Church} {position : Nat} {file : VolunteerFile}

/-- A file stays in its place, and what happens to it happens in elementary changes. -/
theorem lifeStep_file (found : church.files[position]? = some file) (event : ChurchEvent) :
    ∃ later, (lifeStep church event).files[position]? = some later ∧
      ReflTransGen FileChange file later := by
  cases event with
  | night asOf writes =>
      have swept := @Core.sweptUpTo_file church asOf writes position
      rw [found, Option.map_some] at swept
      exact ⟨_, swept, changes_of_sweep church.settings asOf _⟩
  | request visit request =>
      cases answered : church.answer visit request with
      | error refusal =>
          refine ⟨file, ?_, .refl⟩
          rw [lifeStep, requestStep, Machine.attempt_error answered]
          exact found
      | ok after =>
          obtain ⟨later, placed, effect⟩ := (answer_effects answered).files position file found
          refine ⟨later, ?_, changes_of_effect effect⟩
          rw [lifeStep, requestStep, Machine.attempt_ok answered]
          exact placed

theorem lifeStep_new {event : ChurchEvent}
    (found : (lifeStep church event).files[position]? = some file)
    (missing : church.files[position]? = none) :
    ∃ opened, NewFile opened ∧ ReflTransGen FileChange opened file := by
  cases event with
  | night asOf writes =>
      dsimp only [lifeStep] at found
      rw [Core.sweptUpTo_file, missing] at found
      cases found
  | request visit request =>
      cases answered : church.answer visit request with
      | error refusal =>
          rw [lifeStep, requestStep, Machine.attempt_error answered, missing] at found
          cases found
      | ok after =>
          rw [lifeStep, requestStep, Machine.attempt_ok answered] at found
          exact changes_of_created ((answer_effects answered).created position file found missing)

/-- What every elementary change makes of a file, a church's life makes of its files. -/
theorem life_retains {may : VolunteerFile → VolunteerFile → Prop} (refl : ∀ file, may file file)
    (trans : ∀ {first second third}, may first second → may second third → may first third)
    (changed : ∀ before after, FileChange before after → may before after) (church : Church)
    (events : List ChurchEvent) :
    Machine.Throughout lifeStep
      (fun earlier later => Tables.Retains may earlier.files later.files) church events := by
  apply Machine.throughout_of_forall
  · exact fun state => .refl refl state.files
  · exact fun early late => early.trans trans late
  · intro state event position file found
    obtain ⟨later, placed, changes⟩ := lifeStep_file found event
    refine ⟨later, placed, ?_⟩
    clear placed
    induction changes with
    | refl => exact refl file
    | tail _ change inductionHypothesis => exact trans inductionHypothesis (changed _ _ change)

/-- What holds of new files and is kept by every elementary change holds of every file of a church
over its whole life. -/
theorem life_always {invariant : VolunteerFile → Prop}
    (opened : ∀ file, NewFile file → invariant file)
    (changed : ∀ before after, FileChange before after → invariant before → invariant after)
    {church : Church} (empty : church.files = []) (events : List ChurchEvent) :
    Machine.Always lifeStep (fun church => ∀ file ∈ church.files, invariant file) church
      events := by
  have steps : ∀ {before after : VolunteerFile}, ReflTransGen FileChange before after →
      invariant before → invariant after := by
    intro before after changes holds
    induction changes with
    | refl => exact holds
    | tail _ change inductionHypothesis => exact changed _ _ change inductionHypothesis
  apply Machine.always_of_preserved
  · intro state event sound file listed
    obtain ⟨position, found⟩ := List.mem_iff_getElem?.mp listed
    cases before : state.files[position]? with
    | none =>
        obtain ⟨first, new, changes⟩ := lifeStep_new found before
        exact steps changes (opened first new)
    | some earlier =>
        obtain ⟨later, placed, changes⟩ := lifeStep_file before event
        obtain rfl := Option.some.inj (placed.symm.trans found)
        exact steps changes (sound earlier (List.mem_of_getElem? before))
  · intro file listed
    rw [empty] at listed
    cases listed

end Steps

end VolunteerScreening
