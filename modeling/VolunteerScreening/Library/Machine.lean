import Mathlib.Data.List.Basic

/-!
# Runs of a machine

A machine is a step function on states.  `Always` speaks of every state a run
passes through and `Guarded` of every step it takes; the rules below turn what
one step preserves into what a whole run preserves.  `attempt` is a step that
is undone whole when it fails, and `stepAt` runs many copies of one machine
side by side.
-/

namespace VolunteerScreening.Machine

universe u v w

variable {State : Type u} {Action : Type v}

def run (step : State → Action → State) (start : State) (actions : List Action) : State :=
  actions.foldl step start

@[simp]
theorem run_nil (step : State → Action → State) (start : State) : run step start [] = start := rfl

@[simp]
theorem run_cons (step : State → Action → State) (start : State) (action : Action)
    (rest : List Action) :
    run step start (action :: rest) = run step (step start action) rest := rfl

theorem run_append (step : State → Action → State) (start : State) (first rest : List Action) :
    run step start (first ++ rest) = run step (run step start first) rest :=
  List.foldl_append

theorem run_preserves (step : State → Action → State) (invariant : State → Prop)
    (preserved : ∀ state action, invariant state → invariant (step state action))
    {start : State} (holds : invariant start) (actions : List Action) :
    invariant (run step start actions) := by
  induction actions generalizing start with
  | nil => exact holds
  | cons action rest inductionHypothesis =>
      exact inductionHypothesis (preserved start action holds)

theorem run_relates (step : State → Action → State) (invariant : State → Prop)
    (relation : State → State → Prop) (refl : ∀ state, relation state state)
    (trans : ∀ first second third, relation first second → relation second third →
      relation first third)
    (preserved : ∀ state action, invariant state → invariant (step state action))
    (related : ∀ state action, invariant state → relation state (step state action))
    {start : State} (holds : invariant start) (actions : List Action) :
    relation start (run step start actions) := by
  induction actions generalizing start with
  | nil => exact refl start
  | cons action rest inductionHypothesis =>
      exact trans _ _ _ (related start action holds)
        (inductionHypothesis (preserved start action holds))

/-- Where each later step makes up for the earlier ones, a run leaves what its last step alone
does.  The invariant speaks of a state as of the latest step so far. -/
theorem run_eq_last [LE Action] (step : State → Action → State)
    (invariant : Action → State → Prop)
    (preserved : ∀ state latest action, invariant latest state → latest ≤ action →
      invariant action (step state action))
    (absorbed : ∀ state latest first second, invariant latest state → latest ≤ first →
      first ≤ second → step (step state first) second = step state second)
    {start : State} {latest : Action} (holds : invariant latest start) {earlier : List Action}
    {last : Action} (ordered : (latest :: (earlier ++ [last])).Pairwise (· ≤ ·)) :
    run step start (earlier ++ [last]) = step start last := by
  induction earlier generalizing start latest with
  | nil => rfl
  | cons action rest inductionHypothesis =>
      obtain ⟨after, ordered⟩ := List.pairwise_cons.mp ordered
      have now : latest ≤ action := after action List.mem_cons_self
      have final : action ≤ last := (List.pairwise_cons.mp ordered).1 last (by simp)
      rw [List.cons_append, run_cons,
        inductionHypothesis (preserved start latest action holds now) ordered]
      exact absorbed start latest action last holds now final

def Always (step : State → Action → State) (property : State → Prop) :
    State → List Action → Prop
  | state, [] => property state
  | state, action :: rest => property state ∧ Always step property (step state action) rest

/-- A condition that every step of a run meets in the state it is taken from. -/
def Guarded (step : State → Action → State) (guard : State → Action → Prop) :
    State → List Action → Prop
  | _, [] => True
  | state, action :: rest => guard state action ∧ Guarded step guard (step state action) rest

@[simp]
theorem always_nil (step : State → Action → State) (property : State → Prop) (state : State) :
    Always step property state [] ↔ property state := Iff.rfl

@[simp]
theorem always_cons (step : State → Action → State) (property : State → Prop) (state : State)
    (action : Action) (rest : List Action) :
    Always step property state (action :: rest) ↔
      property state ∧ Always step property (step state action) rest := Iff.rfl

@[simp]
theorem guarded_nil (step : State → Action → State) (guard : State → Action → Prop)
    (state : State) : Guarded step guard state [] := trivial

@[simp]
theorem guarded_cons (step : State → Action → State) (guard : State → Action → Prop)
    (state : State) (action : Action) (rest : List Action) :
    Guarded step guard state (action :: rest) ↔
      guard state action ∧ Guarded step guard (step state action) rest := Iff.rfl

theorem guarded_append {step : State → Action → State} {guard : State → Action → Prop}
    {start : State} {first rest : List Action} :
    Guarded step guard start (first ++ rest) ↔
      Guarded step guard start first ∧ Guarded step guard (run step start first) rest := by
  induction first generalizing start with
  | nil => exact ⟨fun guarded => ⟨trivial, guarded⟩, And.right⟩
  | cons action first inductionHypothesis =>
      rw [List.cons_append, guarded_cons, guarded_cons, inductionHypothesis, and_assoc]
      rfl

theorem Always.start {step : State → Action → State} {property : State → Prop} {state : State}
    {actions : List Action} (always : Always step property state actions) : property state := by
  cases actions with
  | nil => exact always
  | cons action rest => exact always.1

/-- An invariant that every step preserves holds throughout a run. -/
theorem always_of_preserved (step : State → Action → State) (invariant : State → Prop)
    (preserved : ∀ state action, invariant state → invariant (step state action))
    {start : State} (holds : invariant start) (actions : List Action) :
    Always step invariant start actions := by
  induction actions generalizing start with
  | nil => exact holds
  | cons action rest inductionHypothesis =>
      exact ⟨holds, inductionHypothesis (preserved start action holds)⟩

/-- An invariant that guarded steps preserve holds throughout a guarded run. -/
theorem always_of_guarded (step : State → Action → State) (guard : State → Action → Prop)
    (invariant : State → Prop)
    (preserved : ∀ state action, invariant state → guard state action →
      invariant (step state action))
    {start : State} (holds : invariant start) {actions : List Action}
    (guarded : Guarded step guard start actions) : Always step invariant start actions := by
  induction actions generalizing start with
  | nil => exact holds
  | cons action rest inductionHypothesis =>
      exact ⟨holds, inductionHypothesis (preserved start action holds guarded.1) guarded.2⟩

/-- A condition on the actions alone is met by a run when each of its actions meets it. -/
theorem guarded_of_forall {step : State → Action → State} {guard : Action → Prop}
    {actions : List Action} (each : ∀ action ∈ actions, guard action) (start : State) :
    Guarded step (fun _ => guard) start actions := by
  induction actions generalizing start with
  | nil => exact trivial
  | cons action rest inductionHypothesis =>
      exact ⟨each action List.mem_cons_self,
        inductionHypothesis (fun later listed => each later (List.mem_cons_of_mem _ listed)) _⟩

/-- Steps that meet one condition in sound states meet another throughout the run. -/
theorem guarded_of_guarded (step : State → Action → State) (guard law : State → Action → Prop)
    (invariant : State → Prop)
    (preserved : ∀ state action, invariant state → guard state action →
      invariant (step state action))
    (implies : ∀ state action, invariant state → guard state action → law state action)
    {start : State} (holds : invariant start) {actions : List Action}
    (guarded : Guarded step guard start actions) : Guarded step law start actions := by
  induction actions generalizing start with
  | nil => exact trivial
  | cons action rest inductionHypothesis =>
      exact ⟨implies start action holds guarded.1,
        inductionHypothesis (preserved start action holds guarded.1) guarded.2⟩

theorem guarded_congr (step : State → Action → State) {first second : State → Action → Prop}
    (invariant : State → Prop)
    (preserved : ∀ state action, invariant state → invariant (step state action))
    (same : ∀ state action, invariant state → (first state action ↔ second state action))
    {start : State} (holds : invariant start) (actions : List Action) :
    Guarded step first start actions ↔ Guarded step second start actions := by
  induction actions generalizing start with
  | nil => rfl
  | cons action rest inductionHypothesis =>
      rw [guarded_cons, guarded_cons, same start action holds,
        inductionHypothesis (preserved start action holds)]

/-- Where a good state stays good exactly when its step meets the guard, a run is good
throughout exactly when it is guarded throughout.  Good steps need to keep the invariant, and no
others. -/
theorem always_iff_guarded (step : State → Action → State) (guard : State → Action → Prop)
    (invariant property : State → Prop)
    (preserved : ∀ state action, invariant state → property state →
      property (step state action) → invariant (step state action))
    (characterises : ∀ state action, invariant state → property state →
      (property (step state action) ↔ guard state action))
    {start : State} (sound : invariant start) (good : property start) (actions : List Action) :
    Always step property start actions ↔ Guarded step guard start actions := by
  induction actions generalizing start with
  | nil => exact ⟨fun _ => trivial, fun _ => good⟩
  | cons action rest inductionHypothesis =>
      rw [always_cons, guarded_cons, ← characterises start action sound good]
      constructor
      · rintro ⟨_, later⟩
        have next := later.start
        have stillSound := preserved start action sound good next
        exact ⟨next, (inductionHypothesis stillSound next).mp later⟩
      · rintro ⟨next, later⟩
        have stillSound := preserved start action sound good next
        exact ⟨good, (inductionHypothesis stillSound next).mpr later⟩

theorem Always.imp {step : State → Action → State} {property conclusion : State → Prop}
    (implies : ∀ state, property state → conclusion state) {start : State}
    {actions : List Action} (always : Always step property start actions) :
    Always step conclusion start actions := by
  induction actions generalizing start with
  | nil => exact implies _ always
  | cons action rest inductionHypothesis =>
      exact ⟨implies _ always.1, inductionHypothesis always.2⟩

theorem Always.run_prefix {step : State → Action → State} {property : State → Prop}
    {start : State} {first rest : List Action}
    (always : Always step property start (first ++ rest)) : property (run step start first) := by
  induction first generalizing start with
  | nil => exact always.start
  | cons action first inductionHypothesis => exact inductionHypothesis always.2

theorem Always.run {step : State → Action → State} {property : State → Prop} {start : State}
    {actions : List Action} (always : Always step property start actions) :
    property (Machine.run step start actions) := by
  rw [← List.append_nil actions] at always
  exact always.run_prefix

/-- A relation between each state a run passes through and every later one. -/
def Throughout (step : State → Action → State) (relation : State → State → Prop)
    (start : State) (actions : List Action) : Prop :=
  ∀ earlier later rest, earlier ++ (later ++ rest) = actions →
    relation (run step start earlier) (run step (run step start earlier) later)

/-- A run relates each state to every later one when each step does. -/
theorem throughout_iff_guarded (step : State → Action → State) (relation : State → State → Prop)
    (refl : ∀ state, relation state state)
    (trans : ∀ {first second third}, relation first second → relation second third →
      relation first third) (start : State) (actions : List Action) :
    Throughout step relation start actions ↔
      Guarded step (fun state action => relation state (step state action)) start actions := by
  constructor
  · intro related
    induction actions generalizing start with
    | nil => trivial
    | cons action rest inductionHypothesis =>
        refine ⟨related [] [action] rest rfl, inductionHypothesis _ ?_⟩
        intro earlier later remaining split
        exact related (action :: earlier) later remaining (congrArg (action :: ·) split)
  · rintro guarded earlier later rest rfl
    induction earlier generalizing start with
    | cons action earlier inductionHypothesis => exact inductionHypothesis _ guarded.2
    | nil =>
        induction later generalizing start with
        | nil => exact refl start
        | cons action later inductionHypothesis =>
            exact trans guarded.1 (inductionHypothesis _ guarded.2)

/-- A run relates each state to every later one when each step does from whatever state. -/
theorem throughout_of_forall {step : State → Action → State} {relation : State → State → Prop}
    (refl : ∀ state, relation state state)
    (trans : ∀ {first second third}, relation first second → relation second third →
      relation first third) (related : ∀ state action, relation state (step state action))
    (start : State) (actions : List Action) : Throughout step relation start actions := by
  rw [throughout_iff_guarded step relation refl trans]
  induction actions generalizing start with
  | nil => trivial
  | cons action rest inductionHypothesis =>
      exact ⟨related start action, inductionHypothesis (step start action)⟩

/-! ## Operations that are undone whole when they fail -/

section Attempt

variable {Failure : Type w}

def attempt (operation : State → Except Failure State) (state : State) : State :=
  match operation state with
  | .ok after => after
  | .error _ => state

theorem attempt_ok {operation : State → Except Failure State} {state after : State}
    (succeeds : operation state = .ok after) : attempt operation state = after := by
  simp [attempt, succeeds]

theorem attempt_error {operation : State → Except Failure State} {state : State}
    {failure : Failure} (fails : operation state = .error failure) :
    attempt operation state = state := by
  simp [attempt, fails]

/-- What holds before an operation and after each success holds after the attempt. -/
theorem attempt_induction {operation : State → Except Failure State} {state : State}
    {motive : State → Prop} (unchanged : motive state)
    (succeeds : ∀ after, operation state = .ok after → motive after) :
    motive (attempt operation state) := by
  cases result : operation state with
  | ok after => rw [attempt_ok result]; exact succeeds after result
  | error failure => rw [attempt_error result]; exact unchanged

end Attempt

/-! ## Many copies side by side -/

section Components

variable (step : State → Action → State)

/-- One component takes a step; the others stay as they are. -/
def stepAt (states : List State) (action : Nat × Action) : List State :=
  states.modify action.1 (step · action.2)

/-- The actions of one component, in order. -/
def own (component : Nat) (actions : List (Nat × Action)) : List Action :=
  actions.filterMap fun action => if action.1 = component then some action.2 else none

def Each (property : State → Prop) (states : List State) : Prop :=
  ∀ (component : Nat) (state : State), states[component]? = some state → property state

def guardAt (guard : State → Action → Prop) (states : List State) (action : Nat × Action) : Prop :=
  ∀ state : State, states[action.1]? = some state → guard state action.2

@[simp]
theorem own_nil (component : Nat) : own component ([] : List (Nat × Action)) = [] := rfl

theorem own_cons_self (component : Nat) (action : Action) (rest : List (Nat × Action)) :
    own component ((component, action) :: rest) = action :: own component rest := by
  simp [own]

theorem own_cons_other {component mover : Nat} (other : mover ≠ component) (action : Action)
    (rest : List (Nat × Action)) :
    own component ((mover, action) :: rest) = own component rest := by
  simp [own, other]

theorem own_append (component : Nat) (first rest : List (Nat × Action)) :
    own component (first ++ rest) = own component first ++ own component rest :=
  List.filterMap_append

theorem own_round (component count : Nat) (action : Action) :
    own component ((List.range count).map fun mover => (mover, action)) =
      if component < count then [action] else [] := by
  induction count with
  | zero => rfl
  | succ count inductionHypothesis =>
      rw [List.range_succ, List.map_append, own_append, inductionHypothesis]
      rcases Nat.lt_trichotomy component count with before | rfl | after
      · rw [if_pos before, if_pos (Nat.lt_succ_of_lt before), List.map_singleton,
          own_cons_other (Nat.ne_of_gt before)]
        rfl
      · rw [if_neg (Nat.lt_irrefl _), if_pos (Nat.lt_succ_self _), List.map_singleton,
          own_cons_self]
        rfl
      · rw [if_neg (Nat.lt_asymm after), if_neg (Nat.not_lt.mpr after), List.map_singleton,
          own_cons_other (Nat.ne_of_lt after)]
        rfl

theorem own_rounds {component count : Nat} (within : component < count)
    (actions : List Action) :
    own component (actions.flatMap fun action =>
      (List.range count).map fun mover => (mover, action)) = actions := by
  induction actions with
  | nil => rfl
  | cons action actions inductionHypothesis =>
      rw [List.flatMap_cons, own_append, own_round, if_pos within, inductionHypothesis]
      rfl

theorem stepAt_getElem?_self (states : List State) (component : Nat) (action : Action) :
    (stepAt step states (component, action))[component]? =
      states[component]?.map (step · action) := by
  simp [stepAt]

theorem stepAt_getElem?_other (states : List State) {component mover : Nat}
    (other : mover ≠ component) (action : Action) :
    (stepAt step states (mover, action))[component]? = states[component]? := by
  simp [stepAt, other]

/-- A run of the whole is, in each component, the run of that component's own actions. -/
theorem run_stepAt_getElem? (states : List State) (actions : List (Nat × Action))
    (component : Nat) :
    (run (stepAt step) states actions)[component]? =
      states[component]?.map fun state => run step state (own component actions) := by
  induction actions generalizing states with
  | nil => simp
  | cons action rest inductionHypothesis =>
      obtain ⟨mover, action⟩ := action
      rw [run_cons, inductionHypothesis]
      by_cases same : mover = component
      · subst same
        rw [stepAt_getElem?_self, own_cons_self, Option.map_map]
        rfl
      · rw [stepAt_getElem?_other step states same, own_cons_other same]

theorem always_stepAt_iff (property : State → Prop) (states : List State)
    (actions : List (Nat × Action)) :
    Always (stepAt step) (Each property) states actions ↔
      ∀ (component : Nat) (state : State), states[component]? = some state →
        Always step property state (own component actions) := by
  induction actions generalizing states with
  | nil => rfl
  | cons action rest inductionHypothesis =>
      obtain ⟨mover, action⟩ := action
      rw [always_cons, inductionHypothesis]
      constructor
      · rintro ⟨here, later⟩ component state found
        by_cases same : mover = component
        · subst same
          rw [own_cons_self]
          refine ⟨here mover state found, later mover _ ?_⟩
          rw [stepAt_getElem?_self, found, Option.map_some]
        · rw [own_cons_other same]
          exact later component state (by rw [stepAt_getElem?_other step states same, found])
      · intro each
        refine ⟨fun component state found => (each component state found).start, ?_⟩
        intro component state found
        by_cases same : mover = component
        · subst same
          rw [stepAt_getElem?_self, Option.map_eq_some_iff] at found
          obtain ⟨before, foundBefore, rfl⟩ := found
          have always := each mover before foundBefore
          rw [own_cons_self] at always
          exact always.2
        · rw [stepAt_getElem?_other step states same] at found
          have always := each component state found
          rwa [own_cons_other same] at always

theorem guarded_stepAt_iff (guard : State → Action → Prop) (states : List State)
    (actions : List (Nat × Action)) :
    Guarded (stepAt step) (guardAt guard) states actions ↔
      ∀ (component : Nat) (state : State), states[component]? = some state →
        Guarded step guard state (own component actions) := by
  induction actions generalizing states with
  | nil => simp
  | cons action rest inductionHypothesis =>
      obtain ⟨mover, action⟩ := action
      rw [guarded_cons, inductionHypothesis]
      constructor
      · rintro ⟨here, later⟩ component state found
        by_cases same : mover = component
        · subst same
          rw [own_cons_self]
          refine ⟨here state found, later mover _ ?_⟩
          rw [stepAt_getElem?_self, found, Option.map_some]
        · rw [own_cons_other same]
          exact later component state (by rw [stepAt_getElem?_other step states same, found])
      · intro each
        constructor
        · intro state found
          have guarded := each mover state found
          rw [own_cons_self] at guarded
          exact guarded.1
        · intro component state found
          by_cases same : mover = component
          · subst same
            rw [stepAt_getElem?_self, Option.map_eq_some_iff] at found
            obtain ⟨before, foundBefore, rfl⟩ := found
            have guarded := each mover before foundBefore
            rw [own_cons_self] at guarded
            exact guarded.2
          · rw [stepAt_getElem?_other step states same] at found
            have guarded := each component state found
            rwa [own_cons_other same] at guarded

/-- A whole whose steps meet the guard keeps in each component what guarded steps keep. -/
theorem always_each_of_guarded (guard : State → Action → Prop) (invariant : State → Prop)
    (preserved : ∀ state action, invariant state → guard state action →
      invariant (step state action))
    {states : List State} (holds : Each invariant states) {actions : List (Nat × Action)}
    (guarded : Guarded (stepAt step) (guardAt guard) states actions) :
    Always (stepAt step) (Each invariant) states actions := by
  rw [guarded_stepAt_iff] at guarded
  rw [always_stepAt_iff]
  intro component state found
  exact always_of_guarded step guard invariant preserved (holds component state found)
    (guarded component state found)

/-- So a whole is good throughout exactly when every component's steps meet the guard. -/
theorem always_each_iff_guarded (guard : State → Action → Prop) (invariant property : State → Prop)
    (preserved : ∀ state action, invariant state → property state →
      property (step state action) → invariant (step state action))
    (characterises : ∀ state action, invariant state → property state →
      (property (step state action) ↔ guard state action))
    {states : List State} (sound : Each invariant states) (good : Each property states)
    (actions : List (Nat × Action)) :
    Always (stepAt step) (Each property) states actions ↔
      Guarded (stepAt step) (guardAt guard) states actions := by
  rw [always_stepAt_iff, guarded_stepAt_iff]
  refine forall_congr' fun component => forall_congr' fun state => forall_congr' fun found => ?_
  exact always_iff_guarded step guard invariant property preserved characterises
    (sound component state found) (good component state found) _

end Components

end VolunteerScreening.Machine
