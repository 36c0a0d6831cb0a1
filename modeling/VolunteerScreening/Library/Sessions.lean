import VolunteerScreening.Library.Machine

/-!
# Sessions over a shared store

A session loads the store, may look at it again, and finishes later by writing
to whatever the store has become.  Sessions interleave in any order, and no lock
is held between a session's load and its finish.
-/

namespace VolunteerScreening

universe u v

/-- A session under way: what it was asked, the store as it loaded it, and the store as it last
looked at it. -/
structure Session (Store : Type u) (Request : Type v) where
  request : Request
  loaded : Store
  seen : Store

/-- A shared store and the sessions that have begun; a finished one is `none`. -/
structure SharedStore (Store : Type u) (Request : Type v) where
  store : Store
  sessions : List (Option (Session Store Request))

inductive SessionMove (Request : Type v) where
  | load (request : Request)
  | look (session : Nat)
  | finish (session : Nat)

namespace SharedStore

variable {Store : Type u} {Request : Type v}
  (finishing : Session Store Request → Store → Store)

def step (shared : SharedStore Store Request) (move : SessionMove Request) :
    SharedStore Store Request :=
  match move with
  | .load request =>
      { shared with
        sessions := shared.sessions ++ [some ⟨request, shared.store, shared.store⟩] }
  | .look session =>
      { shared with
        sessions := shared.sessions.modify session fun begun =>
          begun.map fun under => { under with seen := shared.store } }
  | .finish session =>
      match shared.sessions[session]? with
      | some (some under) => ⟨finishing under shared.store, shared.sessions.set session none⟩
      | _ => shared

def Quiet (shared : SharedStore Store Request) : Prop :=
  ∀ begun ∈ shared.sessions, begun = none

def onFinish (guard : Session Store Request → Store → Prop) (shared : SharedStore Store Request)
    (move : SessionMove Request) : Prop :=
  ∀ session under, move = .finish session → shared.sessions[session]? = some (some under) →
    guard under shared.store

/-- Only a finish writes to the store. -/
theorem step_store (shared : SharedStore Store Request) (move : SessionMove Request) :
    (step finishing shared move).store = shared.store ∨
      ∃ session under, move = .finish session ∧ shared.sessions[session]? = some (some under) ∧
        (step finishing shared move).store = finishing under shared.store := by
  cases move with
  | load request => exact .inl rfl
  | look session => exact .inl rfl
  | finish session =>
      rcases begun : shared.sessions[session]? with _ | _ | under
      · exact .inl (by simp [step, begun])
      · exact .inl (by simp [step, begun])
      · exact .inr ⟨session, under, rfl, begun, by simp [step, begun]⟩

/-- What every guarded finish keeps of the store holds throughout a guarded interleaving. -/
theorem always_of_finishing (guard : Session Store Request → Store → Prop)
    (invariant : Store → Prop)
    (preserved : ∀ under store, invariant store → guard under store →
      invariant (finishing under store))
    {start : SharedStore Store Request} (holds : invariant start.store)
    {moves : List (SessionMove Request)}
    (guarded : Machine.Guarded (step finishing) (onFinish guard) start moves) :
    Machine.Always (step finishing) (fun shared => invariant shared.store) start moves := by
  refine Machine.always_of_guarded (step finishing) (onFinish guard) _ ?_ holds guarded
  intro shared move here meets
  obtain same | ⟨session, under, finishes, begun, written⟩ := step_store finishing shared move
  · rwa [same]
  · rw [written]
    exact preserved under shared.store here (meets session under finishes begun)

end SharedStore

end VolunteerScreening
