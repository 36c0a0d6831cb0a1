import Mathlib.Logic.Function.Basic
import Mathlib.Data.List.Nodup

/-!
# One pass over a keyed store

A sweep visits a list of items and rewrites each item's value from the store as
it stands at that item's turn.  When no key is visited twice, the value a sweep
leaves at a key is the one written at its turn, from a store in which the keys
visited before are already final and the rest are untouched.
-/

namespace VolunteerScreening.Sweep

universe u v w

variable {Item : Type u} {Key : Type v} {Value : Type w} [DecidableEq Key]
variable (key : Item → Key) (turn : (Key → Value) → Item → Value)

/-- Visit the items in order, rewriting each one's value from the store as it then stands. -/
def sweep (store : Key → Value) (items : List Item) : Key → Value :=
  items.foldl (fun store item => Function.update store (key item) (turn store item)) store

@[simp]
theorem sweep_nil (store : Key → Value) : sweep key turn store [] = store := rfl

@[simp]
theorem sweep_cons (store : Key → Value) (item : Item) (rest : List Item) :
    sweep key turn store (item :: rest) =
      sweep key turn (Function.update store (key item) (turn store item)) rest := rfl

theorem sweep_append (store : Key → Value) (first rest : List Item) :
    sweep key turn store (first ++ rest) = sweep key turn (sweep key turn store first) rest :=
  List.foldl_append

theorem sweep_of_not_mem (store : Key → Value) {items : List Item} {target : Key}
    (absent : target ∉ items.map key) : sweep key turn store items target = store target := by
  induction items generalizing store with
  | nil => rfl
  | cons head rest inductionHypothesis =>
      simp only [List.map_cons, List.mem_cons, not_or] at absent
      rw [sweep_cons, inductionHypothesis _ absent.2, Function.update_of_ne absent.1]

theorem sweep_at (store : Key → Value) {first rest : List Item} {item : Item}
    (notLater : key item ∉ rest.map key) :
    sweep key turn store (first ++ item :: rest) (key item) =
      turn (sweep key turn store first) item := by
  rw [sweep_append, sweep_cons, sweep_of_not_mem key turn _ notLater, Function.update_self]

/-- A key visited early already has its final value. -/
theorem sweep_earlier (store : Key → Value) {first rest : List Item} {target : Key}
    (notLater : target ∉ rest.map key) :
    sweep key turn store (first ++ rest) target = sweep key turn store first target := by
  rw [sweep_append, sweep_of_not_mem key turn _ notLater]

end VolunteerScreening.Sweep
