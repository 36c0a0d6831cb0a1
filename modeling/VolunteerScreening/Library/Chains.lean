import Mathlib.Data.List.Chain
import Mathlib.Logic.Function.Basic
import Mathlib.Logic.Relation

/-!
# Rows that point at one another

Each row points at one other row at most.  The pointers are acyclic when no row
leads back to itself.  `comesBack` follows the pointers from a row for so many
rows at most and takes running out for a loop; `gather` collects the rows that
lead to some row, round by round.
-/

namespace VolunteerScreening.Chains

open Relation

universe u

variable {Key : Type u}

def Points (next : Key → Option Key) (key target : Key) : Prop := next key = some target

/-- Following the pointers from one row leads to another, or they are the same row. -/
abbrev Leads (next : Key → Option Key) : Key → Key → Prop := ReflTransGen (Points next)

def Acyclic (next : Key → Option Key) : Prop := ∀ key, ¬TransGen (Points next) key key

def chain (next : Key → Option Key) : Nat → Option Key → List Key
  | 0, _ => []
  | _ + 1, none => []
  | bound + 1, some key => key :: chain next bound (next key)

variable {next : Key → Option Key}

@[simp]
theorem chain_none (bound : Nat) : chain next bound none = [] := by cases bound <;> rfl

theorem mem_chain_next {bound : Nat} {key other : Key} (met : other ∈ chain next bound (next key)) :
    ∃ target, Points next key target ∧ other ∈ chain next bound (some target) := by
  cases pointed : next key with
  | none =>
      rw [pointed, chain_none] at met
      cases met
  | some target =>
      rw [pointed] at met
      exact ⟨target, pointed, met⟩

theorem leads_of_mem_chain {bound : Nat} {start key : Key}
    (met : key ∈ chain next bound (some start)) : Leads next start key := by
  induction bound generalizing start with
  | zero => cases met
  | succ bound inductionHypothesis =>
      rcases List.mem_cons.mp met with rfl | later
      · exact .refl
      · obtain ⟨target, pointed, further⟩ := mem_chain_next later
        exact .head pointed (inductionHypothesis further)

theorem Acyclic.chain_nodup (acyclic : Acyclic next) (bound : Nat) (start : Option Key) :
    (chain next bound start).Nodup := by
  induction bound generalizing start with
  | zero => exact List.nodup_nil
  | succ bound inductionHypothesis =>
      cases start with
      | none => exact List.nodup_nil
      | some key =>
          refine List.nodup_cons.mpr ⟨fun again => ?_, inductionHypothesis (next key)⟩
          obtain ⟨target, pointed, further⟩ := mem_chain_next again
          exact acyclic key (.head' pointed (leads_of_mem_chain further))

theorem chain_isChain (bound : Nat) (start : Option Key) :
    (chain next bound start).IsChain (Points next) := by
  induction bound generalizing start with
  | zero => exact .nil
  | succ bound inductionHypothesis =>
      cases start with
      | none => exact .nil
      | some key =>
          refine List.isChain_cons.mpr ⟨fun target first => ?_, inductionHypothesis (next key)⟩
          cases bound with
          | zero => cases first
          | succ bound =>
              cases pointed : next key with
              | none =>
                  rw [pointed] at first
                  cases first
              | some other =>
                  rw [pointed] at first
                  cases first
                  exact pointed

/-! ## Changing one pointer -/

section Update

variable [DecidableEq Key] {key : Key} {value : Option Key}

theorem leads_of_update {start finish : Key}
    (leads : Leads (Function.update next key value) start finish) :
    Leads next start finish ∨ Leads next start key := by
  induction leads using ReflTransGen.head_induction_on with
  | refl => exact .inl .refl
  | @head here between step _ inductionHypothesis =>
      by_cases same : here = key
      · rw [same]
        exact .inr .refl
      · have kept : Points next here between := by
          unfold Points at step
          rwa [Function.update_of_ne same] at step
        exact inductionHypothesis.imp (.head kept) (.head kept)

theorem update_leads_of_leads {start : Key} (leads : Leads next start key) :
    Leads (Function.update next key value) start key := by
  induction leads using ReflTransGen.head_induction_on with
  | refl => exact .refl
  | @head here between step _ inductionHypothesis =>
      by_cases same : here = key
      · rw [same]
      · refine .head ?_ inductionHypothesis
        unfold Points
        rwa [Function.update_of_ne same]

/-- A path that was not there before passes the changed row. -/
theorem transGen_of_update {start finish : Key}
    (path : TransGen (Points (Function.update next key value)) start finish) :
    TransGen (Points next) start finish ∨
      Leads (Function.update next key value) start key ∧
        TransGen (Points (Function.update next key value)) key finish := by
  induction path with
  | @single finish step =>
      by_cases same : start = key
      · subst same
        exact .inr ⟨.refl, .single step⟩
      · refine .inl (.single ?_)
        unfold Points at step
        rwa [Function.update_of_ne same] at step
  | @tail between finish path step inductionHypothesis =>
      obtain early | ⟨reaches, onward⟩ := inductionHypothesis
      · by_cases same : between = key
        · subst same
          exact .inr ⟨path.to_reflTransGen, .single step⟩
        · refine .inl (.tail early ?_)
          unfold Points at step
          rwa [Function.update_of_ne same] at step
      · exact .inr ⟨reaches, .tail onward step⟩

/-- Repointing a row closes a loop exactly when the new target leads to the row. -/
theorem Acyclic.update_iff (acyclic : Acyclic next) :
    Acyclic (Function.update next key value) ↔ ∀ target ∈ value, ¬Leads next target key := by
  constructor
  · rintro still target rfl leads
    refine still key (.head' ?_ (update_leads_of_leads leads))
    exact Function.update_self key (some target) next
  · intro apart looped path
    obtain before | ⟨reaches, onward⟩ := transGen_of_update path
    · exact acyclic looped before
    · obtain ⟨target, step, leads⟩ := TransGen.head'_iff.mp (onward.trans_left reaches)
      unfold Points at step
      rw [Function.update_self] at step
      rcases leads_of_update leads with back | back <;> exact apart target step back

end Update

/-! ## Following a chain, up to a bound -/

section Walk

variable [DecidableEq Key]

/-- Whether following the pointers comes to a row seen before, or goes on past the bound. -/
def comesBack (next : Key → Option Key) : Nat → List Key → Option Key → Bool
  | 0, _, _ => true
  | _ + 1, _, none => false
  | bound + 1, seen, some current =>
      if current ∈ seen then true else comesBack next bound (current :: seen) (next current)

theorem comesBack_eq_false_iff {bound : Nat} {seen : List Key} {start : Option Key} :
    comesBack next bound seen start = false ↔
      (chain next bound start).length < bound ∧ (chain next bound start).Nodup ∧
        ∀ key ∈ chain next bound start, key ∉ seen := by
  induction bound generalizing seen start with
  | zero => simp [comesBack, chain]
  | succ bound inductionHypothesis =>
      cases start with
      | none => simp [comesBack, chain]
      | some current =>
          by_cases again : current ∈ seen
          · simp [comesBack, chain, again]
          · simp only [comesBack, chain, again, if_false, inductionHypothesis, List.mem_cons,
              List.length_cons, Nat.add_lt_add_iff_right, List.nodup_cons, not_or, forall_eq_or_imp]
            constructor
            · rintro ⟨short, distinct, apart⟩
              exact ⟨short, ⟨fun met => (apart current met).1 rfl, distinct⟩, not_false,
                fun key met => (apart key met).2⟩
            · rintro ⟨short, ⟨once, distinct⟩, _, apart⟩
              refine ⟨short, distinct, fun key met => ⟨?_, apart key met⟩⟩
              rintro rfl
              exact once met

/-- Among acyclic pointers, a walk that comes back has met a row it had seen or has met its bound
of rows. -/
theorem Acyclic.comesBack_eq_true (acyclic : Acyclic next) {bound : Nat} {seen : List Key}
    {start : Option Key} (back : comesBack next bound seen start = true) :
    (∃ key ∈ chain next bound start, key ∈ seen) ∨ bound ≤ (chain next bound start).length := by
  by_contra neither
  rw [not_or, not_le] at neither
  obtain ⟨apart, short⟩ := neither
  have onward : comesBack next bound seen start = false := by
    refine comesBack_eq_false_iff.mpr ⟨short, acyclic.chain_nodup bound start, ?_⟩
    intro key met again
    exact apart ⟨key, met, again⟩
  rw [back] at onward
  cases onward

theorem not_leads_of_comesBack {bound : Nat} {seen : List Key} {start key : Key}
    (onward : comesBack next bound seen (some start) = false) (listed : key ∈ seen) :
    ¬Leads next start key := by
  intro leads
  induction leads using ReflTransGen.head_induction_on generalizing bound seen with
  | refl =>
      cases bound with
      | zero => cases onward
      | succ bound => simp [comesBack, listed] at onward
  | @head here between step _ inductionHypothesis =>
      cases bound with
      | zero => cases onward
      | succ bound =>
          by_cases again : here ∈ seen
          · simp [comesBack, again] at onward
          · simp only [comesBack, again, if_false] at onward
            rw [show next here = some between from step] at onward
            exact inductionHypothesis onward (List.mem_cons_of_mem _ listed)

end Walk

/-! ## Gathering what leads to a row -/

section Gather

variable [DecidableEq Key]

/-- What leads to the rows found so far, round by round; the frontier is what the last round
found. -/
def gather (next : Key → Option Key) (rows : List Key) : Nat → List Key → List Key → List Key
  | 0, _, found => found
  | rounds + 1, frontier, found =>
      let pointing := rows.filter fun key =>
        (next key).any (frontier.contains ·) && !found.contains key
      if pointing.isEmpty then found else gather next rows rounds pointing (found ++ pointing)

/-- Whatever is gathered leads to the row the search started from. -/
theorem leads_of_mem_gather {rows : List Key} {target key : Key} {rounds : Nat}
    {frontier found : List Key} (near : ∀ other ∈ frontier, Leads next other target)
    (leads : ∀ other ∈ found, Leads next other target)
    (gathered : key ∈ gather next rows rounds frontier found) : Leads next key target := by
  induction rounds generalizing frontier found with
  | zero => exact leads key gathered
  | succ rounds inductionHypothesis =>
      simp only [gather] at gathered
      split at gathered
      · exact leads key gathered
      · have pointing : ∀ other ∈ rows.filter (fun key =>
            (next key).any (frontier.contains ·) && !found.contains key),
            Leads next other target := by
          intro other chosen
          simp only [List.mem_filter, Bool.and_eq_true, Option.any_eq_true] at chosen
          obtain ⟨_, ⟨between, step, within⟩, _⟩ := chosen
          exact .head step (near between (by simpa using within))
        refine inductionHypothesis pointing ?_ gathered
        intro other listed
        exact (List.mem_append.mp listed).elim (leads other) (pointing other)

end Gather

end VolunteerScreening.Chains
