import Mathlib.Data.Nat.Notation
import Mathlib.Logic.Relation

/-!
# Runs of a system under a condition

A `System` has initial states and steps labelled by events. `ReachableBy C` are
the states reached by runs every step of which meets the condition `C`, a
condition on the state before the step and its event. An invariant established
initially and kept by the steps that meet `C` holds at every such state
(`ReachableBy.invariant`); with no condition, these are the reachable states.

Steps that make something smaller come to an end (`Inevitably.of_lt`). A run on given events
can be computed when the steps are (`ReachableBy.run`).
-/

namespace ExEx

/-- Initial states, and steps labelled by events. -/
structure System (σ ε : Type*) where
  /-- The initial states. -/
  init : σ → Prop
  /-- The steps. -/
  step : σ → ε → σ → Prop

namespace System

variable {σ ε : Type*} (S : System σ ε)

/-- The states reached by runs whose steps all meet `C`. -/
inductive ReachableBy (C : σ → ε → Prop) : σ → Prop
  | init {s : σ} : S.init s → ReachableBy C s
  | step {s s' : σ} {e : ε} : ReachableBy C s → C s e → S.step s e s' → ReachableBy C s'

/-- The reachable states. -/
def Reachable (s : σ) : Prop := S.ReachableBy (fun _ _ => True) s

variable {S} {C : σ → ε → Prop}

/-- An invariant that holds initially and that every step meeting `C` keeps
    holds at every state reached under `C`. -/
theorem ReachableBy.invariant {I : σ → Prop} (hinit : ∀ s, S.init s → I s)
    (hstep : ∀ s e s', S.ReachableBy C s → I s → C s e → S.step s e s' → I s') {s : σ}
    (hs : S.ReachableBy C s) : I s := by
  induction hs with
  | init h => exact hinit _ h
  | step hr hc hst ih => exact hstep _ _ _ hr ih hc hst

/-- A weaker condition reaches at least as much. -/
theorem ReachableBy.mono {C' : σ → ε → Prop} (h : ∀ s e, C s e → C' s e) {s : σ}
    (hs : S.ReachableBy C s) : S.ReachableBy C' s := by
  induction hs with
  | init hi => exact .init hi
  | step _ hc hst ih => exact .step ih (h _ _ hc) hst

theorem ReachableBy.reachable {s : σ} (hs : S.ReachableBy C s) : S.Reachable s :=
  hs.mono fun _ _ _ => trivial

/-! ## Runs from a state -/

variable (S) in
/-- Some steps lead from a state to another. -/
def Leads : σ → σ → Prop := Relation.ReflTransGen fun s s' => ∃ e, S.step s e s'

theorem Reachable.leads {s s' : σ} (hs : S.Reachable s) (h : S.Leads s s') : S.Reachable s' := by
  induction h with
  | refl => exact hs
  | tail _ hstep ih =>
    obtain ⟨e, hstep⟩ := hstep
    exact ih.step trivial hstep

/-- What every step keeps, a run keeps. -/
theorem Leads.invariant {I : σ → Prop} (hstep : ∀ s e s', I s → S.step s e s' → I s') {s s' : σ}
    (h : S.Leads s s') (hs : I s) : I s' := by
  induction h with
  | refl => exact hs
  | tail _ hst ih =>
    obtain ⟨e, hst⟩ := hst
    exact hstep _ e _ ih hst

/-- Events that can all happen, one after another, are a run. -/
theorem Leads.foldlM {act : σ → ε → Option σ} (hstep : ∀ s e s', act s e = some s' → S.step s e s')
    {events : List ε} {s s' : σ} (h : events.foldlM act s = some s') : S.Leads s s' := by
  induction events generalizing s with
  | nil =>
    obtain rfl := Option.some.inj h
    exact .refl
  | cons e events ih =>
    rw [List.foldlM_cons] at h
    obtain ⟨t, ht, h⟩ := Option.bind_eq_some_iff.1 h
    exact .head ⟨e, hstep s e t ht⟩ (ih h)

/-! ## Runs that come to an end -/

variable (S) in
/-- Whichever of the steps that meet a condition are taken, they come to a state that is as it
    should be. -/
inductive Inevitably (C : σ → ε → Prop) (Done : σ → Prop) : σ → Prop
  | done {s : σ} : Done s → Inevitably C Done s
  | later {s : σ} : (∃ e s', C s e ∧ S.step s e s') →
    (∀ e s', C s e → S.step s e s' → Inevitably C Done s') → Inevitably C Done s

theorem Inevitably.mono {Done Done' : σ → Prop} (h : ∀ s, Done s → Done' s) {s : σ}
    (hs : S.Inevitably C Done s) : S.Inevitably C Done' s := by
  induction hs with
  | done hdone => exact .done (h _ hdone)
  | later hnext _ ih => exact .later hnext ih

/-- Steps that make something smaller come to a state in which there is none of them. -/
theorem Inevitably.of_lt {I Done : σ → Prop} (size : σ → ℕ)
    (hnext : ∀ s, I s → ¬Done s → ∃ e s', C s e ∧ S.step s e s')
    (hstep : ∀ s e s', I s → C s e → S.step s e s' → I s' ∧ size s' < size s) {s : σ} (hs : I s) :
    S.Inevitably C (fun s => I s ∧ Done s) s := by
  induction hn : size s using Nat.strongRecOn generalizing s with
  | _ n ih =>
    by_cases hdone : Done s
    · exact .done ⟨hs, hdone⟩
    · refine .later (hnext s hs hdone) fun e s' hc hst => ?_
      obtain ⟨hs', hlt⟩ := hstep s e s' hs hc hst
      exact ih _ (hn ▸ hlt) hs' rfl

/-! ## Runs that are computed -/

/-- Whether events, one after another, pass a check. -/
def passes (act : σ → ε → σ) (check : σ → ε → Bool) : List ε → σ → Bool
  | [], _ => true
  | e :: events, s => check s e && passes act check events (act s e)

/-- The state after events that pass a check, when what passes is a step. -/
theorem ReachableBy.run {act : σ → ε → σ} (check : σ → ε → Bool)
    (hstep : ∀ s e, check s e = true → C s e ∧ S.step s e (act s e)) {events : List ε} {s : σ}
    (hs : S.ReachableBy C s) (h : passes act check events s = true) :
    S.ReachableBy C (events.foldl act s) := by
  induction events generalizing s with
  | nil => exact hs
  | cons e events ih =>
    obtain ⟨hcheck, hrest⟩ := Bool.and_eq_true_iff.1 h
    obtain ⟨hc, hst⟩ := hstep s e hcheck
    exact ih (.step hs hc hst) hrest

/-- The state after events that can all happen, one after another. -/
theorem ReachableBy.foldlM {act : σ → ε → Option σ}
    (hstep : ∀ s e s', act s e = some s' → C s e ∧ S.step s e s') {events : List ε} {s s' : σ}
    (hs : S.ReachableBy C s) (h : events.foldlM act s = some s') : S.ReachableBy C s' := by
  induction events generalizing s with
  | nil =>
    obtain rfl := Option.some.inj h
    exact hs
  | cons e events ih =>
    rw [List.foldlM_cons] at h
    obtain ⟨t, ht, h⟩ := Option.bind_eq_some_iff.1 h
    obtain ⟨hc, hst⟩ := hstep s e t ht
    exact ih (.step hs hc hst) h

end System

end ExEx
