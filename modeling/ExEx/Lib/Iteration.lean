import Mathlib.Data.Option.Basic
import Mathlib.Order.Nat

/-!
# Loops that may not end

A loop that is not over a list, such as one that polls until it is told to stop, may go
on for ever. It is given by its turn (`Turn`), which goes on from a state or stops with
a result, and run with fuel (`iterate`): it ends if there is a result for some fuel.

* A loop that goes on ends as it does from the next state (`endsWith_again`);
* it does not end when every turn goes on from what holds at the start, and keeps it
  (`not_ends_of_invariant`);
* when a loop is followed by another, both must end (`ends_bind`);
* it ends when what is left becomes smaller (`ends_of_lt`), and what its turns keep holds
  at the end (`EndsWith.rule`).
-/

namespace ExEx

universe u

variable {α β : Type u} {σ : Type*}

/-! ## Fuel -/

/-- With enough fuel, there is a result. -/
def Ends (f : ℕ → Option α) : Prop := ∃ n, (f n).isSome = true

/-- With enough fuel, this is the result. -/
def EndsWith (f : ℕ → Option α) (a : α) : Prop := ∃ n, f n = some a

/-- More fuel does not change a result. -/
def Fueled (f : ℕ → Option α) : Prop := ∀ n m a, n ≤ m → f n = some a → f m = some a

theorem ends_iff {f : ℕ → Option α} : Ends f ↔ ∃ a, EndsWith f a := by
  simp only [Ends, EndsWith, Option.isSome_iff_exists]
  exact exists_comm

theorem fueled_const (o : Option α) : Fueled fun _ => o := fun _ _ _ _ h => h

theorem Fueled.bind {f : ℕ → Option α} {g : α → ℕ → Option β} (hf : Fueled f)
    (hg : ∀ a, Fueled (g a)) : Fueled fun n => (f n).bind fun a => g a n := by
  intro n m b hnm h
  obtain ⟨a, ha, hb⟩ := Option.bind_eq_some_iff.1 h
  exact Option.bind_eq_some_iff.2 ⟨a, hf n m a hnm ha, hg a n m b hnm hb⟩

/-- A computation ends with what the second of two ends with, after the first one. -/
theorem endsWith_bind {f : ℕ → Option α} {g : α → ℕ → Option β} (hf : Fueled f)
    (hg : ∀ a, Fueled (g a)) {b : β} :
    EndsWith (fun n => (f n).bind fun a => g a n) b ↔ ∃ a, EndsWith f a ∧ EndsWith (g a) b := by
  constructor
  · rintro ⟨n, h⟩
    obtain ⟨a, ha, hb⟩ := Option.bind_eq_some_iff.1 h
    exact ⟨a, ⟨n, ha⟩, n, hb⟩
  · rintro ⟨a, ⟨n, ha⟩, m, hb⟩
    refine ⟨max n m, Option.bind_eq_some_iff.2 ⟨a, ?_, ?_⟩⟩
    · exact hf n _ a (le_max_left n m) ha
    · exact hg a m _ b (le_max_right n m) hb

theorem ends_bind {f : ℕ → Option α} {g : α → ℕ → Option β} (hf : Fueled f)
    (hg : ∀ a, Fueled (g a)) :
    Ends (fun n => (f n).bind fun a => g a n) ↔ ∃ a, EndsWith f a ∧ Ends (g a) := by
  simp only [ends_iff, endsWith_bind hf hg]
  exact ⟨fun ⟨b, a, ha, hb⟩ => ⟨a, ha, b, hb⟩, fun ⟨a, ha, b, hb⟩ => ⟨b, a, ha, hb⟩⟩

theorem ends_map {f : ℕ → Option α} {g : α → β} : Ends (fun n => (f n).map g) ↔ Ends f := by
  simp only [Ends, Option.isSome_map]

/-! ## Loops -/

/-- What a turn of a loop does: it goes on from a state, or stops with a result. -/
inductive Turn (σ ρ : Type*)
  | again (s : σ)
  | stop (r : ρ)

/-- A loop from a state, for at most so many turns. -/
def iterate (turn : σ → Turn σ α) (s : σ) : ℕ → Option α
  | 0 => none
  | n + 1 =>
    match turn s with
    | .again s => iterate turn s n
    | .stop a => some a

variable {turn : σ → Turn σ α} {s s' : σ} {a : α}

theorem fueled_iterate (turn : σ → Turn σ α) (s : σ) : Fueled (iterate turn s) := by
  intro n m a hnm h
  induction n generalizing s m with
  | zero => cases h
  | succ n ih =>
    obtain ⟨m, rfl⟩ := Nat.exists_eq_add_of_le' (Nat.one_le_of_lt hnm)
    rw [iterate] at h ⊢
    rcases hturn : turn s with s' | b <;> rw [hturn] at h
    · exact ih s' m (Nat.le_of_succ_le_succ hnm) h
    · exact h

/-- A turn that stops ends the loop. -/
theorem endsWith_stop {b : α} (h : turn s = .stop a) : EndsWith (iterate turn s) b ↔ b = a := by
  constructor
  · rintro ⟨_ | n, hn⟩
    · cases hn
    · rw [iterate, h] at hn
      exact (Option.some.inj hn).symm
  · rintro rfl
    exact ⟨1, by rw [iterate, h]⟩

theorem ends_stop (h : turn s = .stop a) : Ends (iterate turn s) :=
  ends_iff.2 ⟨a, (endsWith_stop h).2 rfl⟩

/-- A loop that goes on ends as it does from the next state. -/
theorem endsWith_again (h : turn s = .again s') :
    EndsWith (iterate turn s) a ↔ EndsWith (iterate turn s') a := by
  constructor
  · rintro ⟨_ | n, hn⟩
    · cases hn
    · rw [iterate, h] at hn
      exact ⟨n, hn⟩
  · rintro ⟨n, hn⟩
    exact ⟨n + 1, by rw [iterate, h]; exact hn⟩

theorem ends_again (h : turn s = .again s') :
    Ends (iterate turn s) ↔ Ends (iterate turn s') := by
  simp only [ends_iff, endsWith_again h]

/-- A loop does not end whose turns go on from an invariant, and keep it. -/
theorem not_ends_of_invariant {I : σ → Prop}
    (hturn : ∀ s, I s → ∃ s', turn s = .again s' ∧ I s') (hs : I s) :
    ¬Ends (iterate turn s) := by
  rintro ⟨n, hn⟩
  induction n generalizing s with
  | zero => cases hn
  | succ n ih =>
    obtain ⟨s', h, hs'⟩ := hturn s hs
    rw [iterate, h] at hn
    exact ih hs' hn

/-- A loop ends whose turns go on to a smaller state only. -/
theorem ends_of_lt (size : σ → ℕ) (hturn : ∀ s s', turn s = .again s' → size s' < size s) (s : σ) :
    Ends (iterate turn s) := by
  induction hn : size s using Nat.strong_induction_on generalizing s with
  | _ n ih =>
    rcases h : turn s with s' | a
    · exact (ends_again h).2 (ih _ (hn ▸ hturn s s' h) s' rfl)
    · exact ends_stop h

/-- The rule of a loop: what holds at the start of each turn, and at the end. -/
theorem EndsWith.rule {I : σ → Prop} {Q : α → Prop}
    (hagain : ∀ s s', I s → turn s = .again s' → I s') (hstop : ∀ s a, I s → turn s = .stop a → Q a)
    (hs : I s) (h : EndsWith (iterate turn s) a) : Q a := by
  obtain ⟨n, hn⟩ := h
  induction n generalizing s with
  | zero => cases hn
  | succ n ih =>
    rw [iterate] at hn
    rcases hturn : turn s with s' | b <;> rw [hturn] at hn
    · exact ih (hagain s s' hs hturn) hn
    · obtain rfl := Option.some.inj hn
      exact hstop s b hs hturn

end ExEx
