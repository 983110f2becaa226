import ExEx.Lib.Loop
import Mathlib.Data.List.Induction

/-!
# Doing and undoing

Events are done one after another, and undone from the last one back. What undoes an event
need not give back the very state, but one that is the same as far as it matters (`Same`).
It is enough that this goes event by event (`Undoes`): then any number of events is undone
(`Undoes.undoAll`), and the state only depends on the events that were not undone. It is
one in which these were done one by one, with a state replaced by one that is the same now
and then (`Derives`).
-/

namespace ExEx

variable {σ ε δ : Type*}

section

variable (f : ε → σ → Except δ Unit × σ) (Good : σ → ε → Prop)

/-- Each of some events is good where it is done. -/
def AllAlong : List ε → σ → Prop
  | [], _ => True
  | e :: l, s => Good s e ∧ AllAlong l (f e s).2

/-- A state after good events were done on `start`, up to what is the same. -/
inductive Derives (Same : σ → σ → Prop) (start : σ) : List ε → σ → Prop
  | start : Derives Same start [] start
  | done {l : List ε} {e : ε} {s s' : σ} : Derives Same start l s → Good s e →
      f e s = (.ok (), s') → Derives Same start (l ++ [e]) s'
  | same {l : List ε} {s t : σ} : Derives Same start l s → Same s t → Derives Same start l t

/-- What is done with good events on states that meet `Inv` is undone, event by event. -/
structure Undoes (g : ε → σ → Except δ Unit × σ) (Inv : σ → Prop) (Same : σ → σ → Prop) :
    Prop where
  done : ∀ {e : ε} {s s' : σ}, Inv s → Good s e → f e s = (.ok (), s') → Inv s'
  refl : ∀ s, Same s s
  trans : ∀ {s t u : σ}, Same s t → Same t u → Same s u
  undo : ∀ {e : ε} {s s' u : σ}, Good s e → f e s = (.ok (), s') → Same s' u → Inv u →
    ∃ u', g e u = (.ok (), u') ∧ Same s u' ∧ Inv u'

end

variable {f g : ε → σ → Except δ Unit × σ} {Good : σ → ε → Prop} {Inv : σ → Prop}
  {Same : σ → σ → Prop} {start s s' : σ} {l es : List ε} {e : ε}

theorem Derives.doAll (h : Derives f Good Same start l s) (hgood : AllAlong f Good es s)
    (hdone : forEach f es s = (.ok (), s')) : Derives f Good Same start (l ++ es) s' := by
  induction es generalizing l s with
  | nil =>
    obtain rfl := (Prod.mk.inj hdone).2
    rwa [List.append_nil]
  | cons e es ih =>
    obtain ⟨s₁, he, hdone⟩ := forEach_cons_eq_ok.1 hdone
    have hrest := hgood.2
    rw [he] at hrest
    have hderives := ih (h.done hgood.1 he) hrest hdone
    rwa [List.append_assoc] at hderives

namespace Undoes

variable (h : Undoes f Good g Inv Same)

include h

theorem doAll (hs : Inv s) (hgood : AllAlong f Good es s)
    (hdone : forEach f es s = (.ok (), s')) : Inv s' := by
  induction es generalizing s with
  | nil => exact (Prod.mk.inj hdone).2 ▸ hs
  | cons e es ih =>
    obtain ⟨s₁, he, hdone⟩ := forEach_cons_eq_ok.1 hdone
    have hrest := hgood.2
    rw [he] at hrest
    exact ih (h.done hs hgood.1 he) hrest hdone

/-- The last event is undone. -/
theorem undoLast (hs : Derives f Good Same start (l ++ [e]) s) (hinv : Inv s) :
    ∃ u, g e s = (.ok (), u) ∧ Derives f Good Same start l u ∧ Inv u := by
  suffices hsame : ∀ t, Same s t → Inv t →
      ∃ u, g e t = (.ok (), u) ∧ Derives f Good Same start l u ∧ Inv u from
    hsame s (h.refl s) hinv
  clear hinv
  -- By induction on how the state was derived, back to where the event was done.
  generalize hl : l ++ [e] = l' at hs
  induction hs with
  | start => exact absurd hl (by simp)
  | done hs hgood hdone _ =>
    obtain ⟨rfl, hlast⟩ := List.append_inj' hl rfl
    obtain rfl := List.singleton_inj.1 hlast
    intro t hst ht
    obtain ⟨u, hu, hsame, hinv⟩ := h.undo hgood hdone hst ht
    exact ⟨u, hu, hs.same hsame, hinv⟩
  | same _ hst ih => exact fun t htt' => ih hl t (h.trans hst htt')

/-- The last events are undone, in reverse. -/
theorem undoAll (hs : Derives f Good Same start (l ++ es) s) (hinv : Inv s) :
    ∃ u, forEach g es.reverse s = (.ok (), u) ∧ Derives f Good Same start l u ∧ Inv u := by
  induction es using List.reverseRecOn generalizing s with
  | nil => exact ⟨s, rfl, List.append_nil l ▸ hs, hinv⟩
  | append_singleton es e ih =>
    rw [← List.append_assoc] at hs
    obtain ⟨t, ht, hderives, hinv⟩ := h.undoLast hs hinv
    obtain ⟨u, hu, hend⟩ := ih hderives hinv
    refine ⟨u, ?_, hend⟩
    rw [List.reverse_append]
    exact forEach_cons_eq_ok.2 ⟨t, ht, hu⟩

end Undoes

end ExEx
