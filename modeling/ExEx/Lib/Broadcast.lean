import Mathlib.Data.List.Basic

/-!
# Broadcast channels

A broadcast channel keeps the last `capacity` messages. A receiver has a position in
the sequence of all messages; it gets the message there, unless it was overwritten
(`Overwritten`), or waits for it.

As long as it gets messages, what a receiver got is a segment of what was sent,
without gaps (`recv_ok_prefix`). A receiver that is behind gets an error before any
other message (`recv_of_overwritten`), and stays behind when more is sent.
-/

namespace ExEx.Broadcast

variable {α : Type*}

/-- Why nothing is received. -/
inductive RecvError
  | lagged (missed : ℕ)
  | closed
  deriving DecidableEq

/-- A message that the channel does not keep any more. -/
def Overwritten (capacity : ℕ) (sent : List α) (next : ℕ) : Prop := next + capacity < sent.length

instance (capacity : ℕ) (sent : List α) (next : ℕ) : Decidable (Overwritten capacity sent next) :=
  inferInstanceAs (Decidable (_ < _))

/-- What a receiver gets and its position then, or `none` when it has to wait. -/
def recv (capacity : ℕ) (sent : List α) (closed : Bool) (next : ℕ) : Option (Except RecvError α × ℕ) :=
  if Overwritten capacity sent next then
    some (.error (.lagged (sent.length - capacity - next)), sent.length - capacity)
  else
    match sent[next]? with
    | some a => some (.ok a, next + 1)
    | none => if closed then some (.error .closed, next) else none

variable {capacity : ℕ} {sent got : List α} {closed : Bool} {first next next' : ℕ} {a : α}

variable (closed) in
theorem recv_of_overwritten (h : Overwritten capacity sent next) :
    ∃ missed next', recv capacity sent closed next = some (.error (.lagged missed), next') :=
  ⟨_, _, if_pos h⟩

theorem recv_ok (h : recv capacity sent closed next = some (.ok a, next')) :
    sent[next]? = some a ∧ next' = next + 1 := by
  rw [recv] at h
  by_cases hover : Overwritten capacity sent next
  · rw [if_pos hover] at h
    cases h
  · rw [if_neg hover] at h
    rcases hnext : sent[next]? with _ | b
    · rw [hnext] at h
      cases closed <;> cases h
    · rw [hnext] at h
      cases h
      exact ⟨rfl, rfl⟩

variable (capacity closed) in
/-- A receiver gets something as long as it has not got to the end. -/
theorem recv_of_lt (h : next < sent.length) : ∃ r next',
    recv capacity sent closed next = some (r, next') ∧ r ≠ .error .closed ∧ next < next' := by
  rw [recv]
  by_cases hover : Overwritten capacity sent next
  · rw [if_pos hover]
    rw [Overwritten] at hover
    exact ⟨_, _, rfl, (by intro heq; cases heq), by omega⟩
  · rw [if_neg hover, List.getElem?_eq_getElem h]
    exact ⟨_, _, rfl, (by intro heq; cases heq), Nat.lt_succ_self _⟩

/-- A receiver waits only at the end of a channel that is open. -/
theorem recv_eq_none (h : recv capacity sent closed next = none) :
    closed = false ∧ sent.length ≤ next := by
  rw [recv] at h
  by_cases hover : Overwritten capacity sent next
  · rw [if_pos hover] at h
    cases h
  · rw [if_neg hover] at h
    rcases hnext : sent[next]? with _ | a <;> rw [hnext] at h
    · cases closed
      · exact ⟨rfl, List.getElem?_eq_none_iff.1 hnext⟩
      · cases h
    · cases h

/-- What is received was not overwritten. -/
theorem not_overwritten_of_recv_ok (h : recv capacity sent closed next = some (.ok a, next')) :
    ¬Overwritten capacity sent next := by
  intro hover
  rw [recv, if_pos hover] at h
  cases h

/-- A receiver never goes back. -/
theorem le_of_recv {r : Except RecvError α} (h : recv capacity sent closed next = some (r, next')) :
    next ≤ next' := by
  rw [recv] at h
  by_cases hover : Overwritten capacity sent next
  · rw [if_pos hover] at h
    obtain ⟨-, rfl⟩ := Prod.mk.inj (Option.some.inj h)
    rw [Overwritten] at hover
    omega
  · rw [if_neg hover] at h
    rcases hnext : sent[next]? with _ | a <;> rw [hnext] at h
    · cases closed
      · cases h
      · obtain ⟨-, rfl⟩ := Prod.mk.inj (Option.some.inj h)
        exact Nat.le_refl _
    · obtain ⟨-, rfl⟩ := Prod.mk.inj (Option.some.inj h)
      exact Nat.le_succ _

/-- A receiver that is behind stays so when more is sent. -/
theorem Overwritten.append (h : Overwritten capacity sent next) (more : List α) :
    Overwritten capacity (sent ++ more) next := by
  rw [Overwritten, List.length_append]
  exact Nat.lt_add_right _ h

theorem prefix_of_getElem? {l l' : List α} (h : l <+: l') (ha : l'[l.length]? = some a) :
    l ++ [a] <+: l' := by
  obtain ⟨t, rfl⟩ := h
  rw [List.getElem?_append_right (Nat.le_refl _), Nat.sub_self] at ha
  rcases t with _ | ⟨b, t⟩
  · cases ha
  · obtain rfl := Option.some.inj ha
    exact ⟨t, List.append_assoc _ _ _⟩

/-- What is received follows what was received before. -/
theorem recv_ok_prefix (hgot : got <+: sent.drop first) (hnext : next = first + got.length)
    (h : recv capacity sent closed next = some (.ok a, next')) :
    got ++ [a] <+: sent.drop first ∧ next' = first + (got ++ [a]).length := by
  obtain ⟨ha, rfl⟩ := recv_ok h
  refine ⟨prefix_of_getElem? hgot ?_, ?_⟩
  · rw [List.getElem?_drop, ← hnext, ha]
  · rw [hnext, List.length_append, List.length_singleton, Nat.add_assoc]

/-- What was received stays a part of what was sent. -/
theorem prefix_drop_append (hgot : got <+: sent.drop first) (more : List α) :
    got <+: (sent ++ more).drop first := by
  rw [List.drop_append]
  exact hgot.trans (List.prefix_append _ _)

/-! ## Receivers that miss messages -/

/-- A receiver that began at `first` and is at `next` has got some of the messages between,
    in their order, and has missed the others. -/
structure Receives (sent : List α) (first next : ℕ) (got : List α) (missed : ℕ) : Prop where
  sublist : got.Sublist ((sent.take next).drop first)
  length : first + got.length + missed = next
  le : next ≤ sent.length

namespace Receives

variable {missed : ℕ}

variable (sent) in
theorem start : Receives sent sent.length sent.length [] 0 :=
  ⟨List.nil_sublist _, rfl, Nat.le_refl _⟩

/-- More is sent. -/
theorem append (h : Receives sent first next got missed) (more : List α) :
    Receives (sent ++ more) first next got missed where
  sublist := by
    rw [List.take_append_of_le_length h.le]
    exact h.sublist
  length := h.length
  le := by
    rw [List.length_append]
    exact Nat.le_add_right_of_le h.le

/-- What was got is among what was sent. -/
theorem mem (h : Receives sent first next got missed) (ha : a ∈ got) : a ∈ sent :=
  List.mem_of_mem_take (List.mem_of_mem_drop (h.sublist.subset ha))

theorem ok (h : Receives sent first next got missed)
    (hrecv : recv capacity sent closed next = some (.ok a, next')) :
    Receives sent first next' (got ++ [a]) missed := by
  obtain ⟨ha, rfl⟩ := recv_ok hrecv
  have hfirst : first ≤ next := by have := h.length; omega
  refine ⟨?_, ?_, ?_⟩
  · have htake : sent.take (next + 1) = sent.take next ++ [a] := by
      rw [List.take_add_one, ha, Option.toList_some]
    have hlength : (sent.take next).length = next := by
      rw [List.length_take, Nat.min_eq_left h.le]
    rw [htake, List.drop_append_of_le_length (hlength.symm ▸ hfirst)]
    exact h.sublist.append_right [a]
  · rw [← h.length, List.length_append, List.length_singleton]
    omega
  · exact (List.getElem?_eq_some_iff.1 ha).1

/-- A receiver that is behind goes on with the oldest message that is kept. -/
theorem lagged (h : Receives sent first next got missed) {n : ℕ}
    (hrecv : recv capacity sent closed next = some (.error (.lagged n), next')) :
    Receives sent first next' got (missed + n) := by
  rw [recv] at hrecv
  by_cases hover : Overwritten capacity sent next
  · rw [if_pos hover] at hrecv
    cases hrecv
    rw [Overwritten] at hover
    have hlength := h.length
    refine ⟨h.sublist.trans ?_, by omega, Nat.sub_le _ _⟩
    have htake : sent.take next <+: sent.take (sent.length - capacity) :=
      List.take_prefix_take_left (by omega)
    obtain ⟨more, hmore⟩ := htake
    rw [← hmore, List.drop_append]
    exact List.sublist_append_left _ _
  · rw [if_neg hover] at hrecv
    rcases hnext : sent[next]? with _ | b <;> rw [hnext] at hrecv
    · cases closed <;> cases hrecv
    · cases hrecv

theorem next_eq_of_closed (hrecv : recv capacity sent closed next = some (.error .closed, next')) :
    next' = next := by
  rw [recv] at hrecv
  split at hrecv
  · cases hrecv
  · rcases hnext : sent[next]? with _ | b <;> rw [hnext] at hrecv
    · cases closed <;> cases hrecv
      rfl
    · cases hrecv

theorem map {β : Type*} (h : Receives sent first next got missed) (f : α → β) :
    Receives (sent.map f) first next (got.map f) missed where
  sublist := by
    rw [← List.map_take, ← List.map_drop]
    exact h.sublist.map f
  length := by
    rw [List.length_map]
    exact h.length
  le := by
    rw [List.length_map]
    exact h.le

/-- A receiver that has missed nothing has got everything between. -/
theorem eq_of_missed (h : Receives sent first next got missed) (hmissed : missed = 0) :
    got = (sent.take next).drop first := by
  refine h.sublist.eq_of_length ?_
  have hlength := h.length
  have hle := h.le
  rw [List.length_drop, List.length_take]
  omega

end Receives

end ExEx.Broadcast
