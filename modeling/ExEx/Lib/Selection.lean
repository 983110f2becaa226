import Mathlib.Data.List.Basic
import Mathlib.Data.List.Dedup

/-!
# Selecting elements

The elements of a list that are in another list are as many as the other list has
exactly if the elements selected repeat as often as those of the other list, and once more
for each one that is missing (`length_filter_mem_eq_iff`).

From an interleaving of two lists, a predicate that holds of one list and not of the other
selects the one (`Interleaved.filter_eq`).
-/

namespace ExEx

variable {α : Type*}

/-! ## Repeats -/

section

variable [DecidableEq α]

/-- How many elements of a list occur earlier in it. -/
def repeats (l : List α) : ℕ := l.length - l.dedup.length

theorem length_dedup_add_repeats (l : List α) : l.dedup.length + repeats l = l.length :=
  Nat.add_sub_cancel' (List.dedup_sublist l).length_le

theorem repeats_eq_zero {l : List α} (h : l.Nodup) : repeats l = 0 := by
  rw [repeats, h.dedup, Nat.sub_self]

/-- The different elements of `m` that are not in `l`. -/
def missing (l m : List α) : List α := m.dedup.filter (· ∉ l)

theorem missing_eq_nil_iff {l m : List α} : missing l m = [] ↔ ∀ a ∈ m, a ∈ l := by
  rw [missing, List.filter_eq_nil_iff]
  simp only [List.mem_dedup, decide_eq_true_eq, not_not]

/-- The different elements of `m` are those selected from `l` and those missing. -/
theorem length_dedup_filter_mem (l m : List α) :
    (l.filter (· ∈ m)).dedup.length + (missing l m).length = m.dedup.length := by
  have hperm : (l.filter (· ∈ m)).dedup.Perm (m.dedup.filter (· ∈ l)) := by
    rw [List.perm_ext_iff_of_nodup (List.nodup_dedup _) ((List.nodup_dedup m).filter _)]
    intro a
    simp only [List.mem_dedup, List.mem_filter, decide_eq_true_eq, and_comm]
  rw [hperm.length_eq, missing, List.length_eq_length_filter_add (l := m.dedup) (· ∈ l)]
  simp only [decide_not]

theorem length_filter_mem_eq_iff {l m : List α} : (l.filter (· ∈ m)).length = m.length ↔
    repeats (l.filter (· ∈ m)) = repeats m + (missing l m).length := by
  have hl := length_dedup_add_repeats (l.filter (· ∈ m))
  have hm := length_dedup_add_repeats m
  have hdedup := length_dedup_filter_mem l m
  omega

end

/-! ## Interleavings -/

/-- The third list has the elements of the first two, each in their order. -/
inductive Interleaved : List α → List α → List α → Prop
  | nil : Interleaved [] [] []
  | left (a : α) {l₁ l₂ l : List α} : Interleaved l₁ l₂ l → Interleaved (a :: l₁) l₂ (a :: l)
  | right (a : α) {l₁ l₂ l : List α} : Interleaved l₁ l₂ l → Interleaved l₁ (a :: l₂) (a :: l)

theorem Interleaved.filter_eq {p : α → Bool} {l₁ l₂ l : List α} (h : Interleaved l₁ l₂ l)
    (h₁ : ∀ a ∈ l₁, p a) (h₂ : ∀ a ∈ l₂, ¬p a) : l.filter p = l₁ := by
  induction h with
  | nil => rfl
  | left a _ ih =>
    rw [List.forall_mem_cons] at h₁
    rw [List.filter_cons_of_pos h₁.1, ih h₁.2 h₂]
  | right a _ ih =>
    rw [List.forall_mem_cons] at h₂
    rw [List.filter_cons_of_neg h₂.1, ih h₁ h₂.2]

end ExEx
