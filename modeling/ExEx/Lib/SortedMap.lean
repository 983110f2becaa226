import Mathlib.Data.List.Nodup
import Mathlib.Data.List.Perm.Subperm
import Mathlib.Order.Lattice

/-!
# Sorted maps

A `SortedMap κ ν` is a list of entries with strictly increasing keys, as an
ordered map enumerates them. Inserting keeps the order and overwrites the value
of a key already there; collecting the entries of a map in order gives the map
back (`ofList_entries`). Collecting entries loses some iff a key occurs twice
(`length_ofList_iff`).
-/

namespace ExEx

/-- Entries with strictly increasing keys. -/
structure SortedMap (κ ν : Type*) [LinearOrder κ] where
  /-- The entries. -/
  entries : List (κ × ν)
  /-- The keys increase. -/
  sorted : entries.Pairwise fun a b => a.1 < b.1

namespace SortedMap

variable {κ ν : Type*} [LinearOrder κ]

@[ext]
theorem ext {m m' : SortedMap κ ν} (h : m.entries = m'.entries) : m = m' := by
  cases m; cases m'; congr

/-- The map with no entries. -/
def empty : SortedMap κ ν := ⟨[], .nil⟩

instance : Inhabited (SortedMap κ ν) := ⟨empty⟩

instance [DecidableEq ν] : DecidableEq (SortedMap κ ν) := fun m m' =>
  decidable_of_iff (m.entries = m'.entries) ⟨ext, fun h => h ▸ rfl⟩

/-- The values, in the order of their keys. -/
def values (m : SortedMap κ ν) : List ν := m.entries.map Prod.snd

/-- The entries after inserting `v` under `k`. -/
def insertEntries (k : κ) (v : ν) : List (κ × ν) → List (κ × ν)
  | [] => [(k, v)]
  | e :: l =>
    if k < e.1 then (k, v) :: e :: l
    else if e.1 < k then e :: insertEntries k v l
    else (k, v) :: l

/-- Inserting adds no key but the inserted one. -/
theorem mem_insertEntries {k : κ} {v : ν} {l : List (κ × ν)} {e : κ × ν}
    (h : e ∈ insertEntries k v l) : e = (k, v) ∨ e ∈ l := by
  induction l with
  | nil => exact .inl (List.mem_singleton.1 h)
  | cons a l ih =>
    rw [insertEntries] at h
    split_ifs at h with h₁ h₂
    · exact List.mem_cons.1 h
    · rcases List.mem_cons.1 h with rfl | h
      · exact .inr List.mem_cons_self
      · exact (ih h).imp_right (List.mem_cons_of_mem _)
    · exact (List.mem_cons.1 h).imp_right (List.mem_cons_of_mem _)

theorem sorted_insertEntries {k : κ} {v : ν} {l : List (κ × ν)}
    (h : l.Pairwise fun a b => a.1 < b.1) :
    (insertEntries k v l).Pairwise fun a b => a.1 < b.1 := by
  induction l with
  | nil => exact List.pairwise_singleton _ _
  | cons a l ih =>
    have ⟨ha, hl⟩ := List.pairwise_cons.1 h
    rw [insertEntries]
    split_ifs with h₁ h₂
    · -- In front of all entries.
      refine List.pairwise_cons.2 ⟨?_, h⟩
      intro b hb
      rcases List.mem_cons.1 hb with rfl | hb
      · exact h₁
      · exact h₁.trans (ha b hb)
    · -- Behind the first entry.
      refine List.pairwise_cons.2 ⟨?_, ih hl⟩
      intro b hb
      rcases mem_insertEntries hb with rfl | hb
      · exact h₂
      · exact ha b hb
    · -- In its place.
      have hk : a.1 = k := le_antisymm (not_lt.1 h₁) (not_lt.1 h₂)
      exact List.pairwise_cons.2 ⟨fun b hb => hk ▸ ha b hb, hl⟩

theorem insertEntries_of_lt {k : κ} {v : ν} {l : List (κ × ν)} (h : ∀ e ∈ l, e.1 < k) :
    insertEntries k v l = l ++ [(k, v)] := by
  induction l with
  | nil => rfl
  | cons a l ih =>
    have ha := h a List.mem_cons_self
    rw [insertEntries, if_neg ha.asymm, if_pos ha, ih fun e he => h e (List.mem_cons_of_mem _ he),
      List.cons_append]

/-- Inserts `v` under `k`, over whatever is there. -/
def insert (m : SortedMap κ ν) (k : κ) (v : ν) : SortedMap κ ν :=
  ⟨insertEntries k v m.entries, sorted_insertEntries m.sorted⟩

/-- Collects entries, a later one overwriting an earlier one of the same key. -/
def ofList (l : List (κ × ν)) : SortedMap κ ν := l.foldl (fun m e => m.insert e.1 e.2) empty

/-- Collecting the entries of a map, in order, gives it back. -/
theorem ofList_entries (m : SortedMap κ ν) : ofList m.entries = m := by
  suffices h : ∀ (l : List (κ × ν)) (m₀ : SortedMap κ ν),
      (m₀.entries ++ l).Pairwise (fun a b => a.1 < b.1) →
      (l.foldl (fun m e => m.insert e.1 e.2) m₀).entries = m₀.entries ++ l from
    ext (h m.entries empty m.sorted)
  intro l
  induction l with
  | nil => intro m₀ _; exact (List.append_nil _).symm
  | cons a l ih =>
    intro m₀ h
    have ha : (m₀.insert a.1 a.2).entries = m₀.entries ++ [a] :=
      insertEntries_of_lt fun e he => (List.pairwise_append.1 h).2.2 e he a List.mem_cons_self
    rw [List.foldl_cons, ih _ (by rw [ha, List.append_assoc]; exact h), ha, List.append_assoc,
      List.singleton_append]

/-! ## Collecting entries -/

theorem nodup_keys (m : SortedMap κ ν) : (m.entries.map Prod.fst).Nodup :=
  List.pairwise_map.2 (m.sorted.imp fun h => h.ne)

theorem mem_ofList {l : List (κ × ν)} {e : κ × ν} (he : e ∈ (ofList l).entries) : e ∈ l := by
  suffices h : ∀ (l : List (κ × ν)) (m₀ : SortedMap κ ν),
      e ∈ (l.foldl (fun m e => m.insert e.1 e.2) m₀).entries → e ∈ m₀.entries ∨ e ∈ l from
    (h l empty he).resolve_left List.not_mem_nil
  intro l
  induction l with
  | nil => exact fun m₀ h => .inl h
  | cons a l ih =>
    intro m₀ h
    rcases ih _ h with h | h
    · exact (mem_insertEntries h).elim (fun h => .inr (h ▸ List.mem_cons_self)) .inl
    · exact .inr (List.mem_cons_of_mem _ h)

/-- Inserting under a free key adds an entry. -/
theorem perm_insertEntries {k : κ} {v : ν} {l : List (κ × ν)} (h : k ∉ l.map Prod.fst) :
    (insertEntries k v l).Perm ((k, v) :: l) := by
  induction l with
  | nil => exact .refl _
  | cons a l ih =>
    rw [List.map_cons, List.mem_cons, not_or] at h
    rw [insertEntries]
    split_ifs with h₁ h₂
    · exact .refl _
    · exact ((ih h.2).cons a).trans (.swap _ _ _)
    · exact absurd (le_antisymm (not_lt.1 h₂) (not_lt.1 h₁)) h.1

/-- Entries with distinct keys are all there. -/
theorem perm_ofList {l : List (κ × ν)} (h : (l.map Prod.fst).Nodup) :
    (ofList l).entries.Perm l := by
  suffices hfold : ∀ (l : List (κ × ν)) (m₀ : SortedMap κ ν), ((m₀.entries ++ l).map Prod.fst).Nodup →
      (l.foldl (fun m e => m.insert e.1 e.2) m₀).entries.Perm (m₀.entries ++ l) from
    hfold l empty h
  intro l
  induction l with
  | nil => exact fun m₀ _ => List.Perm.of_eq (List.append_nil _).symm
  | cons a l ih =>
    intro m₀ hnodup
    have ha : a.1 ∉ m₀.entries.map Prod.fst := by
      rw [List.map_append, List.map_cons] at hnodup
      exact fun hm => (List.nodup_append.1 hnodup).2.2 _ hm _ List.mem_cons_self rfl
    have hinsert : ((m₀.insert a.1 a.2).entries ++ l).Perm (m₀.entries ++ a :: l) :=
      ((perm_insertEntries ha).append_right l).trans List.perm_middle.symm
    exact (ih _ ((hinsert.map Prod.fst).nodup_iff.2 hnodup)).trans hinsert

theorem length_ofList_iff {l : List (κ × ν)} :
    (ofList l).entries.length = l.length ↔ (l.map Prod.fst).Nodup := by
  constructor
  · intro h
    -- What is there is a part of the entries, and not a smaller one.
    have hsub : (ofList l).entries.Subperm l :=
      List.subperm_of_subset (List.Nodup.of_map _ (nodup_keys _)) fun _ he => mem_ofList he
    exact ((hsub.perm_of_length_le h.ge).map Prod.fst).nodup_iff.1 (nodup_keys _)
  · exact fun h => (perm_ofList h).length_eq

end SortedMap

end ExEx
