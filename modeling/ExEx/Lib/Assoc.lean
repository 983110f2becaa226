import ExEx.Lib.Loop
import Mathlib.Data.List.Nodup
import Mathlib.Data.List.Perm.Subperm

/-!
# Keyed collections

An `Assoc κ ν` is a list of entries no two of which share a key. It stands for
two things that look alike from a program: a table with a `UNIQUE` key, and a
hash map together with the order in which it happens to be enumerated. New keys
go to the end, and writing to a key already there keeps its place.

* `lookup` after each operation is an equation (`lookup_put`, `lookup_erase`,
  `lookup_filter`, `lookup_set`), so that proofs about a program reason about
  lookups and never about the list;
* `setAll` runs a list of writes and deletions in order: at each key, the last
  one decides (`lookup_setAll`);
* `insertNew` is the write a `UNIQUE` constraint guards.
-/

namespace ExEx

/-- Entries with pairwise distinct keys, in order of insertion. -/
structure Assoc (κ ν : Type*) where
  /-- The entries. -/
  entries : List (κ × ν)
  /-- No key occurs twice. -/
  nodup : (entries.map Prod.fst).Nodup

namespace Assoc

universe u

variable {κ ν : Type*}

/-- The keys, in order of insertion. -/
def keys (m : Assoc κ ν) : List κ := m.entries.map Prod.fst

@[ext]
theorem ext {m m' : Assoc κ ν} (h : m.entries = m'.entries) : m = m' := by
  cases m; cases m'; congr

/-- The empty collection. -/
def empty : Assoc κ ν := ⟨[], List.nodup_nil⟩

instance : Inhabited (Assoc κ ν) := ⟨empty⟩

/-- The entries whose key satisfies `p`. -/
def filter (p : κ → Bool) (m : Assoc κ ν) : Assoc κ ν where
  entries := m.entries.filter fun e => p e.1
  nodup := by
    have h : (m.entries.filter fun e => p e.1).map Prod.fst = (m.entries.map Prod.fst).filter p := by
      rw [List.filter_map]; rfl
    exact h ▸ m.nodup.filter p

variable [DecidableEq κ]

instance [DecidableEq ν] : DecidableEq (Assoc κ ν) := fun m m' =>
  decidable_of_iff (m.entries = m'.entries) ⟨ext, fun h => h ▸ rfl⟩

/-- The value stored under a key. -/
def lookup (m : Assoc κ ν) (k : κ) : Option ν := m.entries.lookup k

/-- Whether a key is stored. -/
def contains (m : Assoc κ ν) (k : κ) : Bool := (m.lookup k).isSome

/-! ## Lists of entries -/

theorem lookup_cons_ite (k : κ) (e : κ × ν) (l : List (κ × ν)) :
    List.lookup k (e :: l) = if k = e.1 then some e.2 else l.lookup k := by
  obtain ⟨k', v⟩ := e
  rw [List.lookup_cons]
  by_cases h : k = k'
  · rw [beq_iff_eq.2 h, if_pos h]
  · rw [beq_eq_false_iff_ne.2 h, if_neg h]

/-- The entries after writing `v` under `k`. -/
def putEntries (k : κ) (v : ν) : List (κ × ν) → List (κ × ν)
  | [] => [(k, v)]
  | e :: l => if e.1 = k then (k, v) :: l else e :: putEntries k v l

theorem keys_putEntries (k : κ) (v : ν) (l : List (κ × ν)) :
    (putEntries k v l).map Prod.fst =
      if k ∈ l.map Prod.fst then l.map Prod.fst else l.map Prod.fst ++ [k] := by
  induction l with
  | nil => rfl
  | cons e l ih =>
    rw [putEntries]
    split_ifs with h hk hk
    · simp [h]
    · exact absurd (List.mem_map.2 ⟨e, List.mem_cons_self, h⟩) hk
    · have hkl : k ∈ l.map Prod.fst := (List.mem_cons.1 hk).resolve_left fun hek => h hek.symm
      simp [ih, hkl]
    · have hkl : k ∉ l.map Prod.fst := fun hkl => hk (List.mem_cons_of_mem _ hkl)
      simp [ih, hkl]

theorem nodup_putEntries {k : κ} {v : ν} {l : List (κ × ν)} (h : (l.map Prod.fst).Nodup) :
    ((putEntries k v l).map Prod.fst).Nodup := by
  rw [keys_putEntries]
  split_ifs with hk
  · exact h
  · exact List.nodup_append.2 ⟨h, List.nodup_singleton k, fun a ha b hb => by
      rw [List.mem_singleton.1 hb]; exact fun hab => hk (hab ▸ ha)⟩

theorem lookup_putEntries (k k' : κ) (v : ν) (l : List (κ × ν)) :
    (putEntries k v l).lookup k' = if k' = k then some v else l.lookup k' := by
  induction l with
  | nil => rw [putEntries, lookup_cons_ite]
  | cons e l ih =>
    rw [putEntries]
    split_ifs with h h' h' <;> rw [lookup_cons_ite]
    · rw [if_pos h']
    · rw [if_neg h', lookup_cons_ite, if_neg (h ▸ h')]
    · rw [if_neg fun hk => h (h' ▸ hk.symm), ih, if_pos h']
    · rw [ih, if_neg h', lookup_cons_ite]

theorem putEntries_of_not_mem {k : κ} {v : ν} {l : List (κ × ν)} (h : k ∉ l.map Prod.fst) :
    putEntries k v l = l ++ [(k, v)] := by
  induction l with
  | nil => rfl
  | cons e l ih =>
    rw [List.map_cons, List.mem_cons, not_or] at h
    rw [putEntries, if_neg fun he => h.1 he.symm, ih h.2, List.cons_append]

theorem lookup_filter_entries (p : κ → Bool) (k : κ) (l : List (κ × ν)) :
    (l.filter fun e => p e.1).lookup k = if p k then l.lookup k else none := by
  induction l with
  | nil => simp
  | cons e l ih =>
    rw [List.filter_cons, lookup_cons_ite]
    by_cases hk : k = e.1
    · subst hk
      by_cases hp : p e.1 <;> simp [hp, lookup_cons_ite, ih]
    · rw [if_neg hk, ← ih]
      by_cases hp : p e.1 <;> simp [hp, lookup_cons_ite, hk]

/-! ## Operations -/

/-- Writes `v` under `k`, over whatever is there. -/
def put (m : Assoc κ ν) (k : κ) (v : ν) : Assoc κ ν :=
  ⟨putEntries k v m.entries, nodup_putEntries m.nodup⟩

/-- Removes the entry of `k`, if any. -/
def erase (m : Assoc κ ν) (k : κ) : Assoc κ ν := m.filter fun k' => k' ≠ k

/-- Writes under `k` when the key is free, and otherwise keeps what is there. -/
def putIfAbsent (m : Assoc κ ν) (k : κ) (v : ν) : Assoc κ ν :=
  if m.contains k then m else m.put k v

/-- Writes under a key that must be free: `none` when it is taken. -/
def insertNew (m : Assoc κ ν) (k : κ) (v : ν) : Option (Assoc κ ν) :=
  if m.contains k then none else some (m.put k v)

/-- Writes `some v` under `k`, or removes `k` on `none`. -/
def set (m : Assoc κ ν) (k : κ) : Option ν → Assoc κ ν
  | some v => m.put k v
  | none => m.erase k

/-- Runs writes and removals in order. -/
def setAll (m : Assoc κ ν) (l : List (κ × Option ν)) : Assoc κ ν :=
  l.foldl (fun m e => m.set e.1 e.2) m

/-- Removes keys in order. -/
def eraseAll (m : Assoc κ ν) (l : List κ) : Assoc κ ν := l.foldl erase m

/-- Runs writes in order. -/
def putAll (m : Assoc κ ν) (l : List (κ × ν)) : Assoc κ ν :=
  l.foldl (fun m e => m.put e.1 e.2) m

/-- Collects entries, a later one overwriting an earlier one of the same key. -/
def ofList (l : List (κ × ν)) : Assoc κ ν := empty.putAll l

@[simp] theorem lookup_empty (k : κ) : (empty : Assoc κ ν).lookup k = none := rfl

@[simp] theorem lookup_put (m : Assoc κ ν) (k k' : κ) (v : ν) :
    (m.put k v).lookup k' = if k' = k then some v else m.lookup k' :=
  lookup_putEntries k k' v m.entries

@[simp] theorem lookup_filter (m : Assoc κ ν) (p : κ → Bool) (k : κ) :
    (m.filter p).lookup k = if p k then m.lookup k else none :=
  lookup_filter_entries p k m.entries

@[simp] theorem lookup_erase (m : Assoc κ ν) (k k' : κ) :
    (m.erase k).lookup k' = if k' = k then none else m.lookup k' := by
  by_cases h : k' = k <;> simp [erase, h]

@[simp] theorem lookup_set (m : Assoc κ ν) (k k' : κ) (o : Option ν) :
    (m.set k o).lookup k' = if k' = k then o else m.lookup k' := by
  cases o with
  | none => exact lookup_erase m k k'
  | some v => exact lookup_put m k k' v

@[simp] theorem lookup_putIfAbsent (m : Assoc κ ν) (k k' : κ) (v : ν) :
    (m.putIfAbsent k v).lookup k' = if k' = k then (m.lookup k).or (some v) else m.lookup k' := by
  rw [putIfAbsent, contains]
  cases hk : m.lookup k with
  | none => simp
  | some w =>
    rw [if_pos Option.isSome_some]
    split_ifs with h
    · rw [h, hk]; rfl
    · rfl

theorem insertNew_eq_some {m m' : Assoc κ ν} {k : κ} {v : ν} :
    m.insertNew k v = some m' ↔ m.lookup k = none ∧ m' = m.put k v := by
  rw [insertNew, contains]
  cases m.lookup k <;> simp [eq_comm]

/-- The entries under the keys that start with `a`, by the rest of the key. -/
def slice {α β : Type*} [DecidableEq α] (m : Assoc (α × β) ν) (a : α) : Assoc β ν where
  entries := (m.entries.filter fun e => e.1.1 = a).map fun e => (e.1.2, e.2)
  nodup := by
    rw [List.map_map]
    have hf := (m.filter fun k => decide (k.1 = a)).nodup
    refine List.Nodup.map_on ?_ (List.Nodup.of_map _ hf)
    intro e he e' he' hee
    have h₁ := of_decide_eq_true (List.mem_filter.1 he).2
    have h₂ := of_decide_eq_true (List.mem_filter.1 he').2
    exact List.inj_on_of_nodup_map hf he he' (Prod.ext (h₁.trans h₂.symm) hee)

@[simp] theorem lookup_slice {α β : Type*} [DecidableEq α] [DecidableEq β]
    (m : Assoc (α × β) ν) (a : α) (b : β) : (m.slice a).lookup b = m.lookup (a, b) := by
  obtain ⟨l, hl⟩ := m
  simp only [slice, lookup]
  clear hl
  induction l with
  | nil => rfl
  | cons e l ih =>
    rw [lookup_cons_ite, List.filter_cons]
    -- An entry of the slice is one under `a`; the key `(a, b)` is under no other.
    by_cases ha : e.1.1 = a
    · simp only [ha, decide_true, if_true, List.map_cons, lookup_cons_ite, ih, Prod.ext_iff,
        true_and]
    · have : ¬(a, b) = e.1 := fun h => ha (h ▸ rfl)
      simp only [ha, decide_false, this, if_false, ih, Bool.false_eq_true]

/-! ## Keys and entries -/

theorem mem_keys_iff {m : Assoc κ ν} {k : κ} : k ∈ m.keys ↔ (m.lookup k).isSome := by
  obtain ⟨l, hl⟩ := m
  simp only [keys, lookup]
  clear hl
  induction l with
  | nil => simp
  | cons e l ih =>
    rw [lookup_cons_ite, List.map_cons, List.mem_cons]
    by_cases h : k = e.1 <;> simp [h, ih]

theorem lookup_eq_none_iff {m : Assoc κ ν} {k : κ} : m.lookup k = none ↔ k ∉ m.keys := by
  rw [mem_keys_iff]; cases m.lookup k <;> simp

/-- The entries are exactly what lookups find. -/
theorem mem_entries_iff {m : Assoc κ ν} {k : κ} {v : ν} :
    (k, v) ∈ m.entries ↔ m.lookup k = some v := by
  obtain ⟨l, hl⟩ := m
  simp only [lookup]
  induction l with
  | nil => simp
  | cons e l ih =>
    rw [List.map_cons, List.nodup_cons] at hl
    obtain ⟨k₀, v₀⟩ := e
    rw [lookup_cons_ite]
    by_cases h : k = k₀
    -- The key of the first entry is that of no other.
    · subst h
      have : (k, v) ∉ l := fun hm => hl.1 (List.mem_map.2 ⟨_, hm, rfl⟩)
      simp [this, eq_comm]
    · simp [h, ih hl.2]

/-- Maps with the same keys, in the same order, are equal when lookups are. -/
theorem eq_of_lookup {m m' : Assoc κ ν} (hkeys : m.keys = m'.keys)
    (h : ∀ k, m.lookup k = m'.lookup k) : m = m' := by
  have hlength : m.entries.length = m'.entries.length := by
    simpa [keys] using congrArg List.length hkeys
  refine ext (List.ext_getElem hlength fun i hi hi' => ?_)
  have hkey : m.entries[i].1 = m'.entries[i].1 := by
    simpa [keys, hi, hi'] using congrArg (fun l => l[i]?) hkeys
  have hvalue : m.lookup m.entries[i].1 = some m.entries[i].2 :=
    mem_entries_iff.1 (List.getElem_mem hi)
  have hvalue' : m'.lookup m'.entries[i].1 = some m'.entries[i].2 :=
    mem_entries_iff.1 (List.getElem_mem hi')
  rw [h, hkey, hvalue'] at hvalue
  exact Prod.ext hkey (Option.some.inj hvalue).symm

/-- Writing to a key that is there changes no key. -/
theorem keys_put_of_mem {m : Assoc κ ν} {k : κ} (h : (m.lookup k).isSome) (v : ν) :
    (m.put k v).keys = m.keys := by
  have hmem : k ∈ m.entries.map Prod.fst := mem_keys_iff.2 h
  rw [keys, put, keys_putEntries, if_pos hmem, keys]

theorem entries_put_of_lookup_none {m : Assoc κ ν} {k : κ} (h : m.lookup k = none) (v : ν) :
    (m.put k v).entries = m.entries ++ [(k, v)] :=
  putEntries_of_not_mem (lookup_eq_none_iff.1 h)

/-- An insert that succeeds appends its entry, and fails when it cannot. -/
theorem insertNew_eq_some_iff_entries {m m' : Assoc κ ν} {k : κ} {v : ν} :
    m.insertNew k v = some m' ↔ m'.entries = m.entries ++ [(k, v)] := by
  rw [insertNew_eq_some]
  constructor
  · rintro ⟨hk, rfl⟩
    exact entries_put_of_lookup_none hk v
  · intro h
    have hk : m.lookup k = none := by
      -- The longer list has distinct keys, so the new one is not among the old ones.
      have hnodup := m'.nodup
      rw [h, List.map_append] at hnodup
      exact lookup_eq_none_iff.2 fun hm =>
        (List.nodup_append.1 hnodup).2.2 _ hm _ (List.mem_map_of_mem List.mem_cons_self) rfl
    exact ⟨hk, ext (h.trans (entries_put_of_lookup_none hk v).symm)⟩

/-- Removing a key that was free before a write undoes the write. -/
theorem erase_put_of_lookup_none {m : Assoc κ ν} {k : κ} (h : m.lookup k = none) (v : ν) :
    (m.put k v).erase k = m := by
  have hk : ∀ e ∈ m.entries, e.1 ≠ k := fun e he hek =>
    lookup_eq_none_iff.1 h (hek ▸ List.mem_map.2 ⟨e, he, rfl⟩)
  apply ext
  simp only [erase, filter, entries_put_of_lookup_none h v, List.filter_append]
  rw [List.filter_eq_self.2 fun e he => decide_eq_true (hk e he)]
  simp

/-! ## Runs of removals -/

theorem entries_eraseAll (m : Assoc κ ν) (l : List κ) :
    (m.eraseAll l).entries = m.entries.filter fun e => e.1 ∉ l := by
  induction l generalizing m with
  | nil => exact (List.filter_eq_self.2 fun e _ => decide_eq_true List.not_mem_nil).symm
  | cons k l ih =>
    rw [eraseAll, List.foldl_cons, ← eraseAll, ih, erase, filter, List.filter_filter]
    refine List.filter_congr fun e _ => ?_
    rw [← Bool.decide_and, decide_eq_decide, List.mem_cons, not_or, and_comm]

/-- Removing the keys of the last entries leaves the first ones. -/
theorem entries_eraseAll_append {m : Assoc κ ν} {l l' : List (κ × ν)} (h : m.entries = l ++ l') :
    (m.eraseAll (l'.map Prod.fst)).entries = l := by
  have hnodup := m.nodup
  rw [h, List.map_append] at hnodup
  have hl : ∀ e ∈ l, e.1 ∉ l'.map Prod.fst := fun e he hmem =>
    (List.nodup_append.1 hnodup).2.2 _ (List.mem_map_of_mem he) _ hmem rfl
  have hl' : ∀ e ∈ l', ¬e.1 ∉ l'.map Prod.fst := fun e he => not_not.2 (List.mem_map_of_mem he)
  rw [entries_eraseAll, h, List.filter_append, List.filter_eq_self.2 fun e he => decide_eq_true (hl e he),
    List.filter_eq_nil_iff.2 fun e he => by simpa using hl' e he, List.append_nil]

/-! ## Runs of writes -/

/-- The value the writes of `l` leave under `k`: that of the last one, if any. -/
def lastWrite (l : List (κ × ν)) (k : κ) : Option ν := l.reverse.lookup k

theorem lastWrite_nil (k : κ) : lastWrite ([] : List (κ × ν)) k = none := rfl

theorem lastWrite_cons (e : κ × ν) (l : List (κ × ν)) (k : κ) :
    lastWrite (e :: l) k = (lastWrite l k).or (if k = e.1 then some e.2 else none) := by
  rw [lastWrite, lastWrite, List.reverse_cons, List.lookup_append, lookup_cons_ite, List.lookup_nil]

theorem lastWrite_singleton (k k' : κ) (v : ν) :
    lastWrite [(k, v)] k' = if k' = k then some v else none := by
  rw [lastWrite_cons, lastWrite_nil, Option.none_or]

theorem lastWrite_append (l l' : List (κ × ν)) (k : κ) :
    lastWrite (l ++ l') k = (lastWrite l' k).or (lastWrite l k) := by
  rw [lastWrite, lastWrite, lastWrite, List.reverse_append, List.lookup_append]

theorem lastWrite_eq_none_iff {l : List (κ × ν)} {k : κ} :
    lastWrite l k = none ↔ k ∉ l.map Prod.fst := by
  induction l with
  | nil => simp [lastWrite_nil]
  | cons e l ih =>
    rw [lastWrite_cons, Option.or_eq_none_iff, ih, List.map_cons, List.mem_cons, not_or, and_comm]
    by_cases h : k = e.1 <;> simp [h]

theorem mem_of_lastWrite {l : List (κ × ν)} {k : κ} {v : ν} (h : lastWrite l k = some v) :
    (k, v) ∈ l := by
  obtain ⟨l₁, l₂, hl, -⟩ := List.lookup_eq_some_iff.1 h
  rw [← List.mem_reverse, hl]
  exact List.mem_append_right _ List.mem_cons_self

/-- Where keys are distinct, the write of a key is its entry in the list. -/
theorem lastWrite_eq_some_iff {l : List (κ × ν)} (hl : (l.map Prod.fst).Nodup) {k : κ} {v : ν} :
    lastWrite l k = some v ↔ (k, v) ∈ l := by
  have hr : (l.reverse.map Prod.fst).Nodup := by
    rw [List.map_reverse]; exact List.nodup_reverse.2 hl
  rw [← List.mem_reverse]
  exact (mem_entries_iff (m := ⟨l.reverse, hr⟩)).symm

/-- The writes that make up a collection leave what it holds. -/
@[simp] theorem lastWrite_entries (m : Assoc κ ν) (k : κ) : lastWrite m.entries k = m.lookup k := by
  refine Option.ext ?_
  intro v
  rw [lastWrite_eq_some_iff m.nodup, mem_entries_iff]

/-- Renaming keys injectively, and changing values. -/
theorem lastWrite_map {κ' ν' : Type*} [DecidableEq κ'] {g : κ → κ'} (hg : Function.Injective g)
    (f : ν → ν') (l : List (κ × ν)) (k : κ) :
    lastWrite (l.map fun e => (g e.1, f e.2)) (g k) = (lastWrite l k).map f := by
  induction l with
  | nil => rfl
  | cons e l ih =>
    rw [List.map_cons, lastWrite_cons, lastWrite_cons, ih]
    cases lastWrite l k <;> by_cases h : k = e.1 <;> simp [h, hg.eq_iff]

omit [DecidableEq κ] in
theorem lastWrite_map_of_forall_ne {κ' ν' : Type*} [DecidableEq κ'] {g : κ → κ'} (f : ν → ν')
    (l : List (κ × ν)) {k' : κ'} (h : ∀ k, g k ≠ k') :
    lastWrite (l.map fun e => (g e.1, f e.2)) k' = none := by
  refine lastWrite_eq_none_iff.2 ?_
  intro hk
  obtain ⟨_, he, rfl⟩ := List.mem_map.1 hk
  obtain ⟨e, _, rfl⟩ := List.mem_map.1 he
  exact h e.1 rfl

/-- Parsing the values of a list of writes keeps its keys, and at each key
    parses the last write. -/
theorem lastWrite_mapM {κ ν ν' : Type u} [DecidableEq κ] {ε : Type*} {p : ν → Except ε ν'}
    {l : List (κ × ν)} {l' : List (κ × ν')} (h : (l.mapM fun e => do let v ← p e.2; .ok (e.1, v)) = .ok l') :
    l'.map Prod.fst = l.map Prod.fst ∧
      ∀ k v, lastWrite l k = some v → ∃ v', p v = .ok v' ∧ lastWrite l' k = some v' := by
  induction l generalizing l' with
  | nil =>
    obtain rfl : [] = l' := Except.ok.inj h
    exact ⟨rfl, nofun⟩
  | cons e l ih =>
    rw [List.mapM_cons] at h
    obtain ⟨e', he', h⟩ := bind_eq_ok.1 h
    obtain ⟨v', hv', he'⟩ := bind_eq_ok.1 he'
    obtain ⟨l₁, hl₁, h⟩ := bind_eq_ok.1 h
    obtain rfl := Except.ok.inj he'
    obtain rfl := Except.ok.inj h
    obtain ⟨hk, hw⟩ := ih hl₁
    refine ⟨by rw [List.map_cons, List.map_cons, hk], ?_⟩
    intro k v hv
    rw [lastWrite_cons] at hv ⊢
    -- Either the first write is the last one at its key, or there is a later one.
    rcases hl : lastWrite l k with _ | w
    · have hl' : lastWrite l₁ k = none := by
        rw [lastWrite_eq_none_iff, hk]; exact lastWrite_eq_none_iff.1 hl
      rw [hl, Option.none_or] at hv
      split_ifs at hv with hke
      obtain rfl := Option.some.inj hv
      exact ⟨v', hv', by rw [hl', Option.none_or, if_pos hke]⟩
    · rw [hl, Option.some_or, Option.some.injEq] at hv
      obtain ⟨w', hw', hlw⟩ := hw k w hl
      exact ⟨w', hv ▸ hw', by rw [hlw, Option.some_or]⟩

/-- At each key, the last write or removal decides. -/
theorem lookup_setAll (m : Assoc κ ν) (l : List (κ × Option ν)) (k : κ) :
    (m.setAll l).lookup k = (lastWrite l k).getD (m.lookup k) := by
  induction l generalizing m with
  | nil => rfl
  | cons e l ih =>
    rw [setAll, List.foldl_cons, ← setAll, ih, lookup_set, lastWrite_cons]
    cases lastWrite l k <;> by_cases h : k = e.1 <;> simp [h]

/-- At each key, the last write decides. -/
theorem lookup_putAll (m : Assoc κ ν) (l : List (κ × ν)) (k : κ) :
    (m.putAll l).lookup k = (lastWrite l k).or (m.lookup k) := by
  induction l generalizing m with
  | nil => rfl
  | cons e l ih =>
    rw [putAll, List.foldl_cons, ← putAll, ih, lookup_put, lastWrite_cons]
    cases lastWrite l k <;> by_cases h : k = e.1 <;> simp [h]

/-- Of values that are written where there is none, the first one stays. -/
theorem lookup_foldl_putIfAbsent {α : Type*} (f : α → ν) (m : Assoc κ ν) (l : List (κ × α)) (k : κ) :
    (l.foldl (fun m e => m.putIfAbsent e.1 (f e.2)) m).lookup k =
      (m.lookup k).or ((l.lookup k).map f) := by
  induction l generalizing m with
  | nil => simp
  | cons e l ih =>
    rw [List.foldl_cons, ih, lookup_putIfAbsent, lookup_cons_ite]
    by_cases h : k = e.1
    · subst h
      cases m.lookup e.1 <;> simp
    · simp [h]

theorem entries_putAll_of_nodup {m : Assoc κ ν} {l : List (κ × ν)}
    (h : ((m.entries ++ l).map Prod.fst).Nodup) : (m.putAll l).entries = m.entries ++ l := by
  induction l generalizing m with
  | nil => simp [putAll]
  | cons e l ih =>
    have hk : e.1 ∉ m.entries.map Prod.fst := by
      rw [List.map_append, List.map_cons] at h
      exact fun hm => (List.nodup_append.1 h).2.2 _ hm _ List.mem_cons_self rfl
    have he : (m.put e.1 e.2).entries = m.entries ++ [e] := putEntries_of_not_mem hk
    rw [putAll, List.foldl_cons, ← putAll, ih (by rw [he, List.append_assoc]; exact h), he,
      List.append_assoc, List.singleton_append]

/-- Collecting the entries of a collection gives it back. -/
theorem ofList_entries (m : Assoc κ ν) : ofList m.entries = m :=
  ext (entries_putAll_of_nodup (m := empty) m.nodup)

omit [DecidableEq κ] in
/-- The same keys, with other values. -/
def mapValues {ν' : Type*} (f : ν → ν') (m : Assoc κ ν) : Assoc κ ν' where
  entries := m.entries.map fun e => (e.1, f e.2)
  nodup := by
    rw [List.map_map]
    exact m.nodup

end Assoc

end ExEx
