import ExEx.Rollup.Database

/-!
# What reverting the tip leaves

`revertTipBlock` collects the revert rows of the block into a `BundleStateInit`,
in which each account has its old and its current info and each of its slots
its old value, and then writes the old ones back account by account. As both
the collecting and the writing back treat each key once, what is left
(`reverted`) is:

* an account with a revert row is that of the row, and other accounts are as
  they were;
* a slot with a revert row holds the value of the row, with no row of its own
  when this is zero, and other slots are as they were;
* the block is gone, and *the revert rows stay*.
-/

namespace ExEx.Rollup

open Reth (RecoveredBlock)
open Assoc (lastWrite lastWrite_cons lastWrite_entries lastWrite_mapM lastWrite_eq_none_iff
  lastWrite_eq_some_iff mem_entries_iff)

/-- The row of a slot holding a value: none if it is zero. -/
def slotText (v : U256) : Option Text := if v = 0 then none else some v.toText

/-! ## Collecting -/

/-- Noting the accounts gives each account with a revert row its old info. -/
theorem lookup_foldl_noteAccount (t : Tables) (m : Assoc Address (Option AccountInfo))
    (a : Address) :
    (m.entries.foldl (noteAccount t) .empty).lookup a =
      (m.lookup a).map fun old => ⟨old, getAccount t a, .empty⟩ := by
  suffices h : ∀ (l : List (Address × Option AccountInfo)) (state : BundleStateInit),
      (l.map Prod.fst).Nodup → (∀ e ∈ l, state.lookup e.1 = none) →
      (l.foldl (noteAccount t) state).lookup a =
        ((lastWrite l a).map fun old => ⟨old, getAccount t a, .empty⟩).or (state.lookup a) by
    rw [h m.entries .empty m.nodup fun _ _ => rfl, lastWrite_entries, Assoc.lookup_empty,
      Option.or_none]
  -- An account comes up once, so its entry is always new.
  intro l
  induction l with
  | nil => intro state _ _; rfl
  | cons e l ih =>
    intro state hl hs
    rw [List.map_cons, List.nodup_cons] at hl
    have hnote : noteAccount t state e = state.put e.1 ⟨e.2, getAccount t e.1, .empty⟩ := by
      rw [noteAccount, hs e List.mem_cons_self]
    rw [List.foldl_cons, hnote, ih _ hl.2, lastWrite_cons, Assoc.lookup_put]
    · by_cases ha : a = e.1
      · subst ha
        rw [lastWrite_eq_none_iff.2 hl.1]
        simp
      · simp [ha]
    · intro e' he'
      have hne : e'.1 ≠ e.1 := fun he => hl.1 (he ▸ List.mem_map_of_mem he')
      rw [Assoc.lookup_put, if_neg hne, hs e' (List.mem_cons_of_mem _ he')]

/-- The old value noted for a slot. -/
def oldValue (state : BundleStateInit) (key : Address × B256) : Option U256 :=
  ((state.lookup key.1).bind fun s => s.storage.lookup key.2).map Prod.fst

/-- Every account with a revert row is noted. Of each account noted, the current
    info is the stored one, and the old info is that of its revert row, or else
    the stored one too. -/
def NotedAccounts (t : Tables) (rows : Assoc Address (Option AccountInfo))
    (state : BundleStateInit) : Prop :=
  ∀ a, (state.lookup a = none → rows.lookup a = none) ∧ ∀ s, state.lookup a = some s →
    s.newInfo = getAccount t a ∧ s.oldInfo = (rows.lookup a).getD (getAccount t a)

theorem notedAccounts_foldl_noteAccount (t : Tables) (rows : Assoc Address (Option AccountInfo)) :
    NotedAccounts t rows (rows.entries.foldl (noteAccount t) .empty) := fun a => by
  rw [lookup_foldl_noteAccount]
  cases rows.lookup a with
  | none => exact ⟨fun _ => rfl, nofun⟩
  | some old =>
    refine ⟨nofun, ?_⟩
    intro s hs
    obtain rfl := Option.some.inj hs
    exact ⟨rfl, rfl⟩

theorem noteSlot_ok {t : Tables} {storage : Assoc B256 (U256 × U256)} {a : Address} {k : B256}
    {oldData : U256} {slot : U256 × U256} (h : noteSlot t storage a k oldData = .ok slot) :
    slot.1 = oldData := by
  rw [noteSlot] at h
  split at h
  · obtain ⟨_, _, h⟩ := bind_eq_ok.1 h
    rw [← Except.ok.inj h]
  · rw [← Except.ok.inj h]

/-- Noting a slot sets its old value, and no other. -/
theorem noteStorage_ok {t : Tables} {rows : Assoc Address (Option AccountInfo)}
    {state state' : BundleStateInit} {e : (Address × B256) × U256}
    (hs : NotedAccounts t rows state) (h : noteStorage t state e = .ok state') :
    NotedAccounts t rows state' ∧ oldValue state' e.1 = some e.2 ∧
      ∀ key, key ≠ e.1 → oldValue state' key = oldValue state key := by
  obtain ⟨⟨a, k⟩, oldData⟩ := e
  rw [noteStorage] at h
  obtain ⟨slot, hslot, h⟩ := bind_eq_ok.1 h
  obtain rfl := Except.ok.inj h
  have hfst := noteSlot_ok hslot
  refine ⟨?_, ?_, ?_⟩
  · intro a'
    rw [Assoc.lookup_put]
    split_ifs with ha
    · -- The account of the slot: new, or noted before.
      subst ha
      refine ⟨fun h => (by cases h), ?_⟩
      intro s hs'
      obtain rfl := Option.some.inj hs'
      rcases hst : state.lookup a' with _ | s
      · rw [(hs a').1 hst]; exact ⟨rfl, rfl⟩
      · exact (hs a').2 s hst
    · exact hs a'
  · rw [oldValue, Assoc.lookup_put, if_pos rfl, Option.bind_some, Assoc.lookup_put, if_pos rfl,
      Option.map_some, hfst]
  · intro key hkey
    rw [oldValue, oldValue, Assoc.lookup_put]
    split_ifs with ha
    · have hk : key.2 ≠ k := fun hk => hkey (Prod.ext ha hk)
      rw [Option.bind_some, Assoc.lookup_put, if_neg hk, ha]
      cases state.lookup a <;> rfl
    · rfl

/-- Once all is noted, the slots with an old value are those with a revert row,
    and it is the value of the row. -/
theorem noted {t : Tables} {rows : Assoc Address (Option AccountInfo)}
    {slots : Assoc (Address × B256) Text} {storageReverts : List ((Address × B256) × U256)}
    {state : BundleStateInit}
    (hparse : (slots.entries.mapM fun e => do let data ← parseRevert e.2; .ok (e.1, data)) =
      .ok storageReverts)
    (h : storageReverts.reverse.foldlM (noteStorage t) (rows.entries.foldl (noteAccount t) .empty) =
      .ok state) :
    NotedAccounts t rows state ∧ (∀ key, slots.lookup key = none → oldValue state key = none) ∧
      ∀ key data, slots.lookup key = some data →
        ∃ v, parseRevert data = .ok v ∧ oldValue state key = some v := by
  obtain ⟨hkeys, hwrite⟩ := lastWrite_mapM hparse
  have hnodup : (storageReverts.map Prod.fst).Nodup := hkeys ▸ slots.nodup
  have hinit (key : Address × B256) :
      oldValue (rows.entries.foldl (noteAccount t) .empty) key = none := by
    rw [oldValue, lookup_foldl_noteAccount]
    cases rows.lookup key.1 <;> rfl
  obtain ⟨haccounts, hin, hout⟩ := foldlM_keyed Prod.fst oldValue (fun e _ => some e.2)
    (fun s e s' hs h => noteStorage_ok hs h)
    (by rw [List.map_reverse]; exact List.nodup_reverse.2 hnodup)
    (notedAccounts_foldl_noteAccount t rows) h
  refine ⟨haccounts, ?_, ?_⟩
  · intro key hkey
    rw [hout key, hinit]
    rw [List.map_reverse, List.mem_reverse, hkeys]
    exact Assoc.lookup_eq_none_iff.1 hkey
  · intro key data hkey
    obtain ⟨v, hv, hl⟩ := hwrite key data (by rw [lastWrite_entries, hkey])
    exact ⟨v, hv, hin (key, v) (List.mem_reverse.2 ((lastWrite_eq_some_iff hnodup).1 hl))⟩

/-! ## Writing back -/

/-- Restoring a slot leaves its old value in it. -/
theorem lookup_restoreSlot (t : Tables) (a : Address) (e : B256 × U256 × U256) (a' : Address)
    (k : B256) :
    (restoreSlot a t e).storage.lookup (a', k) =
      if a' = a ∧ k = e.1 then slotText e.2.1 else t.storage.lookup (a', k) := by
  rw [restoreSlot, slotText]
  by_cases hv : e.2.1 = 0
  · rw [if_pos hv, if_neg (not_not.2 hv)]
    simp [deleteStorage]
  · rw [if_neg hv, if_pos hv]
    by_cases hk : a' = a ∧ k = e.1 <;> simp [hk, deleteStorage, upsertStorage]

theorem restoreSlot_frame (a : Address) (t : Tables) (e : B256 × U256 × U256) :
    restoreSlot a t e = { t with storage := (restoreSlot a t e).storage } := by
  rw [restoreSlot]
  split_ifs <;> rfl

/-- Restoring the slots of an account changes the storage table only, there the
    slots noted for the account, and leaves their old values in them. -/
theorem foldl_restoreSlot (a : Address) (m : Assoc B256 (U256 × U256)) (t : Tables) :
    (m.entries.foldl (restoreSlot a) t) =
        { t with storage := (m.entries.foldl (restoreSlot a) t).storage } ∧
      ∀ a' k, (m.entries.foldl (restoreSlot a) t).storage.lookup (a', k) =
        if a' = a then ((m.lookup k).map fun v => slotText v.1).getD (t.storage.lookup (a', k))
        else t.storage.lookup (a', k) := by
  refine ⟨foldl_invariant (P := fun t' : Tables => t' = { t with storage := t'.storage })
    (fun t' e h => by rw [restoreSlot_frame, h]) _ rfl, ?_⟩
  intro a' k
  obtain ⟨hin, hout⟩ := foldl_keyed (f := restoreSlot a) Prod.fst
    (fun t k => fun a' => t.storage.lookup (a', k))
    (fun e old a' => if a' = a then slotText e.2.1 else old a')
    (fun t e => ⟨funext fun a' => by rw [lookup_restoreSlot]; simp,
      fun k hk => funext fun a' => by rw [lookup_restoreSlot, if_neg fun h => hk h.2]⟩) m.nodup t
  cases hm : m.lookup k with
  | none =>
    rw [congrFun (hout k (Assoc.lookup_eq_none_iff.1 hm)) a']
    simp
  | some v =>
    rw [congrFun (hin (k, v) (mem_entries_iff.2 hm)) a']
    simp

theorem restoreInfo_ok {t t' : Tables} {a : Address} {s : AccountState}
    (h : restoreInfo t a s = .ok t') :
    t' = { t with account := t'.account } ∧ ∀ a', t'.account.lookup a' =
      if a' = a ∧ s.oldInfo ≠ s.newInfo then s.oldInfo else t.account.lookup a' := by
  rw [restoreInfo] at h
  split_ifs at h with hne
  · rcases hold : s.oldInfo with _ | account <;> rw [hold] at h hne
    · obtain rfl := Except.ok.inj h
      refine ⟨rfl, ?_⟩
      intro a'
      simp [deleteAccount, hne]
    · obtain rfl := Except.ok.inj h
      refine ⟨rfl, ?_⟩
      intro a'
      simp [hne]
  · obtain rfl := Except.ok.inj h
    exact ⟨rfl, fun a' => by rw [if_neg fun h => hne h.2]⟩

/-- The account and the slots of an address. -/
def accountAndSlots (t : Tables) (a : Address) : Option AccountInfo × (B256 → Option Text) :=
  (getAccount t a, fun k => t.storage.lookup (a, k))

/-- What restoring does to the account and the slots of its address. -/
def restored (s : AccountState) (old : Option AccountInfo × (B256 → Option Text)) :
    Option AccountInfo × (B256 → Option Text) :=
  (if s.oldInfo ≠ s.newInfo then s.oldInfo else old.1,
    fun k => ((s.storage.lookup k).map fun v => slotText v.1).getD (old.2 k))

/-- Restoring an account changes that account and its slots only. -/
theorem restoreAccount_ok {t t' : Tables} {e : Address × AccountState}
    (h : restoreAccount t e = .ok t') :
    t' = { t with account := t'.account, storage := t'.storage } ∧
      accountAndSlots t' e.1 = restored e.2 (accountAndSlots t e.1) ∧
      ∀ a, a ≠ e.1 → accountAndSlots t' a = accountAndSlots t a := by
  rw [restoreAccount] at h
  obtain ⟨t₁, h₁, h⟩ := bind_eq_ok.1 h
  obtain rfl := Except.ok.inj h
  obtain ⟨hinfo, hacc⟩ := restoreInfo_ok h₁
  obtain ⟨hframe, hslots⟩ := foldl_restoreSlot e.1 e.2.storage t₁
  have hacc' (a : Address) : getAccount (e.2.storage.entries.foldl (restoreSlot e.1) t₁) a =
      t₁.account.lookup a := by rw [hframe]; rfl
  have hstorage : t₁.storage = t.storage := by rw [hinfo]
  refine ⟨by rw [hframe, hinfo], Prod.ext ?_ ?_, ?_⟩
  · rw [accountAndSlots, hacc', hacc]
    simp [restored, accountAndSlots, getAccount]
  · funext k
    refine (hslots e.1 k).trans ?_
    rw [if_pos rfl, hstorage]
    rfl
  intro a ha
  refine Prod.ext ?_ ?_
  · rw [accountAndSlots, hacc', hacc, if_neg fun h => ha h.1]
    rfl
  · funext k
    refine (hslots a k).trans ?_
    rw [if_neg ha, hstorage]
    rfl

/-- Restoring all that was noted puts back the old infos and the old values. -/
theorem restored_all {t t' : Tables} {rows : Assoc Address (Option AccountInfo)}
    {state : BundleStateInit} (hs : NotedAccounts t rows state)
    (h : state.entries.foldlM restoreAccount t = .ok t') :
    t' = { t with account := t'.account, storage := t'.storage } ∧
      (∀ a, getAccount t' a = (rows.lookup a).getD (getAccount t a)) ∧
      ∀ a k, t'.storage.lookup (a, k) =
        ((oldValue state (a, k)).map slotText).getD (t.storage.lookup (a, k)) := by
  obtain ⟨hframe, hin, hout⟩ := foldlM_keyed
    (P := fun t' : Tables => t' = { t with account := t'.account, storage := t'.storage })
    Prod.fst accountAndSlots (fun e old => restored e.2 old)
    (fun t₁ e t₂ h₁ h₂ => by
      obtain ⟨hf, hr⟩ := restoreAccount_ok h₂
      exact ⟨by rw [hf, h₁], hr⟩) state.nodup rfl h
  -- Account by account: one that is noted is restored, and others are left alone.
  have key (a : Address) : accountAndSlots t' a = ((rows.lookup a).getD (getAccount t a),
      fun k => ((oldValue state (a, k)).map slotText).getD (t.storage.lookup (a, k))) := by
    rcases ha : state.lookup a with _ | s
    · rw [hout a (Assoc.lookup_eq_none_iff.1 ha), (hs a).1 ha]
      simp [accountAndSlots, oldValue, ha]
    · obtain ⟨hnew, hold⟩ := (hs a).2 s ha
      rw [hin (a, s) (mem_entries_iff.2 ha), restored, hnew, ← hold]
      refine Prod.ext ?_ ?_
      · -- An info that did not change is not written, and is the stored one.
        by_cases hi : s.oldInfo = getAccount t a <;> simp [accountAndSlots, hi]
      · funext k
        simp [accountAndSlots, oldValue, ha, Function.comp_def]
  exact ⟨hframe, fun a => congrArg Prod.fst (key a), fun a k => congrFun (congrArg Prod.snd (key a)) k⟩

/-! ## The whole call -/

/-- What a successful revert of the tip makes of the tables. -/
structure Reverted (t : Tables) (n : U256) (t' : Tables) : Prop where
  tip : checkTip t n = .ok ()
  block_eq : t'.block = t.block.erase n.toText
  accountRevert_eq : t'.accountRevert = t.accountRevert
  storageRevert_eq : t'.storageRevert = t.storageRevert
  bytecode_eq : t'.bytecode = t.bytecode
  getAccount_eq : ∀ a, getAccount t' a =
    (t.accountRevert.lookup (n.toText, a)).getD (getAccount t a)
  storage_of_row : ∀ a k data, t.storageRevert.lookup (n.toText, a, k) = some data →
    ∃ v, parseRevert data = .ok v ∧ t'.storage.lookup (a, k) = slotText v
  storage_of_no_row : ∀ a k, t.storageRevert.lookup (n.toText, a, k) = none →
    t'.storage.lookup (a, k) = t.storage.lookup (a, k)

theorem reverted {t t' : Tables} {n : U256} (h : revertTipBlock t n = .ok t') :
    Reverted t n t' := by
  rw [revertTipBlock] at h
  obtain ⟨⟨⟩, htip, h⟩ := bind_eq_ok.1 h
  obtain ⟨storageReverts, hparse, h⟩ := bind_eq_ok.1 h
  obtain ⟨state, hnote, h⟩ := bind_eq_ok.1 h
  obtain ⟨hnoted, hnone, hsome⟩ := noted hparse hnote
  obtain ⟨hframe, haccount, hstorage⟩ := restored_all hnoted h
  have hrow (a : Address) (k : B256) : (t.storageRevert.slice n.toText).lookup (a, k) =
      t.storageRevert.lookup (n.toText, a, k) := Assoc.lookup_slice _ _ _
  refine ⟨htip, by rw [hframe], by rw [hframe], by rw [hframe], by rw [hframe], ?_, ?_, ?_⟩
  · intro a
    rw [haccount, Assoc.lookup_slice]; rfl
  · intro a k data hd
    obtain ⟨v, hv, hold⟩ := hsome (a, k) data (by rw [hrow, hd])
    exact ⟨v, hv, by rw [hstorage, hold]; rfl⟩
  · intro a k hd
    rw [hstorage, hnone (a, k) (by rw [hrow, hd])]; rfl

end ExEx.Rollup
