import ExEx.Lib.Undo
import ExEx.Rollup.Ideal
import ExEx.Rollup.Linked
import ExEx.Rollup.Overlay

/-!
# Reorganizations

The node takes blocks off the end of its chain and puts others there, any number of
times, and the driver follows: it reverts the events of the blocks that go, and commits
those of the blocks that come. Then the store should be what committing the events of
the chain as it is now makes of it, whatever was committed and reverted in between.

It is when each event that is committed can be reverted (`Undoes`): no revert fails then,
and the store is one that the events of the chain lead to (`Derives`), up to what a
revert does not give back.

* `derived`: the store is, on every run over any such store;
* `ideal_derived`: on the ideal store, when no submitted block is skipped;
* `database_derived`: on the tables, when no block is skipped either, wipes storage, has a
  number whose text comes before that of a stored one, or leaves a revert row as it is that
  an earlier block of its number wrote and that differs from what is there.
-/

namespace ExEx.Rollup

open Reth (RecoveredBlock TransactionSigned Chain ExExNotification)
open Assoc (lastWrite_eq_none_iff)

/-! ## Following the chain -/

/-- The events of the chain the node has, and the driver. -/
structure Followed (σ : Type) where
  events : List Event
  rollup : RollupState σ

section

variable {σ ω δ : Type} (store : BlockStore σ) (env : Environment σ ω δ) (contract : RollupContract)

/-- The events of a chain, if there is one. -/
def chainEvents (chain : Option Chain) : List Event :=
  match chain with
  | some chain => decodeChainIntoRollupEvents contract chain
  | none => []

/-- The driver handles notifications, each of which replaces the end of the chain. -/
def reorganizing (start : σ) : System (Followed σ) ExExNotification where
  init s := s = ⟨[], start, []⟩
  step s notification s' := ∃ kept,
    s.events = kept ++ chainEvents contract notification.revertedChain ∧
    s'.events = kept ++ chainEvents contract notification.committedChain ∧
    handle store env contract notification s.rollup = (.ok (), s'.rollup)

/-- Each event a notification commits is good where it is committed. -/
def CommitsGood (Good : σ → Event → Prop) (s : Followed σ)
    (notification : ExExNotification) : Prop :=
  ∀ db, handleReverted store contract notification s.rollup.db = (.ok (), db) →
    AllAlong (commitEvent store env contract) Good
      (chainEvents contract notification.committedChain) db

/-- The store is one that the events of the chain lead to, and any of the last ones can be
    reverted. -/
structure Derived (Good : σ → Event → Prop) (Same : σ → σ → Prop) (start : σ) (s : Followed σ) :
    Prop where
  derives : Derives (commitEvent store env contract) Good Same start s.events s.rollup.db
  reverts : ∀ kept gone, s.events = kept ++ gone →
    ∃ db, forEach (revertEvent store contract) gone.reverse s.rollup.db = (.ok (), db) ∧
      Derives (commitEvent store env contract) Good Same start kept db

variable {store env contract}

theorem handleReverted_eq_revertEvents (notification : ExExNotification) (s : σ) :
    handleReverted store contract notification s =
      forEach (revertEvent store contract)
        (chainEvents contract notification.revertedChain).reverse s := by
  rw [handleReverted]
  cases notification.revertedChain <;> rfl

theorem handleCommitted_ok {notification : ExExNotification} {r r' : RollupState σ}
    (h : handleCommitted store env contract notification r = (.ok (), r')) :
    forEach (commitEvent store env contract) (chainEvents contract notification.committedChain)
      r.db = (.ok (), r'.db) := by
  rw [handleCommitted] at h
  cases hchain : notification.committedChain with
  | none =>
    rw [hchain] at h
    obtain rfl := (Prod.mk.inj h).2
    rfl
  | some chain =>
    simp only [hchain] at h
    change commit store env contract chain r.db = _
    rcases hcommit : commit store env contract chain r.db with ⟨err | ⟨⟨⟩⟩, db⟩ <;>
      simp only [hcommit] at h
    · cases h
    · cases htip : chain.tip with
      | none => rw [htip] at h; cases h
      | some tip =>
        rw [htip] at h
        rw [← (Prod.mk.inj h).2]

/-- A notification that is handled has its events reverted, and then committed. -/
theorem handle_ok {notification : ExExNotification} {r r' : RollupState σ}
    (h : handle store env contract notification r = (.ok (), r')) :
    ∃ db, handleReverted store contract notification r.db = (.ok (), db) ∧
      forEach (commitEvent store env contract) (chainEvents contract notification.committedChain)
        db = (.ok (), r'.db) := by
  rw [handle] at h
  rcases hrev : handleReverted store contract notification r.db with ⟨err | ⟨⟨⟩⟩, db⟩ <;>
    simp only [hrev] at h
  · cases h
  · exact ⟨db, rfl, handleCommitted_ok h⟩

variable {Good : σ → Event → Prop} {Inv : σ → Prop} {Same : σ → σ → Prop} {start : σ}

/-- Handling a notification for the end of the chain leaves a state that is reached. -/
theorem reachable_handled {C : Followed σ → ExExNotification → Prop} {s : Followed σ}
    (kept : List Event) (notification : ExExNotification)
    (hs : (reorganizing store env contract start).ReachableBy C s) (hc : C s notification)
    (hevents : s.events = kept ++ chainEvents contract notification.revertedChain)
    (hok : (handle store env contract notification s.rollup).1 = .ok ()) :
    (reorganizing store env contract start).ReachableBy C
      ⟨kept ++ chainEvents contract notification.committedChain,
        (handle store env contract notification s.rollup).2⟩ :=
  hs.step hc ⟨kept, hevents, rfl, Prod.ext hok rfl⟩

/-- When committed events can be reverted, the store is what the events of the chain make
    of it, on every run. -/
theorem derived
    (h : Undoes (commitEvent store env contract) Good (revertEvent store contract) Inv Same)
    (hstart : Inv start) {s : Followed σ}
    (hs : (reorganizing store env contract start).ReachableBy
      (CommitsGood store env contract Good) s) :
    Derived store env contract Good Same start s := by
  suffices hI : Derives (commitEvent store env contract) Good Same start s.events s.rollup.db ∧
      Inv s.rollup.db by
    refine ⟨hI.1, ?_⟩
    intro kept gone heq
    obtain ⟨db, hdb, hderives, -⟩ := h.undoAll (heq ▸ hI.1) hI.2
    exact ⟨db, hdb, hderives⟩
  refine hs.invariant (I := fun s => Derives (commitEvent store env contract) Good Same start
    s.events s.rollup.db ∧ Inv s.rollup.db) ?_ ?_
  · intro s hinit
    obtain rfl : s = ⟨[], start, []⟩ := hinit
    exact ⟨.start, hstart⟩
  intro s notification s' _ ⟨hderives, hinv⟩ hgood hstep
  obtain ⟨kept, hevents, hevents', hhandle⟩ := hstep
  obtain ⟨db, hrev, hcommit⟩ := handle_ok hhandle
  -- Back to the part of the chain that stays, and on from there.
  obtain ⟨db', hrev', hkept, hinv'⟩ := h.undoAll (hevents ▸ hderives) hinv
  have hdb : db' = db := by
    rw [handleReverted_eq_revertEvents, hrev'] at hrev
    exact (Prod.mk.inj hrev).2
  rw [hdb] at hkept hinv'
  rw [hevents']
  exact ⟨hkept.doAll (hgood db hrev) hcommit, h.doAll hinv' (hgood db hrev) hcommit⟩

end

/-! ## On the ideal store -/

theorem Undone.trans {s t u : IdealStore} (hst : Undone s t) (htu : Undone t u) : Undone s u where
  blocks := htu.blocks.trans hst.blocks
  slot := htu.slot.trans hst.slot
  account a := by
    obtain ht | ⟨hs, ht⟩ := hst.account a
    · rw [← ht]
      exact htu.account a
    · obtain hu | ⟨hnone, -⟩ := htu.account a
      · exact .inr ⟨hs, hu.trans ht⟩
      · rw [ht] at hnone
        cases hnone

/-- On the ideal store, a block that was executed is reverted, and so is a deposit. -/
theorem undoes_idealStore {ω δ : Type} (env : Environment IdealStore ω δ)
    (contract : RollupContract) :
    Undoes (commitEvent idealStore env contract) (Executes env contract)
      (revertEvent idealStore contract) (fun _ => True) Undone where
  done _ _ _ := trivial
  refl := .refl
  trans := .trans
  undo hx hdone hsame _ := by
    obtain ⟨t, hrev, ht⟩ := revertEvent_undoes hx hdone hsame
    exact ⟨t, hrev, ht, trivial⟩

/-- The event of the chain that submits block `0`. -/
def submitted : Event :=
  (submission (.ofU64 CHAIN_ID) 0, .blockSubmitted Reth.EMPTY_OMMER_ROOT_HASH)

theorem executes_submitted (s : IdealStore) :
    Executes (emptyBlocks _) submissions s submitted := by
  intro blockDataHash header blockData hevent hcall
  cases hevent
  cases hcall
  exact ⟨_, rfl⟩

/-- What reverting blocks relies on. -/
structure Intact (t : Tables) : Prop where
  keyed : KeyedByNumber t
  readable : ∀ a k, ∃ v, slotValue t a k = .ok v
  /-- The revert rows of stored blocks can be read. -/
  reverts : ∀ n ∈ storedNumbers t, ∀ a k data,
    t.storageRevert.lookup (numberText n, a, k) = some data → ∃ v, parseRevert data = .ok v

theorem intact_empty : Intact .empty where
  keyed := linked_empty.keyed
  readable _ _ := ⟨0, rfl⟩
  reverts _ hn := absurd hn List.not_mem_nil

theorem succeeds_noteStorage {t : Tables} (h : ∀ a k, ∃ v, slotValue t a k = .ok v)
    (state : BundleStateInit) (e : (Address × B256) × U256) : Succeeds (noteStorage t state e) := by
  have hslot (storage : Assoc B256 (U256 × U256)) :
      Succeeds (noteSlot t storage e.1.1 e.1.2 e.2) := by
    rw [noteSlot]
    split
    · obtain ⟨v, hv⟩ := h e.1.1 e.1.2
      obtain ⟨value, hvalue, -⟩ := bind_eq_ok.1 hv
      exact .bind hvalue ⟨_, rfl⟩
    · exact ⟨_, rfl⟩
  rw [noteStorage]
  obtain ⟨slot, hslot⟩ := hslot _
  exact .bind hslot ⟨_, rfl⟩

theorem succeeds_restoreAccount (t : Tables) (e : Address × AccountState) :
    Succeeds (restoreAccount t e) := by
  have hinfo : Succeeds (restoreInfo t e.1 e.2) := by
    rw [restoreInfo]
    split_ifs
    · split <;> exact ⟨_, rfl⟩
    · exact ⟨t, rfl⟩
  obtain ⟨t', ht'⟩ := hinfo
  exact .bind ht' ⟨_, rfl⟩

/-- Reverting stores no block. -/
theorem Reverted.mem_storedNumbers {t t' : Tables} {n : U256} (hr : Reverted t n t') {m : UInt64}
    (hm : m ∈ storedNumbers t') : m ∈ storedNumbers t := by
  rw [storedNumbers, hr.block_eq] at hm
  obtain ⟨e, he, rfl⟩ := List.mem_map.1 hm
  exact List.mem_map_of_mem (List.mem_of_mem_filter he)

/-- The block whose text is last is reverted. -/
theorem Intact.succeeds_revertTipBlock {t : Tables} (h : Intact t) {n : UInt64}
    (hn : n ∈ storedNumbers t) (hlast : ∀ m ∈ storedNumbers t, numberText m ≤ numberText n) :
    Succeeds (revertTipBlock t (.ofU64 n)) := by
  have htip : checkTip t (.ofU64 n) = .ok () := (checkTip_iff h.keyed).2 ⟨n, hn, rfl, hlast⟩
  have hparse : Succeeds ((t.storageRevert.slice (U256.ofU64 n).toText).entries.mapM fun e => do
      let data ← parseRevert e.2
      .ok (e.1, data)) := by
    refine mapM_succeeds fun e he => ?_
    obtain ⟨v, hv⟩ := h.reverts n hn e.1.1 e.1.2 e.2 (by
      rw [← toText_ofU64, ← Assoc.lookup_slice]
      exact Assoc.mem_entries_iff.1 he)
    exact .bind hv ⟨_, rfl⟩
  obtain ⟨rows, hparse⟩ := hparse
  refine .bind htip (.bind hparse ?_)
  obtain ⟨state, hnote⟩ := foldlM_succeeds (P := fun _ => True) (fun state e _ _ =>
    (succeeds_noteStorage (t := { t with block := t.block.erase (U256.ofU64 n).toText })
      h.readable state e).imp fun _ h => ⟨h, trivial⟩) trivial
  obtain ⟨t', hrestore⟩ := foldlM_succeeds (P := fun _ => True)
    (fun t e _ _ => (succeeds_restoreAccount t e).imp fun _ h => ⟨h, trivial⟩) trivial
  exact .bind hnote ⟨t', hrestore⟩

theorem Intact.reverted {t t' : Tables} {n : U256} (h : Intact t) (hr : Reverted t n t') :
    Intact t' where
  keyed := (h.keyed.erase n.toText).congr hr.block_eq
  readable a k := by
    cases hd : t.storageRevert.lookup (n.toText, a, k) with
    | none =>
      rw [slotValue_congr (hr.storage_of_no_row a k hd)]
      exact h.readable a k
    | some data =>
      obtain ⟨v, -, hs⟩ := hr.storage_of_row a k data hd
      exact ⟨v, slotValue_of_lookup_slotText hs⟩
  reverts m hm := by
    rw [hr.storageRevert_eq]
    exact h.reverts m (hr.mem_storedNumbers hm)

theorem Intact.upsertAccount {t t' : Tables} {a : Address}
    {f : Option AccountInfo → Except Error AccountInfo} (h : Intact t)
    (hok : upsertAccount t a f = .ok t') : Intact t' := by
  obtain ⟨account, -, hok⟩ := bind_eq_ok.1 hok
  obtain rfl := Except.ok.inj hok
  exact ⟨h.keyed.congr rfl, h.readable, h.reverts⟩

/-! ### The same, as far as reverting goes -/

/-- `u` is `t`, but for accounts absent in `t` that are empty in `u`. Of the revert rows
    only those under stored numbers count. -/
structure Resembles (t u : Tables) : Prop where
  block : u.block = t.block
  account : ∀ a, getAccount u a = getAccount t a ∨
    getAccount t a = none ∧ getAccount u a = some default
  slot : ∀ a k, slotValue u a k = slotValue t a k
  accountRevert : ∀ n ∈ storedNumbers t, ∀ a,
    u.accountRevert.lookup (numberText n, a) = t.accountRevert.lookup (numberText n, a)
  storageRevert : ∀ n ∈ storedNumbers t, ∀ a k,
    u.storageRevert.lookup (numberText n, a, k) = t.storageRevert.lookup (numberText n, a, k)

theorem Resembles.refl (t : Tables) : Resembles t t where
  block := rfl
  account _ := .inl rfl
  slot _ _ := rfl
  accountRevert _ _ _ := rfl
  storageRevert _ _ _ _ := rfl

theorem Resembles.storedNumbers_eq {t u : Tables} (h : Resembles t u) :
    storedNumbers u = storedNumbers t := by
  rw [storedNumbers, h.block, storedNumbers]

theorem Resembles.trans {t u v : Tables} (htu : Resembles t u) (huv : Resembles u v) :
    Resembles t v where
  block := huv.block.trans htu.block
  account a := by
    obtain hu | ⟨ht, hu⟩ := htu.account a
    · rw [← hu]
      exact huv.account a
    · obtain hv | ⟨hnone, -⟩ := huv.account a
      · exact .inr ⟨ht, hv.trans hu⟩
      · rw [hu] at hnone
        cases hnone
  slot a k := (huv.slot a k).trans (htu.slot a k)
  accountRevert n hn a :=
    (huv.accountRevert n (htu.storedNumbers_eq ▸ hn) a).trans (htu.accountRevert n hn a)
  storageRevert n hn a k :=
    (huv.storageRevert n (htu.storedNumbers_eq ▸ hn) a k).trans (htu.storageRevert n hn a k)

/-- Reverting the same block leaves the same. -/
theorem Resembles.reverted {t u t' u' : Tables} (h : Resembles t u) {n : UInt64}
    (hn : n ∈ storedNumbers t) (ht : Reverted t (.ofU64 n) t') (hu : Reverted u (.ofU64 n) u') :
    Resembles t' u' := by
  refine ⟨by rw [hu.block_eq, ht.block_eq, h.block], ?_, ?_, ?_, ?_⟩
  · intro a
    rw [hu.getAccount_eq, ht.getAccount_eq, toText_ofU64, h.accountRevert n hn]
    cases t.accountRevert.lookup (numberText n, a) with
    | none => exact h.account a
    | some old => exact .inl rfl
  · intro a k
    have hrow := h.storageRevert n hn a k
    rw [← toText_ofU64] at hrow
    cases hd : t.storageRevert.lookup ((U256.ofU64 n).toText, a, k) with
    | none =>
      rw [slotValue_congr (ht.storage_of_no_row a k hd),
        slotValue_congr (hu.storage_of_no_row a k (hrow.trans hd))]
      exact h.slot a k
    | some data =>
      obtain ⟨v, hv, hs⟩ := ht.storage_of_row a k data hd
      obtain ⟨w, hw, hs'⟩ := hu.storage_of_row a k data (hrow.trans hd)
      obtain rfl := Except.ok.inj (hv.symm.trans hw)
      rw [slotValue_of_lookup_slotText hs, slotValue_of_lookup_slotText hs']
  · intro m hm a
    rw [hu.accountRevert_eq, ht.accountRevert_eq]
    exact h.accountRevert m (ht.mem_storedNumbers hm) a
  · intro m hm a k
    rw [hu.storageRevert_eq, ht.storageRevert_eq]
    exact h.storageRevert m (ht.mem_storedNumbers hm) a k

theorem Resembles.intact {t u : Tables} (h : Resembles t u) (hu : Intact u) : Intact t where
  keyed := hu.keyed.congr h.block.symm
  readable a k := h.slot a k ▸ hu.readable a k
  reverts n hn a k data hd :=
    hu.reverts n (h.storedNumbers_eq ▸ hn) a k data ((h.storageRevert n hn a k).trans hd)

/-! ### Events that can be reverted -/

/-- A block with its changes that, inserted into the tables, can be taken off again: it is
    the last one then, and no row left under its number is still there that differs from
    what it is executed on. -/
structure Restorable (t : Tables) (block : RecoveredBlock) (b : BundleState) : Prop where
  executedOn : ExecutedOn t b
  wipes_eq : ∀ a, b.wipes a = false
  last : ∀ m ∈ storedNumbers t, numberText m ≤ numberText block.number
  accountRevert : ∀ a old, t.accountRevert.lookup (numberText block.number, a) = some old →
    a ∉ b.accountReverts.map Prod.fst → old = getAccount t a
  storageRevert : ∀ a k data, t.storageRevert.lookup (numberText block.number, a, k) = some data →
    b.listed a k = none → parseRevert data = slotValue t a k

section

variable {t t' : Tables} {block : RecoveredBlock} {b : BundleState}

theorem Inserted.mem_storedNumbers (hi : Inserted t block b t') (ht : KeyedByNumber t)
    {m : UInt64} : m ∈ storedNumbers t' ↔ m = block.number ∨ m ∈ storedNumbers t := by
  rw [mem_storedNumbers_iff ((ht.put block).congr hi.block_eq), mem_storedNumbers_iff ht,
    hi.block_eq, Assoc.lookup_put]
  by_cases hm : m = block.number
  · simp [hm]
  · rw [if_neg fun h => hm (numberText_injective h)]
    simp [hm]

theorem Restorable.intact (hb : Restorable t block b) (ht : Intact t) (hi : Inserted t block b t') :
    Intact t' where
  keyed := (ht.keyed.put block).congr hi.block_eq
  readable a k := by
    rw [slotValue_inserted hi, hb.wipes_eq]
    cases b.written a k with
    | none => exact ht.readable a k
    | some v => exact ⟨v, rfl⟩
  reverts m hm a k data hd := by
    rw [hi.lookup_storageRevert, hb.executedOn.wiped_eq, hb.wipes_eq] at hd
    by_cases hn : numberText m = numberText block.number
    · rw [if_pos hn] at hd
      cases hl : b.listed a k with
      | some r =>
        rw [hl] at hd
        obtain rfl := Option.some.inj hd
        exact ⟨revertedValue r, parseRevert_revertText r⟩
      | none =>
        rw [hl, hn] at hd
        rw [hb.storageRevert a k data hd hl]
        exact ht.readable a k
    · rw [if_neg hn] at hd
      obtain rfl | hm := (hi.mem_storedNumbers ht.keyed).1 hm
      · exact absurd rfl hn
      · exact ht.reverts m hm a k data hd

/-- The block went in under a free number, so the others were stored under theirs. -/
theorem Inserted.keyedByNumber (hi : Inserted t block b t') (h : KeyedByNumber t') :
    KeyedByNumber t := by
  refine keyedByNumber_iff.2 ?_
  intro text other hother
  refine keyedByNumber_iff.1 h text other ?_
  rw [hi.block_eq, Assoc.lookup_put, if_neg, hother]
  rintro rfl
  rw [hi.number_free] at hother
  cases hother

/-- The rows under other numbers are as they were. -/
theorem Inserted.lookup_accountRevert (hi : Inserted t block b t') {m : UInt64}
    (hm : m ≠ block.number) (a : Address) :
    t'.accountRevert.lookup (numberText m, a) = t.accountRevert.lookup (numberText m, a) := by
  rw [hi.accountRevert_eq, Assoc.lookup_putAll, lastWrite_eq_none_iff.2, Option.none_or]
  intro hmem
  obtain ⟨_, hrow, heq⟩ := List.mem_map.1 hmem
  obtain ⟨e, -, rfl⟩ := List.mem_map.1 hrow
  exact hm (numberText_injective (Prod.mk.inj heq).1).symm

/-- What is inserted is taken off again, wherever the tables resemble those it left. -/
theorem Restorable.undone {u : Tables} (hb : Restorable t block b)
    (hins : insertBlockWithBundle t block b = .ok t') (hsame : Resembles t' u) (hu : Intact u) :
    ∃ u', revertTipBlock u (.ofU64 block.number) = .ok u' ∧ Resembles t u' ∧ Intact u' := by
  have hi := inserted hb.executedOn.keyed hins
  have ht' := hsame.intact hu
  have ht := hi.keyedByNumber ht'.keyed
  have hmem : block.number ∈ storedNumbers t' := (hi.mem_storedNumbers ht).2 (.inl rfl)
  have hlast : ∀ m ∈ storedNumbers t', numberText m ≤ numberText block.number := by
    intro m hm
    obtain rfl | hm := (hi.mem_storedNumbers ht).1 hm
    · exact le_rfl
    · exact hb.last m hm
  -- Reverted at once it would give the tables back, and from `u` it leaves the same.
  obtain ⟨t₂, ht₂⟩ := ht'.succeeds_revertTipBlock hmem hlast
  obtain ⟨u', hu'⟩ := hu.succeeds_revertTipBlock (n := block.number)
    (by rw [hsame.storedNumbers_eq]; exact hmem) (by rw [hsame.storedNumbers_eq]; exact hlast)
  have hr := reverted ht₂
  have hback := (restores_iff hb.executedOn hb.wipes_eq hins ht₂).2
    ⟨hb.accountRevert, hb.storageRevert⟩
  have hne {m : UInt64} (hm : m ∈ storedNumbers t) : m ≠ block.number := by
    rintro rfl
    rw [mem_storedNumbers_iff ht, hi.number_free] at hm
    cases hm
  have hrestored : Resembles t t₂ := by
    refine ⟨block_round_trip hi hr, fun a => .inl (hback.account a), hback.slot, ?_, ?_⟩
    · intro m hm a
      rw [hr.accountRevert_eq, hi.lookup_accountRevert (hne hm)]
    · intro m hm a k
      rw [hr.storageRevert_eq, hi.lookup_storageRevert,
        if_neg fun h => hne hm (numberText_injective h)]
  have hru := reverted hu'
  exact ⟨u', hu', hrestored.trans (hsame.reverted hmem hr hru), hu.reverted hru⟩

end

/-- A deposit is undone by the withdrawal of the same amount. -/
theorem Resembles.withdraw {a : Address} {amount : U256} {t t' u : Tables}
    (h : Resembles t' u) (hok : upsertAccount t a (deposit amount) = .ok t') :
    ∃ u', upsertAccount u a (withdraw amount) = .ok u' ∧ Resembles t u' := by
  obtain rfl := Except.ok.inj hok
  -- The account has a row after the deposit, so it is not one that only counts as empty.
  have ha : getAccount u a = some { (getAccount t a).getD default with
      balance := ((getAccount t a).getD default).balance + amount } := by
    obtain hu | ⟨hnone, -⟩ := h.account a
    · rw [hu, getAccount, Assoc.lookup_put, if_pos rfl]
    · rw [getAccount, Assoc.lookup_put, if_pos rfl] at hnone
      cases hnone
  refine ⟨{ u with account := u.account.put a ((getAccount t a).getD default) }, ?_, ?_⟩
  · rw [upsertAccount, ha, Rollup.withdraw, BitVec.add_sub_cancel]
    rfl
  refine ⟨h.block, ?_, h.slot, h.accountRevert, h.storageRevert⟩
  intro a'
  rw [getAccount, Assoc.lookup_put]
  split_ifs with haa
  · rw [haa]
    cases getAccount t a with
    | none => exact .inr ⟨rfl, rfl⟩
    | some account => exact .inl rfl
  · have hother := h.account a'
    rw [getAccount, getAccount, Assoc.lookup_put, if_neg haa] at hother
    exact hother

/-! ### The driver on the tables -/

section

variable {ω δ : Type} (env : Environment Tables ω δ) (contract : RollupContract)

/-- An event, if it submits a block, submits one that executes, and that can be taken off
    again. -/
def Revertible (t : Tables) (e : Event) : Prop :=
  ∀ header blockData blockDataHash,
    request contract e = .ok (.block header blockData blockDataHash) →
    ∃ block bundle receipts results,
      executeBlock database env t e.1 header blockData blockDataHash =
        .ok (block, bundle, receipts, results) ∧ Restorable t block bundle

variable {env contract} {t t' u : Tables} {e : Event}

theorem Revertible.intact (he : Revertible env contract t e) (ht : Intact t)
    (hdone : commitEvent database env contract e t = (.ok (), t')) : Intact t' := by
  rw [commitEvent_eq] at hdone
  rcases hreq : request contract e with
    err | _ | ⟨header, blockData, blockDataHash⟩ | ⟨a, amount⟩ <;>
    simp only [hreq] at hdone
  · cases hdone
  · obtain rfl := (Prod.mk.inj hdone).2
    exact ht
  · obtain ⟨block, bundle, receipts, results, hexec, hb⟩ := he _ _ _ hreq
    rw [submitBlock, hexec] at hdone
    exact hb.intact ht (inserted hb.executedOn.keyed (transaction_eq_ok.1 hdone))
  · exact ht.upsertAccount (transaction_eq_ok.1 hdone)

theorem Revertible.undone (he : Revertible env contract t e)
    (hdone : commitEvent database env contract e t = (.ok (), t')) (hsame : Resembles t' u)
    (hu : Intact u) :
    ∃ u', revertEvent database contract e u = (.ok (), u') ∧ Resembles t u' ∧ Intact u' := by
  rw [commitEvent_eq] at hdone
  rw [revertEvent_eq]
  rcases hreq : request contract e with
    err | _ | ⟨header, blockData, blockDataHash⟩ | ⟨a, amount⟩ <;>
    simp only [hreq] at hdone ⊢
  · cases hdone
  · obtain rfl := (Prod.mk.inj hdone).2
    exact ⟨u, rfl, hsame, hu⟩
  · obtain ⟨block, bundle, receipts, results, hexec, hb⟩ := he _ _ _ hreq
    rw [submitBlock, hexec] at hdone
    obtain ⟨u', hrev, hu'⟩ := hb.undone (transaction_eq_ok.1 hdone) hsame hu
    rw [← (constructHeader_ok (executeBlock_ok hexec).2).1] at hrev
    exact ⟨u', transaction_eq_ok.2 hrev, hu'⟩
  · obtain ⟨u', hok, hu'⟩ := hsame.withdraw (transaction_eq_ok.1 hdone)
    exact ⟨u', transaction_eq_ok.2 hok, hu', hu.upsertAccount hok⟩

variable (env contract) in
theorem undoes_database :
    Undoes (commitEvent database env contract) (Revertible env contract)
      (revertEvent database contract) Intact Resembles where
  done hs he hdone := he.intact hs hdone
  refl := .refl
  trans := .trans
  undo he hdone hsame hu := he.undone hdone hsame hu

end

theorem revertible_submitted {t : Tables} (hblock : t.block = .empty)
    (haccount : t.accountRevert = .empty) (hstorage : t.storageRevert = .empty) :
    Revertible (emptyBlocks _) submissions t submitted := by
  intro header blockData blockDataHash hreq
  cases hreq
  refine ⟨_, _, _, _, rfl, executedOn_idle t, fun _ => rfl, ?_, ?_, ?_⟩
  · rw [storedNumbers, hblock]
    exact fun _ hm => absurd hm List.not_mem_nil
  · rw [haccount]
    exact fun _ _ h => by cases h
  · rw [hstorage]
    exact fun _ _ _ h => by cases h

end ExEx.Rollup
