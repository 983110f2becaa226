import ExEx.Lib.Except
import ExEx.Rollup.EvmDatabase

/-!
# The state after a block

Inserting a block under a free number succeeds, and leaves the state overlaid by the
changeset (`overlaid`): each account and each slot that the EVM reads afterwards is what
the changeset says of it, and what was there where it says nothing.

What the reverts of the bundle say makes no difference: they are written to tables that
the EVM does not read.
-/

namespace ExEx.Rollup

open Reth (RecoveredBlock)
open Assoc (lastWrite lastWrite_eq_some_iff lastWrite_eq_none_iff lastWrite_map)

/-- A changeset that names each account and each slot once, and reverts of one block at
    most. -/
structure BundleState.Plain (b : BundleState) : Prop where
  accounts : (b.changeset.accounts.map Prod.fst).Nodup
  storage : (b.changeset.storage.map PlainStorageChangeset.address).Nodup
  keys : ∀ c ∈ b.changeset.storage, (c.storage.map Prod.fst).Nodup
  accountReverts : b.reverts.accounts.length ≤ 1
  storageReverts : b.reverts.storage.length ≤ 1

/-- What the EVM reads of `D'` is what it reads of `D`, overlaid by a changeset. -/
structure Overlaid (D : Tables) (changeset : StateChangeset) (D' : Tables) : Prop where
  basic : ∀ e ∈ changeset.accounts, Evm.basic D' e.1 = .ok e.2
  basic_frame : ∀ a, a ∉ changeset.accounts.map Prod.fst → Evm.basic D' a = Evm.basic D a
  storage : ∀ c ∈ changeset.storage, ∀ e ∈ c.storage, Evm.storage D' c.address e.1 = .ok e.2
  storage_wiped : ∀ c ∈ changeset.storage, ∀ k, k ∉ c.storage.map Prod.fst →
    c.wipeStorage = true → Evm.storage D' c.address k = .ok 0
  storage_kept : ∀ c ∈ changeset.storage, ∀ k, k ∉ c.storage.map Prod.fst →
    c.wipeStorage = false → Evm.storage D' c.address k = Evm.storage D c.address k
  storage_frame : ∀ a, a ∉ changeset.storage.map PlainStorageChangeset.address →
    ∀ k, Evm.storage D' a k = Evm.storage D a k

/-! ## Inserting succeeds -/

/-- The slots of an address can be read. -/
theorem Readable.getStorages {t : Tables} (h : Readable t) (address : Address) :
    Succeeds (getStorages t address) := by
  refine mapM_succeeds fun e he => ?_
  obtain ⟨v, hv⟩ := h (address, e.1) e.2 (by
    rw [← Assoc.lookup_slice]
    exact Assoc.mem_entries_iff.1 he)
  refine ⟨(e.1, v), ?_⟩
  rw [hv, parseWord, U256.fromStr_toText]
  rfl

theorem Readable.writeStorageRevert {t : Tables} (h : Readable t) (number : UInt64)
    (r : PlainStorageRevert) : ∃ t', writeStorageRevert number t r = .ok t' ∧ Readable t' := by
  have hfound : Succeeds (wipedStorage t r) := by
    rw [wipedStorage]
    split_ifs
    · exact h.getStorages r.address
    · exact ⟨[], rfl⟩
  obtain ⟨found, hfound⟩ := hfound
  rw [Rollup.writeStorageRevert, hfound]
  exact ⟨_, rfl, h.congr rfl⟩

/-- Under a free number, a block is inserted. -/
theorem succeeds_insertBlockWithBundle {D : Tables} {block : RecoveredBlock} {b : BundleState}
    (hD : Readable D) (hfree : D.block.lookup (numberText block.number) = none)
    (haccounts : b.reverts.accounts.length ≤ 1) (hstorage : b.reverts.storage.length ≤ 1) :
    Succeeds (insertBlockWithBundle D block b) := by
  have hinsert : insertBlock D block =
      .ok { D with block := D.block.put (numberText block.number) block } := by
    rw [insertBlock, Assoc.insertNew, Assoc.contains, hfree]
    rfl
  have haccountReverts (t : Tables) :
      writeAccountReverts t block.number b.reverts.accounts = .ok { t with
        accountRevert := t.accountRevert.putAll
          (b.accountReverts.map fun e => ((numberText block.number, e.1), e.2)) } :=
    if_neg (Nat.not_lt.2 haccounts)
  -- What is left once the accounts and their reverts are written, which leaves the slots.
  have hstorage {t : Tables} (ht : t.storage = D.storage) : Succeeds (do
      let t ← writeStorageReverts (b.changeset.storage.foldl writeStorage t) block.number
        b.reverts.storage
      .ok (writeContracts t b.changeset.contracts)) := by
    have hread : Readable (b.changeset.storage.foldl writeStorage t) :=
      foldl_invariant (fun _ c ht => ht.writeStorage c) _ (hD.congr ht)
    rw [writeStorageReverts, if_neg (Nat.not_lt.2 hstorage)]
    obtain ⟨t', ht'⟩ := foldlM_succeeds
      (fun t r _ ht => Readable.writeStorageRevert ht block.number r) hread
    exact .bind ht' ⟨_, rfl⟩
  exact .bind hinsert (.bind (haccountReverts _) (hstorage rfl))

/-! ## What is read afterwards -/

section

variable {D D' : Tables} {block : RecoveredBlock} {b : BundleState}

/-- The account and the storage tables after an insertion. -/
theorem account_insertBlockWithBundle (h : insertBlockWithBundle D block b = .ok D') :
    D'.account = D.account.setAll b.changeset.accounts := by
  obtain ⟨-, t, ht, rfl⟩ := insertBlockWithBundle_ok h
  rw [writeContracts, foldlM_writeStorageRevert_frame ht, foldl_writeStorage_frame]

theorem storage_insertBlockWithBundle (h : insertBlockWithBundle D block b = .ok D')
    (hb : (b.changeset.storage.map PlainStorageChangeset.address).Nodup) (a : Address) (k : B256) :
    D'.storage.lookup (a, k) = ((b.written a k).map U256.toText).or
      (if b.wipes a then none else D.storage.lookup (a, k)) := by
  obtain ⟨-, t, ht, rfl⟩ := insertBlockWithBundle_ok h
  rw [writeContracts, foldlM_writeStorageRevert_frame ht]
  exact lookup_foldl_writeStorage hb _ a k

theorem basic_insertBlockWithBundle (h : insertBlockWithBundle D block b = .ok D') (a : Address) :
    Evm.basic D' a = .ok ((lastWrite b.changeset.accounts a).getD (getAccount D a)) := by
  rw [Evm.basic, getAccount, account_insertBlockWithBundle h, Assoc.lookup_setAll]
  rfl

/-- A slot of an account without an entry in the changeset. -/
theorem storage_of_not_mem (h : insertBlockWithBundle D block b = .ok D') (hb : b.Plain)
    {a : Address} (ha : a ∉ b.changeset.storage.map PlainStorageChangeset.address) (k : U256) :
    Evm.storage D' a k = Evm.storage D a k := by
  refine slotValue_congr ?_
  rw [storage_insertBlockWithBundle h hb.storage, BundleState.written, BundleState.wipes,
    find?_eq_none_of_not_mem ha]
  rfl

/-- A slot of an account with one. -/
theorem storage_of_mem (h : insertBlockWithBundle D block b = .ok D') (hb : b.Plain)
    {c : PlainStorageChangeset} (hc : c ∈ b.changeset.storage) (k : U256) :
    Evm.storage D' c.address k =
      match lastWrite c.storage k with
      | some v => .ok v
      | none => if c.wipeStorage then .ok 0 else Evm.storage D c.address k := by
  have hslots : lastWrite c.slots (B256.ofU256 k) = lastWrite c.storage k := by
    have hmap := lastWrite_map B256.ofU256_injective id c.storage k
    rw [Option.map_id] at hmap
    exact hmap
  have hlookup := storage_insertBlockWithBundle h hb.storage c.address (B256.ofU256 k)
  rw [BundleState.written, BundleState.wipes, find?_eq_some_of_mem hb.storage hc, Option.bind_some,
    hslots] at hlookup
  exact slotValue_of_lookup_or hlookup

/-- The changeset is laid over what was there. -/
theorem overlaid_of_ok (h : insertBlockWithBundle D block b = .ok D') (hb : b.Plain) :
    Overlaid D b.changeset D' where
  basic e he := by
    rw [basic_insertBlockWithBundle h, (lastWrite_eq_some_iff hb.accounts).2 he]
    rfl
  basic_frame a ha := by
    rw [basic_insertBlockWithBundle h, lastWrite_eq_none_iff.2 ha]
    rfl
  storage c hc e he := by
    rw [storage_of_mem h hb hc, (lastWrite_eq_some_iff (hb.keys c hc)).2 he]
  storage_wiped c hc k hk hw := by
    rw [storage_of_mem h hb hc, lastWrite_eq_none_iff.2 hk, hw]
    rfl
  storage_kept c hc k hk hw := by
    rw [storage_of_mem h hb hc, lastWrite_eq_none_iff.2 hk, hw]
    rfl
  storage_frame a ha := storage_of_not_mem h hb ha

end

/-- A block whose number is free is inserted, and what the EVM reads afterwards is what it
    read before, overlaid by the changeset. The slots are readable in every state that the
    database reaches (`readable`). -/
theorem overlaid {D : Tables} {block : RecoveredBlock} {b : BundleState} (hD : Readable D)
    (hfree : D.block.lookup (numberText block.number) = none) (hb : b.Plain) :
    ∃ D', transaction (fun t => insertBlockWithBundle t block b) D = (.ok (), D') ∧
      Overlaid D b.changeset D' := by
  obtain ⟨D', h⟩ := succeeds_insertBlockWithBundle hD hfree hb.accountReverts hb.storageReverts
  refine ⟨D', ?_, overlaid_of_ok h hb⟩
  rw [transaction, h]

/-! ### A contract destroyed and deployed again

Block `1` destroys the contract of block `0`, which wipes its storage, and deploys it
again, with zero in the slot and `7` in another one. -/

def redeploy : BundleState where
  changeset := ⟨[(contract, some default)], [⟨contract, true, [(1, 0), (2, 7)]⟩], []⟩
  reverts := ⟨[[(contract, some default)]], [[⟨contract, true, [(1, .some 5), (2, .some 0)]⟩]]⟩

theorem readable_deployed : Readable deployed :=
  readable (reachable_run (.init rfl) (.insertBlockWithBundle (numbered 0) deploy) rfl)

theorem overlaid_redeploy : ∃ D',
    transaction (fun t => insertBlockWithBundle t (numbered 1) redeploy) deployed = (.ok (), D') ∧
      Overlaid deployed redeploy.changeset D' :=
  overlaid readable_deployed rfl ⟨by decide, by decide, by decide, by decide, by decide⟩

end ExEx.Rollup
