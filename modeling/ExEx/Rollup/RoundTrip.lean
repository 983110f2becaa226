import ExEx.Rollup.Insert
import ExEx.Rollup.Revert

/-!
# Inserting a block and reverting it

What is left of the accounts and slots when a block is inserted and reverted at
once, for a bundle the execution of a block on the tables can produce
(`ExecutedOn`).

* `getAccount_round_trip`, `slotValue_round_trip`: each account and each slot
  becomes what its revert row says, where the rows of an earlier block of the
  same number count unless the new block overwrites them;
* `round_trip_iff`: with no such earlier rows, under a wiped account a slot
  comes back as the value *written* to it, and a slot neither written nor listed
  does not come back.
-/

namespace ExEx.Rollup

open Reth (RecoveredBlock RevertToSlot)
open Assoc (lastWrite lastWrite_eq_none_iff lastWrite_map lastWrite_map_of_forall_ne)

/-! ## Values of slots -/

/-- The value of a slot, zero if it is not stored. -/
def slotValue (t : Tables) (a : Address) (k : B256) : Except Error U256 := do
  let v ← getStorage t a k
  .ok (v.getD 0)

theorem slotValue_of_lookup_none {t : Tables} {a : Address} {k : B256}
    (h : t.storage.lookup (a, k) = none) : slotValue t a k = .ok 0 := by
  rw [slotValue, getStorage, h]; rfl

theorem slotValue_of_lookup_toText {t : Tables} {a : Address} {k : B256} {v : U256}
    (h : t.storage.lookup (a, k) = some v.toText) : slotValue t a k = .ok v := by
  rw [slotValue, getStorage, h]
  simp only [parseWord, U256.fromStr_toText]
  rfl

theorem slotValue_of_lookup_slotText {t : Tables} {a : Address} {k : B256} {v : U256}
    (h : t.storage.lookup (a, k) = slotText v) : slotValue t a k = .ok v := by
  rw [slotText] at h
  split_ifs at h with hv
  · rw [hv]; exact slotValue_of_lookup_none h
  · exact slotValue_of_lookup_toText h

theorem slotValue_congr {t t' : Tables} {a : Address} {k : B256}
    (h : t'.storage.lookup (a, k) = t.storage.lookup (a, k)) : slotValue t' a k = slotValue t a k := by
  rw [slotValue, slotValue, getStorage, getStorage, h]

/-- The value of a slot that may be written and may be wiped before. -/
theorem slotValue_of_lookup_or {t t' : Tables} {a : Address} {k : B256} {written : Option U256}
    {wiped : Bool} : t'.storage.lookup (a, k) =
      (written.map U256.toText).or (if wiped then none else t.storage.lookup (a, k)) →
    slotValue t' a k = match written with
      | some v => .ok v
      | none => if wiped then .ok 0 else slotValue t a k := by
  intro h
  cases written with
  | some v => exact slotValue_of_lookup_toText h
  | none =>
    rw [Option.map_none, Option.none_or] at h
    split_ifs at h ⊢ with hw
    · exact slotValue_of_lookup_none h
    · exact slotValue_congr h

/-- The value a revert gives a slot. -/
def revertedValue : RevertToSlot → U256
  | .some value => value
  | .destroyed => 0

theorem parseRevert_toText (v : U256) : parseRevert v.toText = .ok v := by
  have hne : v.toText ≠ destroyedText :=
    U256.toText_ne_of_mem (c := 'd') List.mem_cons_self (by decide)
  rw [parseRevert, if_neg hne, parseWord, U256.fromStr_toText]

theorem parseRevert_revertText (r : RevertToSlot) : parseRevert (revertText r) = .ok (revertedValue r) := by
  cases r with
  | some v => exact parseRevert_toText v
  | destroyed => exact if_pos rfl

theorem toText_ofU64 (n : UInt64) : (U256.ofU64 n).toText = numberText n := by
  rw [U256.toText, numberText, U256.toNat_ofU64]

/-! ## Bundles -/

/-- A bundle that executing a block on the tables `D` can produce: its reverts
    say what `D` has for the accounts and slots it changes. Under a wiped account
    a slot of `D` may be missing from them, or be listed as destroyed. -/
structure ExecutedOn (D : Tables) (b : BundleState) : Prop where
  storage_nodup : (b.changeset.storage.map PlainStorageChangeset.address).Nodup
  storageReverts_nodup : (b.storageReverts.map PlainStorageRevert.address).Nodup
  /-- The accounts changed are those with a revert. -/
  accounts_iff : ∀ a, a ∈ b.changeset.accounts.map Prod.fst ↔ a ∈ b.accountReverts.map Prod.fst
  account_old : ∀ e ∈ b.accountReverts, e.2 = getAccount D e.1
  wiped_eq : ∀ a, b.wiped a = b.wipes a
  /-- The slots changed are those listed. -/
  slots_iff : ∀ a k, b.wipes a = false → ((b.written a k).isSome ↔ (b.listed a k).isSome)
  slot_old : ∀ a k r, b.wipes a = false → b.listed a k = some r →
    ∃ v, r = .some v ∧ slotValue D a k = .ok v
  slot_old_of_wipes : ∀ a k v, b.wipes a → b.listed a k = some (.some v) → slotValue D a k = .ok v

theorem ExecutedOn.keyed {D : Tables} {b : BundleState} (h : ExecutedOn D b) : b.Keyed :=
  ⟨h.storage_nodup, h.storageReverts_nodup, fun a ha => h.wiped_eq a ▸ ha⟩

/-- A slot without a revert is not changed. -/
theorem ExecutedOn.written_eq_none {D : Tables} {b : BundleState} (h : ExecutedOn D b) {a : Address}
    {k : B256} (hw : b.wipes a = false) (hl : b.listed a k = none) : b.written a k = none := by
  have hiff := h.slots_iff a k hw
  rw [hl] at hiff
  exact Option.not_isSome_iff_eq_none.1 fun hs => absurd (hiff.1 hs) (by simp)

/-- The value the revert rows of a bundle hold for a slot: under a wiped account,
    the value written, if there is one. -/
def BundleState.rowValue (b : BundleState) (a : Address) (k : B256) : Option U256 :=
  (if b.wiped a then b.written a k else none).or ((b.listed a k).map revertedValue)

section

variable {D D₁ D₂ : Tables} {block : RecoveredBlock} {b : BundleState}

/-- The value of a slot after an insertion. -/
theorem slotValue_inserted (h : Inserted D block b D₁) (a : Address) (k : B256) :
    slotValue D₁ a k = match b.written a k with
      | some v => .ok v
      | none => if b.wipes a then .ok 0 else slotValue D a k :=
  slotValue_of_lookup_or (h.lookup_storage a k)

/-! ## The round trip -/

/-- The block goes and nothing else changes in the block table. -/
theorem block_round_trip (h₁ : Inserted D block b D₁)
    (h₂ : Reverted D₁ (.ofU64 block.number) D₂) : D₂.block = D.block := by
  rw [h₂.block_eq, h₁.block_eq, toText_ofU64]
  exact Assoc.erase_put_of_lookup_none h₁.number_free block

/-- An account the bundle changes comes back as it was; another one becomes that
    of its revert row under the number of the block, if there is such a row. -/
theorem getAccount_round_trip (hb : ExecutedOn D b) (h₁ : Inserted D block b D₁)
    (h₂ : Reverted D₁ (.ofU64 block.number) D₂) (a : Address) :
    getAccount D₂ a =
      if a ∈ b.accountReverts.map Prod.fst then getAccount D a
      else (D.accountRevert.lookup (numberText block.number, a)).getD (getAccount D a) := by
  have hacc : getAccount D₁ a = (lastWrite b.changeset.accounts a).getD (getAccount D a) := by
    rw [getAccount, h₁.account_eq, Assoc.lookup_setAll]; rfl
  have hrow : D₁.accountRevert.lookup (numberText block.number, a) =
      (lastWrite b.accountReverts a).or (D.accountRevert.lookup (numberText block.number, a)) := by
    have hmap := lastWrite_map (prodMk_injective (numberText block.number)) id b.accountReverts a
    rw [Option.map_id] at hmap
    rw [h₁.accountRevert_eq, Assoc.lookup_putAll]
    exact congrArg (Option.or · _) hmap
  rw [h₂.getAccount_eq, toText_ofU64, hrow, hacc]
  -- The row of the block overwrites one of an earlier block.
  split_ifs with ha
  · obtain ⟨old, hold⟩ := Option.ne_none_iff_exists'.1 fun hn => lastWrite_eq_none_iff.1 hn ha
    rw [hold]
    exact hb.account_old _ (Assoc.mem_of_lastWrite hold)
  · rw [lastWrite_eq_none_iff.2 ha,
      lastWrite_eq_none_iff.2 fun hc => ha ((hb.accounts_iff a).1 hc)]
    rfl

/-- A slot the bundle has a row for becomes what the row says; another one that
    of the row under the number of the block, if there is such a row. -/
theorem slotValue_round_trip (h₁ : Inserted D block b D₁)
    (h₂ : Reverted D₁ (.ofU64 block.number) D₂) (a : Address) (k : B256) :
    slotValue D₂ a k = match b.rowValue a k with
      | some v => .ok v
      | none => match D.storageRevert.lookup (numberText block.number, a, k) with
        | some data => parseRevert data
        | none => slotValue D₁ a k := by
  have hrow := h₁.lookup_storageRevert (numberText block.number) a k
  rw [if_pos rfl] at hrow
  rw [← toText_ofU64] at hrow ⊢
  have hof (data : Text) (v : U256) (hp : parseRevert data = .ok v)
      (hd : D₁.storageRevert.lookup ((U256.ofU64 block.number).toText, a, k) = some data) :
      slotValue D₂ a k = .ok v := by
    obtain ⟨v', hv', hs⟩ := h₂.storage_of_row a k data hd
    rw [hp] at hv'
    exact Except.ok.inj hv' ▸ slotValue_of_lookup_slotText hs
  rw [BundleState.rowValue]
  -- The row of the slot, in the order in which rows are overwritten: of the value
  -- read back, of the value listed, of an earlier block, or none.
  cases hw : (if b.wiped a then b.written a k else none) with
  | some v =>
    refine hof v.toText v (parseRevert_toText v) (hrow.trans ?_)
    split_ifs at hw ⊢ with hwa
    rw [hw]; rfl
  | none =>
    have hw' : (if b.wiped a then (b.written a k).map U256.toText else none) = none := by
      split_ifs at hw ⊢
      · rw [hw]; rfl
      · rfl
    rw [hw', Option.none_or] at hrow
    cases hr : b.listed a k with
    | some r =>
      rw [hr] at hrow
      exact hof (revertText r) (revertedValue r) (parseRevert_revertText r) hrow
    | none =>
      rw [hr, Option.map_none, Option.none_or] at hrow
      cases hd : D.storageRevert.lookup ((U256.ofU64 block.number).toText, a, k) with
      | some data =>
        rw [hd] at hrow
        obtain ⟨v, hv, hs⟩ := h₂.storage_of_row a k data hrow
        exact (slotValue_of_lookup_slotText hs).trans hv.symm
      | none =>
        rw [hd] at hrow
        exact slotValue_congr (h₂.storage_of_no_row a k hrow)

/-! ## Wiped storage -/

/-- The accounts and the slots are the same, a slot not stored counting as zero. -/
structure SameAccountsAndSlots (D D' : Tables) : Prop where
  account : ∀ a, getAccount D' a = getAccount D a
  slot : ∀ a k, slotValue D' a k = slotValue D a k

/-- With no revert rows left under its number, inserting a block and reverting
    it gives the tables back exactly if every slot of a wiped account that the
    block writes held the value written, and every other slot of it that is not
    listed with its old value was zero. -/
theorem round_trip_iff (hacc : ∀ a, D.accountRevert.lookup (numberText block.number, a) = none)
    (hslot : ∀ a k, D.storageRevert.lookup (numberText block.number, a, k) = none)
    (hb : ExecutedOn D b) (hins : insertBlockWithBundle D block b = .ok D₁)
    (hrev : revertTipBlock D₁ (.ofU64 block.number) = .ok D₂) :
    (D₂.block = D.block ∧ SameAccountsAndSlots D D₂) ↔
      ∀ a, b.wipes a → ∀ k, (∀ v, b.written a k = some v → slotValue D a k = .ok v) ∧
        (b.written a k = none → (∀ v, b.listed a k ≠ some (.some v)) → slotValue D a k = .ok 0) := by
  have h₁ := inserted hb.keyed hins
  have h₂ := reverted hrev
  have haccount (a : Address) : getAccount D₂ a = getAccount D a := by
    rw [getAccount_round_trip hb h₁ h₂, hacc]
    split_ifs <;> rfl
  -- Slot by slot: what comes back is what was there under the condition for the slot.
  have hvalue (a : Address) (k : B256) : slotValue D₂ a k = slotValue D a k ↔ (b.wipes a →
      (∀ v, b.written a k = some v → slotValue D a k = .ok v) ∧
        (b.written a k = none → (∀ v, b.listed a k ≠ some (.some v)) →
          slotValue D a k = .ok 0)) := by
    rw [slotValue_round_trip h₁ h₂, BundleState.rowValue, hb.wiped_eq, hslot,
      slotValue_inserted h₁]
    cases hw : b.wipes a with
    | false =>
      -- The condition is void, and the slot does come back.
      cases hl : b.listed a k with
      | some r =>
        obtain ⟨v, rfl, hv⟩ := hb.slot_old a k r hw hl
        simp [revertedValue, hv]
      | none => simp [hb.written_eq_none hw hl]
    | true =>
      cases hv : b.written a k with
      | some v => simp [eq_comm]
      | none =>
        cases hl : b.listed a k with
        | none => simp [eq_comm]
        | some r =>
          cases r with
          | some v => simp [revertedValue, hb.slot_old_of_wipes a k v hw hl]
          | destroyed => simp [revertedValue, eq_comm]
  constructor
  · exact fun h a ha k => (hvalue a k).1 (h.2.slot a k) ha
  · exact fun h => ⟨block_round_trip h₁ h₂, haccount, fun a k => (hvalue a k).2 fun ha => h a ha k⟩

end

/-! ### A contract destroyed

Block `0` deploys a contract with a slot; block `1` destroys it. Nothing touches
the slot in block `1`, so its reverts do not list it. -/

/-- An empty block of a number. -/
def numbered (n : UInt64) : RecoveredBlock :=
  { (default : RecoveredBlock) with header := { (default : Reth.Header) with number := n } }

/-- The bundle of an empty block, which changes nothing. -/
def idle : BundleState := ⟨⟨[], [], []⟩, ⟨[], []⟩⟩

/-- The address of the contract. -/
def contract : Address := ⟨List.replicate 20 1, List.length_replicate⟩

/-- Deploys the contract, with `5` in a slot. -/
def deploy : BundleState where
  changeset := ⟨[(contract, some default)], [⟨contract, false, [(1, 5)]⟩], []⟩
  reverts := ⟨[[(contract, none)]], [[⟨contract, false, [(1, .some 0)]⟩]]⟩

/-- Destroys the contract. -/
def destroy : BundleState where
  changeset := ⟨[(contract, none)], [⟨contract, true, []⟩], []⟩
  reverts := ⟨[[(contract, some default)]], [[⟨contract, true, []⟩]]⟩

/-- The tables after block `0`. -/
def deployed : Tables where
  block := .ofList [(numberText 0, numbered 0)]
  account := .ofList [(contract, default)]
  accountRevert := .ofList [((numberText 0, contract), none)]
  storage := .ofList [((contract, .ofU256 1), (5 : U256).toText)]
  storageRevert := .ofList [((numberText 0, contract, .ofU256 1), (0 : U256).toText)]
  bytecode := .empty

theorem deployed_no_accountRevert (a : Address) :
    deployed.accountRevert.lookup (numberText 1, a) = none := by
  refine Assoc.lookup_eq_none_iff.2 ?_
  change _ ∉ [(numberText 0, contract)]
  simp [numberText]

theorem deployed_no_storageRevert (a : Address) (k : B256) :
    deployed.storageRevert.lookup (numberText 1, a, k) = none := by
  refine Assoc.lookup_eq_none_iff.2 ?_
  change _ ∉ [(numberText 0, contract, B256.ofU256 1)]
  simp [numberText]

theorem written_destroy (a : Address) (k : B256) : destroy.written a k = none := by
  by_cases h : contract = a <;>
    simp [h, destroy, BundleState.written, PlainStorageChangeset.slots, Assoc.lastWrite_nil]

theorem listed_destroy (a : Address) (k : B256) : destroy.listed a k = none := by
  by_cases h : contract = a <;>
    simp [h, destroy, BundleState.listed, BundleState.storageReverts, PlainStorageRevert.slots,
      Assoc.lastWrite_nil]

theorem executedOn_destroy : ExecutedOn deployed destroy where
  storage_nodup := by decide
  storageReverts_nodup := by decide
  accounts_iff a := by simp [destroy, BundleState.accountReverts]
  account_old e he := by
    obtain rfl := List.mem_singleton.1 he
    rfl
  wiped_eq a := by
    by_cases h : contract = a <;>
      simp [h, destroy, BundleState.wiped, BundleState.wipes, BundleState.storageReverts]
  slots_iff a k _ := by simp [written_destroy, listed_destroy]
  slot_old a k r _ hr := by rw [listed_destroy] at hr; cases hr
  slot_old_of_wipes a k v _ hr := by rw [listed_destroy] at hr; cases hr

/-- The slot does not come back. -/
theorem destroyed_slot_lost : ∃ D D₁ D₂,
    insertBlockWithBundle .empty (numbered 0) deploy = .ok D ∧
      (∀ a, D.accountRevert.lookup (numberText 1, a) = none) ∧
      (∀ a k, D.storageRevert.lookup (numberText 1, a, k) = none) ∧ ExecutedOn D destroy ∧
      insertBlockWithBundle D (numbered 1) destroy = .ok D₁ ∧
      revertTipBlock D₁ (.ofU64 1) = .ok D₂ ∧ ¬(D₂.block = D.block ∧ SameAccountsAndSlots D D₂) :=
  ⟨deployed, _, _, rfl, deployed_no_accountRevert, deployed_no_storageRevert, executedOn_destroy,
    rfl, rfl, fun h => absurd (h.2.slot contract (.ofU256 1)) (by decide)⟩

theorem round_trip_destroy : ∃ D₁ D₂,
    ((D₂.block = deployed.block ∧ SameAccountsAndSlots deployed D₂) ↔
      ∀ a, destroy.wipes a → ∀ k,
        (∀ v, destroy.written a k = some v → slotValue deployed a k = .ok v) ∧
        (destroy.written a k = none → (∀ v, destroy.listed a k ≠ some (.some v)) →
          slotValue deployed a k = .ok 0)) ∧
      insertBlockWithBundle deployed (numbered 1) destroy = .ok D₁ ∧
      revertTipBlock D₁ (.ofU64 1) = .ok D₂ :=
  ⟨_, _, @round_trip_iff deployed _ _ (numbered 1) destroy deployed_no_accountRevert
    deployed_no_storageRevert executedOn_destroy rfl rfl, rfl, rfl⟩

end ExEx.Rollup
