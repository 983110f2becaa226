import ExEx.Lib.System
import ExEx.Rollup.RoundTrip

/-!
# Numbers used again

Reverting the tip leaves the revert rows of the block in the tables. When its
number is used again, they are still there: the new block overwrites the rows of
what it changes, and the others take effect again when it is reverted
(`reuse_iff`).

The tables are those reached from empty ones by successful calls (`storeCalls`).
On these every slot holds the text of a word (`readable`).
-/

namespace ExEx.Rollup

open Reth (RecoveredBlock)

/-! ## The round trip, with rows left -/

section

variable {D D₁ D₂ : Tables} {block : RecoveredBlock} {b : BundleState}

/-- With no storage wiped, inserting a block and reverting it gives the accounts
    and slots back exactly if every revert row left under its number that the
    block does not overwrite holds what is there. -/
theorem restores_iff (hb : ExecutedOn D b) (hw : ∀ a, b.wipes a = false)
    (hins : insertBlockWithBundle D block b = .ok D₁)
    (hrev : revertTipBlock D₁ (.ofU64 block.number) = .ok D₂) :
    SameAccountsAndSlots D D₂ ↔
      (∀ a old, D.accountRevert.lookup (numberText block.number, a) = some old →
        a ∉ b.accountReverts.map Prod.fst → old = getAccount D a) ∧
      ∀ a k data, D.storageRevert.lookup (numberText block.number, a, k) = some data →
        b.listed a k = none → parseRevert data = slotValue D a k := by
  have h₁ := inserted hb.keyed hins
  have h₂ := reverted hrev
  -- An account the block changes comes back; the row of another one is still there.
  have haccount (a : Address) : getAccount D₂ a = getAccount D a ↔
      ∀ old, D.accountRevert.lookup (numberText block.number, a) = some old →
        a ∉ b.accountReverts.map Prod.fst → old = getAccount D a := by
    rw [getAccount_round_trip hb h₁ h₂]
    by_cases ha : a ∈ b.accountReverts.map Prod.fst
    · simp only [ha, if_true, not_true_eq_false, false_implies, implies_true]
    · rw [if_neg ha]
      cases D.accountRevert.lookup (numberText block.number, a) <;> simp [ha]
  -- The same for slots: those listed come back.
  have hslot (a : Address) (k : B256) : slotValue D₂ a k = slotValue D a k ↔
      ∀ data, D.storageRevert.lookup (numberText block.number, a, k) = some data →
        b.listed a k = none → parseRevert data = slotValue D a k := by
    rw [slotValue_round_trip h₁ h₂, BundleState.rowValue, hb.wiped_eq, hw,
      slotValue_inserted h₁, hw]
    cases hl : b.listed a k with
    | some r =>
      obtain ⟨v, rfl, hv⟩ := hb.slot_old a k r (hw a) hl
      simp [revertedValue, hv]
    | none =>
      cases D.storageRevert.lookup (numberText block.number, a, k) <;>
        simp [hb.written_eq_none (hw a) hl]
  constructor
  · exact fun h => ⟨fun a => (haccount a).1 (h.account a), fun a k => (hslot a k).1 (h.slot a k)⟩
  · exact fun h => ⟨fun a => (haccount a).2 (h.1 a), fun a k => (hslot a k).2 (h.2 a k)⟩

end

/-! ## Calls -/

/-- A call that changes the tables: a block is inserted, the tip is reverted, or
    an account is written, as for a deposit or its reversal. -/
inductive StoreCall
  | insertBlockWithBundle (block : RecoveredBlock) (bundle : BundleState)
  | revertTipBlock (blockNumber : U256)
  | upsertAccount (address : Address) (f : Option AccountInfo → Except Error AccountInfo)

def StoreCall.run (t : Tables) : StoreCall → Except Error Tables
  | .insertBlockWithBundle block bundle => Rollup.insertBlockWithBundle t block bundle
  | .revertTipBlock blockNumber => Rollup.revertTipBlock t blockNumber
  | .upsertAccount address f => Rollup.upsertAccount t address f

/-- Successful calls on tables that start out empty. -/
def storeCalls : System Tables StoreCall where
  init t := t = .empty
  step t call t' := call.run t = .ok t'

theorem reachable_run {t t' : Tables} (ht : storeCalls.Reachable t) (call : StoreCall)
    (h : call.run t = .ok t') : storeCalls.Reachable t' := ht.step trivial h

/-! ## Slots can be read -/

/-- Every slot holds the text of a word. -/
def Readable (t : Tables) : Prop :=
  ∀ key data, t.storage.lookup key = some data → ∃ v : U256, data = v.toText

theorem Readable.slotValue {t : Tables} (h : Readable t) (a : Address) (k : B256) :
    ∃ v, slotValue t a k = .ok v := by
  rcases hd : t.storage.lookup (a, k) with _ | data
  · exact ⟨0, slotValue_of_lookup_none hd⟩
  · obtain ⟨v, rfl⟩ := h _ data hd
    exact ⟨v, slotValue_of_lookup_toText hd⟩

theorem Readable.writeStorage {t : Tables} (h : Readable t) (c : PlainStorageChangeset) :
    Readable (writeStorage t c) := fun ⟨a, k⟩ data hd => by
  rw [lookup_writeStorage] at hd
  split_ifs at hd with ha hw
  · rw [Option.or_none, Option.map_eq_some_iff] at hd
    obtain ⟨v, -, rfl⟩ := hd
    exact ⟨v, rfl⟩
  · rw [Option.or_eq_some_iff, Option.map_eq_some_iff] at hd
    obtain ⟨v, -, rfl⟩ | ⟨-, hd⟩ := hd
    · exact ⟨v, rfl⟩
    · exact h _ _ hd
  · exact h _ _ hd

theorem Readable.congr {t t' : Tables} (h : Readable t) (hs : t'.storage = t.storage) : Readable t' := by
  rw [Readable, hs]; exact h

theorem Readable.insertBlockWithBundle {t t' : Tables} {block : RecoveredBlock} {b : BundleState}
    (h : Readable t) (hins : insertBlockWithBundle t block b = .ok t') : Readable t' := by
  obtain ⟨-, t₂, h₂, rfl⟩ := insertBlockWithBundle_ok hins
  have hrows : Readable t₂ := by
    refine foldlM_invariant (P := Readable) ?_ ?_ h₂
    · intro t r t' ht hr
      obtain ⟨found, -, rfl⟩ := writeStorageRevert_ok hr
      exact ht.congr rfl
    · exact foldl_invariant (P := Readable) (fun _ c ht => ht.writeStorage c) _ (h.congr rfl)
  exact hrows.congr rfl

theorem Readable.revertTipBlock {t t' : Tables} {n : U256} (h : Readable t)
    (hrev : revertTipBlock t n = .ok t') : Readable t' := fun ⟨a, k⟩ data hd => by
  have hr := reverted hrev
  rcases hrow : t.storageRevert.lookup (n.toText, a, k) with _ | row
  · exact h _ _ (hr.storage_of_no_row a k hrow ▸ hd)
  · obtain ⟨v, -, hs⟩ := hr.storage_of_row a k row hrow
    rw [hs, slotText] at hd
    split_ifs at hd
    exact ⟨v, (Option.some.inj hd).symm⟩

theorem readable {t : Tables} (ht : storeCalls.Reachable t) : Readable t := by
  refine ht.invariant ?_ ?_
  · intro t h
    rw [show t = .empty from h]
    exact fun _ _ hd => absurd hd (by simp [Tables.empty])
  intro t call t' _ h _ hstep
  cases call with
  | insertBlockWithBundle block bundle => exact h.insertBlockWithBundle hstep
  | revertTipBlock n => exact h.revertTipBlock hstep
  | upsertAccount address f =>
    obtain ⟨account, -, hstep⟩ := bind_eq_ok.1 hstep
    obtain rfl := Except.ok.inj hstep
    exact h.congr rfl

/-! ## A number used again -/

/-- On reached tables, where every slot can be read, inserting a block that
    wipes no storage and reverting it gives the accounts and slots back exactly
    if every revert row left under its number that the block does not overwrite
    holds what is there. -/
theorem reuse_iff {D D₁ D₂ : Tables} {block : RecoveredBlock} {b : BundleState}
    (hD : storeCalls.Reachable D) (hb : ExecutedOn D b) (hw : ∀ a, b.wipes a = false)
    (hins : insertBlockWithBundle D block b = .ok D₁)
    (hrev : revertTipBlock D₁ (.ofU64 block.number) = .ok D₂) :
    (∀ a k, ∃ v, slotValue D a k = .ok v) ∧ (SameAccountsAndSlots D D₂ ↔
      (∀ a old, D.accountRevert.lookup (numberText block.number, a) = some old →
        a ∉ b.accountReverts.map Prod.fst → old = getAccount D a) ∧
      ∀ a k data, D.storageRevert.lookup (numberText block.number, a, k) = some data →
        b.listed a k = none → parseRevert data = slotValue D a k) :=
  ⟨(readable hD).slotValue, restores_iff hb hw hins hrev⟩

/-! ### A deposit lost

Block `0` funds an account and is reverted, which leaves its revert row. After a
deposit to the account, another block `0` that changes nothing is inserted and
reverted, and the row takes effect. -/

/-- Creates an account. -/
def create : BundleState := ⟨⟨[(contract, some default)], [], []⟩, ⟨[[(contract, none)]], []⟩⟩

/-- Pays `5` to the account. -/
def pay (account : Option AccountInfo) : Except Error AccountInfo :=
  .ok { account.getD default with balance := (account.getD default).balance + 5 }

/-- The tables once the block is reverted and the deposit is made. -/
def paid : Tables :=
  { Tables.empty with
    account := .ofList [(contract, { (default : AccountInfo) with balance := 5 })]
    accountRevert := .ofList [((numberText 0, contract), none)] }

theorem reachable_paid : storeCalls.Reachable paid := by
  have h₀ : storeCalls.Reachable .empty := .init rfl
  have h₁ := reachable_run h₀ (.insertBlockWithBundle (numbered 0) create) rfl
  have h₂ := reachable_run h₁ (.revertTipBlock 0) rfl
  exact reachable_run h₂ (.upsertAccount contract pay) rfl

theorem executedOn_idle (D : Tables) : ExecutedOn D idle where
  storage_nodup := by decide
  storageReverts_nodup := by decide
  accounts_iff a := by simp [idle, BundleState.accountReverts]
  account_old e he := absurd he List.not_mem_nil
  wiped_eq _ := rfl
  slots_iff _ _ _ := Iff.rfl
  slot_old _ _ _ _ hr := by cases hr
  slot_old_of_wipes _ _ _ _ hr := by cases hr

/-- The deposit does not come back. -/
theorem deposit_lost : ∃ D D₁ D₂, storeCalls.Reachable D ∧ ExecutedOn D idle ∧
    (∀ a, idle.wipes a = false) ∧ D.block.lookup (numberText 0) = none ∧
    insertBlockWithBundle D (numbered 0) idle = .ok D₁ ∧
    revertTipBlock D₁ (.ofU64 0) = .ok D₂ ∧ ¬SameAccountsAndSlots D D₂ :=
  ⟨paid, _, _, reachable_paid, executedOn_idle paid, fun _ => rfl, rfl, rfl, rfl,
    fun h => absurd (h.account contract) (by decide)⟩

theorem reuse_paid : ∃ D₁ D₂,
    insertBlockWithBundle paid (numbered 0) idle = .ok D₁ ∧ revertTipBlock D₁ (.ofU64 0) = .ok D₂ ∧
    (∀ a k, ∃ v, slotValue paid a k = .ok v) ∧ (SameAccountsAndSlots paid D₂ ↔
      (∀ a old, paid.accountRevert.lookup (numberText 0, a) = some old →
        a ∉ idle.accountReverts.map Prod.fst → old = getAccount paid a) ∧
      ∀ a k data, paid.storageRevert.lookup (numberText 0, a, k) = some data →
        idle.listed a k = none → parseRevert data = slotValue paid a k) :=
  ⟨_, _, rfl, rfl, @reuse_iff paid _ _ (numbered 0) idle reachable_paid (executedOn_idle paid)
    (fun _ => rfl) rfl rfl⟩

end ExEx.Rollup
