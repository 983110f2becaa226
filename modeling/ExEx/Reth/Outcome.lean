import ExEx.Reth.Chain

/-!
# Growing and shrinking an execution outcome

An execution outcome holds, for each of its blocks, an entry of bundle reverts,
the receipts and the requests. Extending it by another outcome appends the
entries of that one; reverting it to a block drops those of the blocks after it.
Blocks are found by their distance from `firstBlock`, which neither changes.

How bundles are merged and reverted is left open (`Bundles`), except for what it
does to the reverts.
-/

namespace ExEx.Reth

/-- How bundles are extended by later ones, and reverted by a number of blocks. -/
structure Bundles where
  extend : BundleState → BundleState → BundleState
  revert : BundleState → ℕ → BundleState
  reverts_extend : ∀ b b', (extend b b').reverts = b.reverts ++ b'.reverts
  reverts_revert : ∀ b n, (revert b n).reverts = b.reverts.take (b.reverts.length - n)

/-- Bundles, as far as reverts go. -/
instance : Inhabited Bundles where
  default :=
    { extend := fun b b' => { b with reverts := b.reverts ++ b'.reverts }
      revert := fun b n => { b with reverts := b.reverts.take (b.reverts.length - n) }
      reverts_extend := fun _ _ => rfl
      reverts_revert := fun _ _ => rfl }

namespace ExecutionOutcome

variable (B : Bundles)

/-- Appends the blocks of another outcome. -/
def extend (o other : ExecutionOutcome) : ExecutionOutcome where
  bundle := B.extend o.bundle other.bundle
  receipts := o.receipts ++ other.receipts
  firstBlock := o.firstBlock
  requests := o.requests ++ other.requests

/-- The place of a block among those held. -/
def blockNumberToIndex (o : ExecutionOutcome) (blockNumber : UInt64) : Option ℕ :=
  if o.firstBlock > blockNumber then none
  else
    let index := (blockNumber - o.firstBlock).toNat
    if index ≥ o.receipts.length then none else some index

/-- Drops the blocks after a block, if it is held. -/
def revertTo (o : ExecutionOutcome) (blockNumber : UInt64) : ExecutionOutcome × Bool :=
  match o.blockNumberToIndex blockNumber with
  | none => (o, false)
  | some index =>
    let newLen := index + 1
    ({ bundle := B.revert o.bundle (o.receipts.length - newLen)
       receipts := o.receipts.take newLen
       firstBlock := o.firstBlock
       requests := o.requests.take newLen }, true)

end ExecutionOutcome

/-! ## What is held -/

/-- The entries of the blocks of an outcome. -/
@[ext]
structure Held where
  reverts : List (List (Address × AccountRevert))
  receipts : List (List Receipt)
  requests : List Requests

namespace Held

/-- One entry of each kind for each of `n` blocks. -/
structure IsFor (h : Held) (n : ℕ) : Prop where
  reverts : h.reverts.length = n
  receipts : h.receipts.length = n
  requests : h.requests.length = n

/-- The entries of some blocks and of those after them. -/
def append (h h' : Held) : Held :=
  ⟨h.reverts ++ h'.reverts, h.receipts ++ h'.receipts, h.requests ++ h'.requests⟩

/-- The entries of the first blocks. -/
def take (n : ℕ) (h : Held) : Held :=
  ⟨h.reverts.take n, h.receipts.take n, h.requests.take n⟩

variable {h h' : Held} {m n : ℕ}

theorem IsFor.append (hm : h.IsFor m) (hn : h'.IsFor n) : (h.append h').IsFor (m + n) :=
  ⟨by rw [Held.append, List.length_append, hm.reverts, hn.reverts],
    by rw [Held.append, List.length_append, hm.receipts, hn.receipts],
    by rw [Held.append, List.length_append, hm.requests, hn.requests]⟩

theorem IsFor.take (hm : h.IsFor m) (n : ℕ) : (h.take n).IsFor (min n m) :=
  ⟨by rw [Held.take, List.length_take, hm.reverts], by rw [Held.take, List.length_take, hm.receipts],
    by rw [Held.take, List.length_take, hm.requests]⟩

theorem IsFor.eq (hm : h.IsFor m) (hn : h.IsFor n) : m = n := hm.receipts.symm.trans hn.receipts

/-- The first blocks are all of them, when there are not more. -/
theorem IsFor.take_of_le (hm : h.IsFor m) (hmn : m ≤ n) : h.take n = h := by
  rw [Held.take, List.take_of_length_le (hm.reverts.trans_le hmn),
    List.take_of_length_le (hm.receipts.trans_le hmn),
    List.take_of_length_le (hm.requests.trans_le hmn)]

/-- Taking as many blocks as were there before an append undoes it. -/
theorem IsFor.take_append (hm : h.IsFor m) : (h.append h').take m = h := by
  rw [Held.append, Held.take, List.take_left' hm.reverts, List.take_left' hm.receipts,
    List.take_left' hm.requests]

end Held

/-- The entries of the blocks of an outcome. -/
def ExecutionOutcome.held (o : ExecutionOutcome) : Held := ⟨o.bundle.reverts, o.receipts, o.requests⟩

theorem held_extend (B : Bundles) (o o' : ExecutionOutcome) :
    (o.extend B o').held = o.held.append o'.held := by
  rw [ExecutionOutcome.held, ExecutionOutcome.extend, B.reverts_extend]
  rfl

/-- An outcome that counts from block `0` is reverted to its first blocks. -/
theorem held_revertTo (B : Bundles) {o : ExecutionOutcome} {n : ℕ} (ho : o.held.IsFor n)
    (h0 : o.firstBlock = 0) (blockNumber : UInt64) :
    (o.revertTo B blockNumber).1.held = o.held.take (blockNumber.toNat + 1) := by
  have hnot : ¬(0 : UInt64) > blockNumber := not_lt.2 (UInt64.le_iff_toNat_le.2 (Nat.zero_le _))
  have hreceipts : o.receipts.length = n := ho.receipts
  rw [ExecutionOutcome.revertTo, ExecutionOutcome.blockNumberToIndex, h0, if_neg hnot,
    UInt64.sub_zero]
  by_cases hge : blockNumber.toNat ≥ o.receipts.length
  · rw [if_pos hge]
    exact (ho.take_of_le (by omega)).symm
  · rw [if_neg hge]
    have hrm : o.bundle.reverts.length - (o.receipts.length - (blockNumber.toNat + 1)) =
        blockNumber.toNat + 1 := by
      have : o.bundle.reverts.length = n := ho.reverts
      omega
    rw [ExecutionOutcome.held, B.reverts_revert, hrm]
    rfl

theorem firstBlock_revertTo (B : Bundles) (o : ExecutionOutcome) (blockNumber : UInt64) :
    (o.revertTo B blockNumber).1.firstBlock = o.firstBlock := by
  rw [ExecutionOutcome.revertTo]
  cases o.blockNumberToIndex blockNumber <;> rfl

end ExEx.Reth
