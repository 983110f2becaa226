import ExEx.Lib.BaseFee
import ExEx.Lib.System
import ExEx.Rollup.Execution
import ExEx.Rollup.Revert
import ExEx.Rollup.Tip
import Mathlib.Data.UInt

/-!
# The base fee of a rollup block

The base fee of a block is computed from the stored header of its parent, which
was constructed before the parent was executed: the gas used in it is `0`,
whatever the transactions of the parent used. So the fee falls after each block,
and it is the fee that follows the usage of the parent only where rounding hides
the difference (`baseFee_iff`).

The runs are those of a database to which submitted blocks are executed and
inserted (`executing`), with the receipts of the stored blocks beside it.
-/

namespace ExEx.Rollup

open Reth (RecoveredBlock TransactionSigned Header Receipt)

/-! ## The gas used -/

/-- The gas used by all the transactions with some receipts. -/
def gasUsed (receipts : List Receipt) : UInt64 :=
  (receipts.getLast?.map Receipt.cumulativeGasUsed).getD 0

section

variable {ω δ : Type} {env : Environment Tables ω δ}

/-- The last receipt has the sum of the gas of all results. -/
theorem gasUsed_executeTransactions {evm : ω} {header : Header} {transactions : List Recovered}
    {p : Progress ω} (h : executeTransactions env evm header transactions = .ok p) :
    gasUsed p.receipts = (p.results.map ExecutionResult.gasUsed).sum := by
  obtain ⟨p', hp', h⟩ := bind_eq_ok.1 h
  have hsum : p'.cumulativeGasUsed = gasUsed p'.receipts ∧
      p'.cumulativeGasUsed = (p'.results.map ExecutionResult.gasUsed).sum := by
    refine foldlM_invariant (P := fun p : Progress ω => p.cumulativeGasUsed = gasUsed p.receipts ∧
      p.cumulativeGasUsed = (p.results.map ExecutionResult.gasUsed).sum) ?_ ⟨rfl, rfl⟩ hp'
    intro p transaction q hp hq
    obtain ⟨-, ⟨evm, -, rfl⟩ | ⟨result, state, evm, -, rfl⟩⟩ := executeTransaction_ok hq
    · exact hp
    · refine ⟨?_, ?_⟩
      · rw [gasUsed, List.getLast?_concat]
        rfl
      · rw [List.map_append, List.sum_append, ← hp.2, List.map_singleton, List.sum_singleton]
  have hgas : gasUsed p'.receipts = (p'.results.map ExecutionResult.gasUsed).sum :=
    hsum.1.symm.trans hsum.2
  obtain rfl := Except.ok.inj h
  split_ifs <;> exact hgas

/-! ## The header of an executed block -/

/-- A constructed header has no gas used. Its base fee is computed from the stored
    parent, if it is not that of block `0`. -/
theorem baseFee_constructHeader {t : Tables} {header : BlockHeader} {h : Header}
    (hok : constructHeader database env t header = .ok h) :
    h.gasUsed = 0 ∧ ∃ fee, h.baseFeePerGas = some fee ∧
      (h.number ≠ 0 → ∃ parent, getBlock t (.ofU64 (h.number - 1)) = some parent ∧
        env.nextBlockBaseFee parent.header h.timestamp = some fee) := by
  have hparent := constructHeader_ok hok
  simp only [constructHeader] at hok
  obtain ⟨n, -, hok⟩ := bind_eq_ok.1 hok
  obtain ⟨timestamp, -, hok⟩ := bind_eq_ok.1 hok
  obtain ⟨fee, hfee, hok⟩ := bind_eq_ok.1 hok
  obtain ⟨gasLimit, -, hok⟩ := bind_eq_ok.1 hok
  obtain rfl := Except.ok.inj hok
  refine ⟨rfl, fee, rfl, fun h0 => ?_⟩
  obtain ⟨hseq, hparent⟩ := hparent
  obtain ⟨parent, hp, -⟩ := hparent h0
  have hne : header.sequence ≠ 0 := fun hz => h0 (ofU64_injective (hseq.symm.trans hz))
  have hn : ¬londonTransitionsAtBlock n = true := by
    rw [londonTransitionsAtBlock, decide_eq_true_iff]
    exact h0
  rw [if_pos hne, hp] at hfee
  simp only [baseFeePerGas, if_neg hn] at hfee
  refine ⟨parent, ?_, ?_⟩
  · rwa [hseq, ofU64_sub_one h0] at hp
  · rcases hnext : env.nextBlockBaseFee parent.header timestamp with _ | fee' <;>
      simp only [hnext] at hfee
    · cases hfee
    · rw [Except.ok.inj hfee]

/-! ## Runs -/

/-- The database, and the receipts of the block last stored under each number. -/
structure Executing where
  db : Tables
  receipts : Assoc Text (List Receipt)

/-- A submitted block is executed and inserted, the tip is reverted, or an account is
    written. -/
inductive RollupCall
  | submitBlock (tx : TransactionSigned) (header : BlockHeader) (blockData : Bytes)
      (blockDataHash : B256)
  | revertTipBlock (blockNumber : U256)
  | upsertAccount (address : Address) (f : Option AccountInfo → Except Error AccountInfo)

variable (env) in
def RollupCall.run (s : Executing) : RollupCall → Except Error Executing
  | .submitBlock tx header blockData blockDataHash => do
    let (block, bundle, receipts, _) ← executeBlock database env s.db tx header blockData blockDataHash
    let db ← insertBlockWithBundle s.db block bundle
    .ok ⟨db, s.receipts.put (numberText block.number) receipts⟩
  | .revertTipBlock blockNumber => do
    let db ← Rollup.revertTipBlock s.db blockNumber
    .ok ⟨db, s.receipts⟩
  | .upsertAccount address f => do
    let db ← Rollup.upsertAccount s.db address f
    .ok ⟨db, s.receipts⟩

variable (env) in
/-- Successful calls on a database that starts out empty. -/
def executing : System Executing RollupCall where
  init s := s = ⟨.empty, .empty⟩
  step s call s' := call.run env s = .ok s'

/-- Stored blocks have a base fee, no gas used, and receipts beside them. -/
def StoredUnused (s : Executing) : Prop :=
  ∀ text block, s.db.block.lookup text = some block →
    block.header.gasUsed = 0 ∧ block.header.baseFeePerGas.isSome ∧ (s.receipts.lookup text).isSome

theorem StoredUnused.submitBlock {s s' : Executing} (h : StoredUnused s) {tx : TransactionSigned}
    {header : BlockHeader} {blockData : Bytes} {blockDataHash : B256}
    (hrun : (RollupCall.submitBlock tx header blockData blockDataHash).run env s = .ok s') :
    StoredUnused s' := by
  obtain ⟨⟨block, bundle, receipts, results⟩, hexec, hrun⟩ := bind_eq_ok.1 hrun
  obtain ⟨db, hins, hrun⟩ := bind_eq_ok.1 hrun
  obtain rfl := Except.ok.inj hrun
  obtain ⟨hgas, fee, hfee, -⟩ := baseFee_constructHeader (executeBlock_ok hexec).2
  intro text b hb
  rw [(block_insertBlockWithBundle hins).2, Assoc.lookup_put] at hb
  rw [Assoc.lookup_put]
  split_ifs at hb ⊢ with htext
  · obtain rfl := Option.some.inj hb
    exact ⟨hgas, Option.isSome_of_eq_some hfee, rfl⟩
  · exact h text b hb

theorem storedUnused {s : Executing} (hs : (executing env).Reachable s) : StoredUnused s := by
  refine hs.invariant ?_ ?_
  · intro s h
    obtain rfl : s = ⟨.empty, .empty⟩ := h
    exact fun _ _ hb => absurd hb (by simp [Tables.empty])
  intro s call s' _ h _ hstep
  cases call with
  | submitBlock tx header blockData blockDataHash => exact h.submitBlock hstep
  | revertTipBlock n =>
    obtain ⟨db, hrev, hstep⟩ := bind_eq_ok.1 hstep
    obtain rfl := Except.ok.inj hstep
    intro text block hb
    rw [(reverted hrev).block_eq, Assoc.lookup_erase] at hb
    split_ifs at hb
    exact h text block hb
  | upsertAccount address f =>
    obtain ⟨db, hdb, hstep⟩ := bind_eq_ok.1 hstep
    obtain rfl := Except.ok.inj hstep
    obtain ⟨account, -, hdb⟩ := bind_eq_ok.1 hdb
    obtain rfl := Except.ok.inj hdb
    exact h

/-! ## The base fee -/

variable (env) in
/-- The next base fee is that of EIP-1559, where it is a `u64`. -/
def NextBaseFee : Prop :=
  ∀ (header : Header) (timestamp fee : UInt64), header.baseFeePerGas = some fee →
    BaseFeeParams.ethereum.nextBaseFee header.gasUsed.toNat header.gasLimit.toNat fee.toNat <
      UInt64.size →
    env.nextBlockBaseFee header timestamp = some (.ofNat
      (BaseFeeParams.ethereum.nextBaseFee header.gasUsed.toNat header.gasLimit.toNat fee.toNat))

/-- The base fee of a block is that of EIP-1559 for the gas its parent used. -/
def FollowsUsage (parent : RecoveredBlock) (receipts : List Receipt) (child : RecoveredBlock) : Prop :=
  child.header.baseFeePerGas.map UInt64.toNat = parent.header.baseFeePerGas.map fun fee =>
    BaseFeeParams.ethereum.nextBaseFee (gasUsed receipts).toNat parent.header.gasLimit.toNat fee.toNat

instance (parent : RecoveredBlock) (receipts : List Receipt) (child : RecoveredBlock) :
    Decidable (FollowsUsage parent receipts child) :=
  inferInstanceAs (Decidable (_ = _))

/-- The gas a block used makes no difference to the next base fee: it is within the
    target, and its share of the base fee within what rounding takes off. -/
def UsageHidden (parent : RecoveredBlock) (receipts : List Receipt) : Prop :=
  let target := BaseFeeParams.ethereum.target parent.header.gasLimit.toNat
  ∀ fee ∈ parent.header.baseFeePerGas, (gasUsed receipts).toNat ≤ target ∧
    fee.toNat * (gasUsed receipts).toNat ≤ fee.toNat % 8 * target

/-- A block executed on top of a stored one has the base fee that follows the usage
    of this parent exactly if the usage makes no difference. -/
theorem baseFee_iff (henv : NextBaseFee env) {s : Executing} (hs : (executing env).Reachable s)
    {tx : TransactionSigned} {header : BlockHeader} {blockData : Bytes} {blockDataHash : B256}
    {child : RecoveredBlock} {bundle : BundleState} {receipts' : List Receipt}
    {results : List ExecutionResult}
    (hexec : executeBlock database env s.db tx header blockData blockDataHash =
      .ok (child, bundle, receipts', results)) (h0 : child.number ≠ 0) :
    ∃ parent receipts, getBlock s.db (.ofU64 (child.number - 1)) = some parent ∧
      s.receipts.lookup (numberText (child.number - 1)) = some receipts ∧
      (FollowsUsage parent receipts child ↔ UsageHidden parent receipts) := by
  obtain ⟨-, fee', hfee', hparent⟩ := baseFee_constructHeader (executeBlock_ok hexec).2
  obtain ⟨parent, hp, hnext⟩ := hparent h0
  rw [getBlock, toText_ofU64] at hp
  obtain ⟨hgas, hfee, hreceipts⟩ := storedUnused hs _ _ hp
  obtain ⟨fee, hfee⟩ := Option.isSome_iff_exists.1 hfee
  obtain ⟨receipts, hreceipts⟩ := Option.isSome_iff_exists.1 hreceipts
  refine ⟨parent, receipts, by rw [getBlock, toText_ofU64, hp], hreceipts, ?_⟩
  -- Without gas used, the fee does not rise, and is a `u64`.
  have hle : BaseFeeParams.ethereum.nextBaseFee parent.header.gasUsed.toNat
      parent.header.gasLimit.toNat fee.toNat < UInt64.size := by
    rw [hgas]
    exact (BaseFeeParams.nextBaseFee_le (Nat.zero_le _)).trans_lt fee.toNat_lt
  have hvalue : fee'.toNat = BaseFeeParams.ethereum.nextBaseFee 0 parent.header.gasLimit.toNat
      fee.toNat := by
    rw [henv _ _ fee hfee hle] at hnext
    rw [← Option.some.inj hnext, UInt64.toNat_ofNat_of_lt' hle, hgas]
    rfl
  rw [FollowsUsage, UsageHidden, hfee', hfee, Option.map_some, Option.map_some, hvalue,
    Option.some_inj, BaseFeeParams.nextBaseFee_eq_iff]
  simp [BaseFeeParams.ethereum]

end

/-! ### A block that uses as much gas as its target -/

/-- A transaction of the rollup. -/
def transfer : TransactionSigned where
  transaction := .legacy
    { chainId := some CHAIN_ID
      nonce := 0
      gasPrice := 1000000000
      gasLimit := 21000
      «to» := .call .zero
      value := 1
      input := [] }
  signature := ⟨0, 0, false⟩
  hash := .zero

/-- An environment with the base fee of EIP-1559, in which all data that is not the empty
    list is one such transaction. -/
def transfers : Environment Tables Unit Unit :=
  { emptyBlocks Tables with
    transact := fun _ _ => (.ok (⟨21000, true, []⟩, ()), ())
    decodeExact := fun b => .ok (if b = [0xc0] then [] else [b])
    decode2718 := fun _ => .ok transfer
    tryRecover := fun _ => .ok .zero
    nextBlockBaseFee := fun header _ => header.baseFeePerGas.map fun fee => .ofNat
      (BaseFeeParams.ethereum.nextBaseFee header.gasUsed.toNat header.gasLimit.toNat fee.toNat) }

theorem nextBaseFee_transfers : NextBaseFee transfers := fun header _ fee hfee _ => by
  simp only [transfers, hfee, Option.map_some]

/-- The header of a block, with gas for two such transactions. -/
def headerOf (sequence : U256) : BlockHeader := ⟨.ofU64 CHAIN_ID, sequence, 0, 42000⟩

/-- Block `0` is submitted with some data. -/
def firstBlock (blockData : Bytes) (blockDataHash : B256) : RollupCall :=
  .submitBlock transfer (headerOf 0) blockData blockDataHash

/-- An executed block. -/
def executed (number fee : UInt64) (transactions : List TransactionSigned) : RecoveredBlock where
  hash := .ofU256 (.ofU64 number)
  header :=
    { (default : Header) with
      number := number
      gasLimit := 42000
      baseFeePerGas := some fee }
  body := ⟨transactions, [], none⟩
  senders := transactions.map fun _ => .zero

/-- The receipt of a transaction. -/
def transferReceipt : Receipt := ⟨.legacy, true, 21000, []⟩

/-- The state with block `0`. -/
def firstStored (transactions : List TransactionSigned) (receipts : List Receipt) : Executing where
  db := { Tables.empty with block := .ofList [(numberText 0, executed 0 INITIAL_BASE_FEE transactions)] }
  receipts := .ofList [(numberText 0, receipts)]

theorem reachable_transfer :
    (executing transfers).Reachable (firstStored [transfer] [transferReceipt]) :=
  .step (e := firstBlock [0x01] .zero) (.init rfl) trivial rfl

/-- An empty block `1` is executed. -/
def secondBlock (s : Executing) :
    Except Error (RecoveredBlock × BundleState × List Receipt × List ExecutionResult) :=
  executeBlock database transfers s.db transfer (headerOf 1) [0xc0] Reth.EMPTY_OMMER_ROOT_HASH

/-- The base fee of a block after the first one, if that used no gas. -/
def secondFee : UInt64 := .ofNat (BaseFeeParams.ethereum.nextBaseFee 0 42000 1000000000)

theorem secondBlock_ok (transactions : List TransactionSigned) (receipts : List Receipt) :
    secondBlock (firstStored transactions receipts) =
      .ok (executed 1 secondFee [], ⟨⟨[], [], []⟩, ⟨[], []⟩⟩, [], []) := rfl

/-- After a block that uses as much gas as its target, the base fee falls. -/
theorem fee_falls_at_target : ∃ s child bundle receipts' results parent receipts,
    (executing transfers).Reachable s ∧
    secondBlock s = .ok (child, bundle, receipts', results) ∧
    getBlock s.db (.ofU64 0) = some parent ∧ s.receipts.lookup (numberText 0) = some receipts ∧
    (gasUsed receipts).toNat = BaseFeeParams.ethereum.target parent.header.gasLimit.toNat ∧
    ¬FollowsUsage parent receipts child := by
  refine ⟨_, _, _, _, _, _, _, reachable_transfer, secondBlock_ok _ _, rfl, rfl, rfl, ?_⟩
  decide

/-- The base fee after the block with a transfer is not that of its gas, which is not hidden. -/
theorem baseFee_second : ∃ parent receipts,
    getBlock (firstStored [transfer] [transferReceipt]).db
      (.ofU64 ((executed 1 secondFee []).number - 1)) = some parent ∧
    (firstStored [transfer] [transferReceipt]).receipts.lookup
      (numberText ((executed 1 secondFee []).number - 1)) = some receipts ∧
    (FollowsUsage parent receipts (executed 1 secondFee []) ↔ UsageHidden parent receipts) :=
  baseFee_iff nextBaseFee_transfers reachable_transfer (secondBlock_ok [transfer] [transferReceipt])
    (by decide)

end ExEx.Rollup
