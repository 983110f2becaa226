import ExEx.Rollup.Database

/-!
# Executing a rollup block

A submitted block is executed on top of the store: its header is constructed
from the submitted one and the parent block, its transactions are decoded from
the call data or from blobs, and they are executed one after the other, skipping
invalid ones.

What the program takes from elsewhere is an `Environment`: the EVM, the pool and
the explorer that serve blobs, the codecs and the hash functions.
-/

namespace ExEx.Rollup

open Reth (RecoveredBlock TransactionSigned Header Receipt Log)

def CHAIN_ID : UInt64 := 17001

def INITIAL_BASE_FEE : UInt64 := 1000000000

/-! ## The store -/

/-- The operations of a database that the rollup uses. An operation that fails
    has no effect. -/
structure BlockStore (σ : Type) where
  getBlock : σ → U256 → Option RecoveredBlock
  insertBlockWithBundle : σ → RecoveredBlock → BundleState → Except Error σ
  revertTipBlock : σ → U256 → Except Error σ
  upsertAccount : σ → Address → (Option AccountInfo → Except Error AccountInfo) → Except Error σ

/-- The tables as a store. -/
def database : BlockStore Tables where
  getBlock := getBlock
  insertBlockWithBundle := insertBlockWithBundle
  revertTipBlock := revertTipBlock
  upsertAccount := upsertAccount

/-! ## The environment -/

/-- A blob. -/
abbrev Blob := Bytes

/-- The KZG commitment of a blob. -/
abbrev Commitment := Bytes

/-- A transaction with its recovered sender. -/
structure Recovered where
  inner : TransactionSigned
  signer : Address

/-- The result of executing a transaction. -/
structure ExecutionResult where
  gasUsed : UInt64
  isSuccess : Bool
  logs : List Log

/-- A transaction is invalid, or something else went wrong. -/
inductive EVMError
  | transaction
  | other

/-- The sidecar of a blob transaction in the pool. -/
inductive Sidecar
  | eip4844 (blobs : List Blob) (commitments : List Commitment)
  | eip7594

/-- What the execution of blocks takes from elsewhere: the store is in `σ`, an
    EVM over it in `ω`, and `δ` is what a transaction changes. -/
structure Environment (σ ω δ : Type) where
  evmForBlock : σ → Header → Except Error ω
  transact : ω → Recovered → Except EVMError (ExecutionResult × δ) × ω
  commit : ω → δ → ω
  mergeTransitions : ω → ω
  /-- The bundle, as its plain state and reverts. -/
  takeBundle : ω → BundleState
  /-- The blobs of a transaction in the pool. -/
  getBlob : B256 → Except Error (Option Sidecar)
  /-- The blobs of a transaction in the explorer. -/
  blobscan : B256 → Except Error (List Blob × List Commitment)
  kzgToVersionedHash : Commitment → B256
  /-- The pieces of data that some blobs encode. -/
  decodeAll : List Blob → Option (List Bytes)
  keccak256 : Bytes → B256
  decodeHashes : Bytes → Except Error (List B256)
  decodeExact : Bytes → Except Error (List Bytes)
  decode2718 : Bytes → Except Error TransactionSigned
  tryRecover : TransactionSigned → Except Error Address
  hashSlow : Header → B256
  /-- The base fee of the block after a block, at a timestamp. -/
  nextBlockBaseFee : Header → UInt64 → Option UInt64

/-! ## Headers -/

/-- The header of a submitted block. -/
structure BlockHeader where
  rollupChainId : U256
  sequence : U256
  confirmBy : U256
  gasLimit : U256

/-- The `u64` of a word, which must fit. -/
def tryU64 (x : U256) : Except Error UInt64 :=
  match x.toU64 with
  | some n => .ok n
  | none => .error (.tryFromWord x)

/-- Whether London activates at a block: it is active from block `0` on. -/
def londonTransitionsAtBlock (blockNumber : UInt64) : Bool := blockNumber = 0

section

variable {σ ω δ : Type} (store : BlockStore σ) (env : Environment σ ω δ)

/-- The base fee of a block, from its parent. -/
def baseFeePerGas (parentBlock : Option RecoveredBlock) (blockNumber timestamp : UInt64) :
    Except Error UInt64 :=
  if londonTransitionsAtBlock blockNumber then .ok INITIAL_BASE_FEE
  else
    match parentBlock with
    | none => .error (.eyre "parent block not found")
    | some block =>
      match env.nextBlockBaseFee block.header timestamp with
      | none => .error (.eyre "failed to calculate base fee")
      | some fee => .ok fee

/-- The header of a submitted block, on top of the stored ones. -/
def constructHeader (s : σ) (header : BlockHeader) : Except Error Header := do
  -- Block `0` has no parent.
  let parentBlock := if header.sequence ≠ 0 then store.getBlock s (header.sequence - 1) else none
  let blockNumber ← tryU64 header.sequence
  let timestamp ← tryU64 header.confirmBy
  let baseFee ← baseFeePerGas env parentBlock blockNumber timestamp
  let gasLimit ← tryU64 header.gasLimit
  .ok { (default : Header) with
    parentHash := (parentBlock.map RecoveredBlock.hash).getD .zero
    number := blockNumber
    gasLimit := gasLimit
    timestamp := timestamp
    baseFeePerGas := some baseFee }

/-! ## Transactions -/

/-- The blobs of a transaction with their commitments. -/
def getBlobs (tx : TransactionSigned) : Except Error (List (Blob × Commitment)) := do
  match ← env.getBlob tx.hash with
  | some (.eip4844 blobs commitments) => .ok (blobs.zip commitments)
  | some .eip7594 => .error (.eyre "Expected EIP-4844 sidecar but got EIP-7594")
  | none =>
    let sidecar ← env.blobscan tx.hash
    .ok (sidecar.1.zip sidecar.2)

/-- The data in the blobs listed in the block data. -/
def decodeBlobs (blobs : List (Blob × Commitment)) (blobHashes : List B256) : Except Error Bytes :=
  let blobs := (blobs.map fun e => (e.1, env.kzgToVersionedHash e.2)).filter
    fun e => blobHashes.contains e.2
  if blobs.length ≠ blobHashes.length then .error (.eyre "some blobs not found")
  else
    match env.decodeAll (blobs.map Prod.fst) with
    | none => .error (.eyre "failed to decode blobs")
    | some data => .ok data.flatten

/-- The raw transactions of a submission, from its blobs or its block data. -/
def rawTransactions (tx : TransactionSigned) (blockData : Bytes) : Except Error Bytes :=
  match tx.txType with
  | .eip4844 => do
    let blobs ← getBlobs env tx
    let blobHashes ← env.decodeHashes blockData
    decodeBlobs env blobs blobHashes
  | _ => .ok blockData

/-- Adds a raw transaction to the decoded ones, if it is for the rollup. -/
def decodeTransaction (transactions : List Recovered) (rawTransaction : Bytes) :
    Except Error (List Recovered) := do
  let tx ← env.decode2718 rawTransaction
  if tx.chainId = some CHAIN_ID then
    let signer ← env.tryRecover tx
    .ok (transactions ++ [⟨tx, signer⟩])
  else .ok transactions

/-- The transactions of a submission, checked against the hash of the block data. -/
def decodeTransactions (tx : TransactionSigned) (blockData : Bytes) (blockDataHash : B256) :
    Except Error (List Recovered) := do
  let raw ← rawTransactions env tx blockData
  if env.keccak256 raw ≠ blockDataHash then .error (.eyre "block data hash mismatch")
  else
    let raws ← env.decodeExact raw
    raws.foldlM (decodeTransaction env) []

/-! ## Execution -/

/-- Where the execution of transactions stands. -/
structure Progress (ω : Type) where
  evm : ω
  cumulativeGasUsed : UInt64
  receipts : List Receipt
  executedTxs : List TransactionSigned
  results : List ExecutionResult

/-- Executes a transaction, or skips it if it is invalid. With an EVM that meters gas, the
    difference and the sum of gas do not overflow. -/
def executeTransaction (header : Header) (p : Progress ω) (transaction : Recovered) :
    Except Error (Progress ω) :=
  let blockAvailableGas := header.gasLimit - p.cumulativeGasUsed
  if blockAvailableGas < transaction.inner.gasLimit then
    .error (.transactionGasLimitMoreThanAvailableBlockGas transaction.inner.gasLimit
      blockAvailableGas)
  else
    match env.transact p.evm transaction with
    -- An invalid transaction is skipped, and uses no gas.
    | (.error .transaction, evm) => .ok { p with evm := evm }
    | (.error .other, _) => .error (.eyre "db error")
    | (.ok (result, state), evm) =>
      let cumulativeGasUsed := p.cumulativeGasUsed + result.gasUsed
      .ok
        { evm := env.commit evm state
          cumulativeGasUsed := cumulativeGasUsed
          receipts := p.receipts ++ [{
            txType := transaction.inner.txType
            success := result.isSuccess
            cumulativeGasUsed := cumulativeGasUsed
            logs := result.logs }]
          executedTxs := p.executedTxs ++ [transaction.inner]
          results := p.results ++ [result] }

/-- Executes transactions in order. -/
def executeTransactions (evm : ω) (header : Header) (transactions : List Recovered) :
    Except Error (Progress ω) := do
  let p ← transactions.foldlM (executeTransaction env header) ⟨evm, 0, [], [], []⟩
  -- Transitions are merged behind the last transaction, if there is one.
  .ok (if transactions.isEmpty then p else { p with evm := env.mergeTransitions p.evm })

/-- A block with the senders of its transactions. -/
def tryIntoRecovered (header : Header) (transactions : List TransactionSigned) :
    Except Error RecoveredBlock := do
  let senders ← transactions.mapM env.tryRecover
  .ok ⟨env.hashSlow header, header, ⟨transactions, [], none⟩, senders⟩

/-- Executes a submitted block on top of the stored ones. -/
def executeBlock (s : σ) (tx : TransactionSigned) (header : BlockHeader) (blockData : Bytes)
    (blockDataHash : B256) :
    Except Error (RecoveredBlock × BundleState × List Receipt × List ExecutionResult) := do
  if header.rollupChainId ≠ .ofU64 CHAIN_ID then .error (.eyre "Invalid rollup chain ID")
  else
    let header ← constructHeader store env s header
    let transactions ← decodeTransactions env tx blockData blockDataHash
    let evm ← env.evmForBlock s header
    let p ← executeTransactions env evm header transactions
    let block ← tryIntoRecovered env header p.executedTxs
    .ok (block, env.takeBundle p.evm, p.receipts, p.results)

variable {store env}

/-! ## What execution produces -/

/-- Away from block `0` the base fee is computed from the parent. -/
theorem baseFeePerGas_ok {parentBlock : Option RecoveredBlock} {blockNumber timestamp fee : UInt64}
    (hok : baseFeePerGas env parentBlock blockNumber timestamp = .ok fee) (h0 : blockNumber ≠ 0) :
    ∃ parent, parentBlock = some parent := by
  simp only [baseFeePerGas, londonTransitionsAtBlock, h0, decide_false, Bool.false_eq_true,
    if_false] at hok
  cases parentBlock with
  | none => cases hok
  | some parent => exact ⟨parent, rfl⟩

/-- A constructed header has the number of its sequence and, unless this is
    zero, the hash of a stored parent. -/
theorem constructHeader_ok {s : σ} {header : BlockHeader} {h : Header}
    (hok : constructHeader store env s header = .ok h) :
    header.sequence = .ofU64 h.number ∧
      (h.number ≠ 0 → ∃ parent, store.getBlock s (header.sequence - 1) = some parent ∧
        h.parentHash = parent.hash) := by
  simp only [constructHeader] at hok
  obtain ⟨n, hn, hok⟩ := bind_eq_ok.1 hok
  obtain ⟨timestamp, -, hok⟩ := bind_eq_ok.1 hok
  obtain ⟨fee, hfee, hok⟩ := bind_eq_ok.1 hok
  obtain ⟨gasLimit, -, hok⟩ := bind_eq_ok.1 hok
  obtain rfl := Except.ok.inj hok
  have hseq : header.sequence = .ofU64 n := by
    rw [tryU64] at hn
    split at hn
    · next m hm => exact Except.ok.inj hn ▸ U256.toU64_eq_some_iff.1 hm
    · cases hn
  refine ⟨hseq, ?_⟩
  intro h0
  have h0' : header.sequence ≠ 0 := by
    intro hz
    have htoNat := congrArg BitVec.toNat (hseq.symm.trans hz)
    rw [U256.toNat_ofU64] at htoNat
    exact h0 (UInt64.toNat_inj.1 htoNat)
  obtain ⟨parent, hparent⟩ := baseFeePerGas_ok hfee h0
  refine ⟨parent, ?_, by rw [hparent]; rfl⟩
  rwa [if_pos h0'] at hparent

/-- A transaction that does not fail has gas left for it. It is skipped, or executed: then
    its receipt has the gas used so far. -/
theorem executeTransaction_ok {header : Header} {p q : Progress ω} {transaction : Recovered}
    (hok : executeTransaction env header p transaction = .ok q) :
    transaction.inner.gasLimit ≤ header.gasLimit - p.cumulativeGasUsed ∧
      ((∃ evm, env.transact p.evm transaction = (.error .transaction, evm) ∧
          q = { p with evm := evm }) ∨
        ∃ result state evm, env.transact p.evm transaction = (.ok (result, state), evm) ∧
          q = {
            evm := env.commit evm state
            cumulativeGasUsed := p.cumulativeGasUsed + result.gasUsed
            receipts := p.receipts ++ [{
              txType := transaction.inner.txType
              success := result.isSuccess
              cumulativeGasUsed := p.cumulativeGasUsed + result.gasUsed
              logs := result.logs }]
            executedTxs := p.executedTxs ++ [transaction.inner]
            results := p.results ++ [result] }) := by
  rw [executeTransaction] at hok
  split_ifs at hok with hgas
  refine ⟨UInt64.not_lt.1 hgas, ?_⟩
  rcases htransact : env.transact p.evm transaction with ⟨(_ | _) | ⟨result, state⟩, evm⟩ <;>
    rw [htransact] at hok
  · exact .inl ⟨evm, rfl, (Except.ok.inj hok).symm⟩
  · cases hok
  · exact .inr ⟨result, state, evm, rfl, (Except.ok.inj hok).symm⟩

/-- An executed block is for the rollup, with a constructed header. -/
theorem executeBlock_ok {s : σ} {tx : TransactionSigned} {header : BlockHeader} {blockData : Bytes}
    {blockDataHash : B256}
    {out : RecoveredBlock × BundleState × List Receipt × List ExecutionResult}
    (hok : executeBlock store env s tx header blockData blockDataHash = .ok out) :
    header.rollupChainId = .ofU64 CHAIN_ID ∧
      constructHeader store env s header = .ok out.1.header := by
  rw [executeBlock] at hok
  split_ifs at hok with hid
  obtain ⟨h, hh, hok⟩ := bind_eq_ok.1 hok
  obtain ⟨transactions, -, hok⟩ := bind_eq_ok.1 hok
  obtain ⟨evm, -, hok⟩ := bind_eq_ok.1 hok
  obtain ⟨p, -, hok⟩ := bind_eq_ok.1 hok
  obtain ⟨block, hblock, hok⟩ := bind_eq_ok.1 hok
  obtain rfl := Except.ok.inj hok
  rw [tryIntoRecovered] at hblock
  obtain ⟨senders, -, hblock⟩ := bind_eq_ok.1 hblock
  obtain rfl := Except.ok.inj hblock
  exact ⟨not_not.1 hid, hh⟩

end

/-! ### Blocks without transactions -/

/-- An environment that knows the RLP of the empty list and its hash, and what
    becomes of a base fee after an empty block. -/
def emptyBlocks (σ : Type) : Environment σ Unit Unit where
  evmForBlock _ _ := .ok ()
  transact _ _ := (.error .other, ())
  commit _ _ := ()
  mergeTransitions _ := ()
  takeBundle _ := ⟨⟨[], [], []⟩, ⟨[], []⟩⟩
  getBlob _ := .ok none
  blobscan _ := .error (.eyre "not found")
  kzgToVersionedHash _ := .zero
  decodeAll _ := none
  keccak256 b := if b = [0xc0] then Reth.EMPTY_OMMER_ROOT_HASH else .zero
  decodeHashes b := if b = [0xc0] then .ok [] else .error (.eyre "unexpected string")
  decodeExact b := if b = [0xc0] then .ok [] else .error (.eyre "unexpected string")
  decode2718 _ := .error (.eyre "unexpected type flag")
  tryRecover _ := .error (.eyre "failed to recover")
  hashSlow header := .ofU256 (.ofU64 header.number)
  nextBlockBaseFee parent _ := parent.baseFeePerGas.map fun fee => fee - fee / 8

end ExEx.Rollup
