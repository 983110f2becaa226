import ExEx.Rollup.Execution

/-!
# The rollup driver

The rollup follows the notifications of the node. From the chain of a
notification it takes the events of the rollup contract, in order: committing
executes and inserts submitted blocks and adds deposits, and reverting takes the
events in reverse, reverting blocks and subtracting deposits.

A submitted block that fails to execute is skipped. The database is changed call
by call: when the driver stops on an error, the calls made before stay.
-/

namespace ExEx.Rollup

open Reth (RecoveredBlock TransactionSigned Receipt Log Chain ExExNotification)

/-! ## The contract -/

def ROLLUP_CONTRACT_ADDRESS : Address :=
  ⟨[0x97, 0xc0, 0xe4, 0x0c, 0x6b, 0x5b, 0xb5, 0xd4, 0xfa, 0x3e, 0x2a, 0xa1, 0xc6, 0xb8, 0xbc, 0x7e,
    0xa5, 0xec, 0xae, 0x31], rfl⟩

/-- An event of the rollup contract. -/
inductive RollupContractEvents
  | blockSubmitted (blockDataHash : B256)
  | enter (rollupChainId : U256) (token rollupRecipient : Address) (amount : U256)
  | other

/-- A call of the rollup contract. -/
inductive RollupContractCalls
  | submitBlock (header : BlockHeader) (blockData : Bytes)
  | other

/-- The binary interface of the rollup contract. -/
structure RollupContract where
  decodeRawLog : List B256 → Bytes → Option RollupContractEvents
  abiDecode : Bytes → Except Error RollupContractCalls

/-- An event with the transaction it comes from. -/
abbrev Event := TransactionSigned × RollupContractEvents

section

variable {σ ω δ : Type} (store : BlockStore σ) (env : Environment σ ω δ) (contract : RollupContract)

/-- The events of a receipt. -/
def decodeReceipt (e : TransactionSigned × Receipt) : List Event :=
  (e.2.logs.filter fun log => log.address = ROLLUP_CONTRACT_ADDRESS).filterMap fun log =>
    (contract.decodeRawLog log.data.topics log.data.data).map fun event => (e.1, event)

/-- The events of a chain, block by block, transaction by transaction. -/
def decodeChainIntoRollupEvents (chain : Chain) : List Event :=
  chain.blocksAndReceipts.flatMap fun b =>
    (b.1.body.transactions.zip b.2).flatMap (decodeReceipt contract)

/-! ## Committing -/

/-- An account with a deposit. -/
def deposit (amount : U256) (account : Option AccountInfo) : Except Error AccountInfo :=
  let account := account.getD default
  .ok { account with balance := account.balance + amount }

/-- Executes a submitted block and inserts it, or skips it. -/
def submitBlock (tx : TransactionSigned) (header : BlockHeader) (blockData : Bytes)
    (blockDataHash : B256) (s : σ) : Except Error Unit × σ :=
  match executeBlock store env s tx header blockData blockDataHash with
  | .ok (block, bundle, _, _) => transaction (store.insertBlockWithBundle · block bundle) s
  -- The error is logged.
  | .error _ => (.ok (), s)

/-- Writes the account of a deposit, unless it is not for the rollup. -/
def enter (rollupChainId : U256) (token rollupRecipient : Address)
    (f : Option AccountInfo → Except Error AccountInfo) (s : σ) : Except Error Unit × σ :=
  if rollupChainId ≠ .ofU64 CHAIN_ID then (.ok (), s)
  else if token ≠ .zero then (.ok (), s)
  else transaction (store.upsertAccount · rollupRecipient f) s

def commitEvent (e : Event) (s : σ) : Except Error Unit × σ :=
  match e.2 with
  | .blockSubmitted blockDataHash =>
    match contract.abiDecode e.1.input with
    | .error err => (.error err, s)
    | .ok (.submitBlock header blockData) =>
      submitBlock store env e.1 header blockData blockDataHash s
    | .ok .other => (.ok (), s)
  | .enter rollupChainId token rollupRecipient amount =>
    enter store rollupChainId token rollupRecipient (deposit amount) s
  | .other => (.ok (), s)

/-- Commits the events of a chain. -/
def commit (chain : Chain) (s : σ) : Except Error Unit × σ :=
  forEach (commitEvent store env contract) (decodeChainIntoRollupEvents contract chain) s

/-! ## Reverting -/

/-- An account without a deposit. -/
def withdraw (amount : U256) (account : Option AccountInfo) : Except Error AccountInfo :=
  match account with
  | none => .error (.eyre "account not found")
  | some account => .ok { account with balance := account.balance - amount }

def revertEvent (e : Event) (s : σ) : Except Error Unit × σ :=
  match e.2 with
  -- Whether the block was skipped is not known here.
  | .blockSubmitted _ =>
    match contract.abiDecode e.1.input with
    | .error err => (.error err, s)
    | .ok (.submitBlock header _) => transaction (store.revertTipBlock · header.sequence) s
    | .ok .other => (.ok (), s)
  | .enter rollupChainId token rollupRecipient amount =>
    enter store rollupChainId token rollupRecipient (withdraw amount) s
  | .other => (.ok (), s)

/-- Reverts the events of a chain, the last one first. -/
def revert (chain : Chain) (s : σ) : Except Error Unit × σ :=
  forEach (revertEvent store contract) (decodeChainIntoRollupEvents contract chain).reverse s

/-! ## Notifications -/

/-- The database, and the heights announced as finished. -/
structure RollupState (σ : Type) where
  db : σ
  finishedHeights : List (UInt64 × B256)

/-- Reverts the chain a notification takes away. -/
def handleReverted (notification : ExExNotification) (s : σ) : Except Error Unit × σ :=
  match notification.revertedChain with
  | some chain => revert store contract chain s
  | none => (.ok (), s)

/-- Commits the chain a notification brings, and announces its tip. -/
def handleCommitted (notification : ExExNotification) (r : RollupState σ) :
    Except Error Unit × RollupState σ :=
  match notification.committedChain with
  | none => (.ok (), r)
  | some chain =>
    match commit store env contract chain r.db with
    | (.error err, db) => (.error err, { r with db := db })
    | (.ok (), db) =>
      match chain.tip with
      | none => (.error (.eyre "Chain should have at least one block"), { r with db := db })
      | some tip =>
        (.ok (), ⟨db, r.finishedHeights ++ [(tip.number, tip.hash)]⟩)

/-- Handles a notification. -/
def handle (notification : ExExNotification) (r : RollupState σ) :
    Except Error Unit × RollupState σ :=
  match handleReverted store contract notification r.db with
  | (.error err, db) => (.error err, { r with db := db })
  | (.ok (), db) => handleCommitted store env contract notification { r with db := db }

/-- Handles notifications, up to the first error. -/
def start (notifications : List ExExNotification) (r : RollupState σ) :
    Except Error Unit × RollupState σ :=
  forEach (handle store env contract) notifications r

/-! ## What an event asks for -/

/-- What is committed or reverted for an event. -/
inductive Request
  | nothing
  | block (header : BlockHeader) (blockData : Bytes) (blockDataHash : B256)
  | account (rollupRecipient : Address) (amount : U256)

/-- What an event asks for: its call is decoded, and it must be for the rollup. -/
def request (e : Event) : Except Error Request :=
  match e.2 with
  | .blockSubmitted blockDataHash =>
    match contract.abiDecode e.1.input with
    | .error err => .error err
    | .ok (.submitBlock header blockData) => .ok (.block header blockData blockDataHash)
    | .ok .other => .ok .nothing
  | .enter rollupChainId token rollupRecipient amount =>
    .ok (if rollupChainId ≠ .ofU64 CHAIN_ID ∨ token ≠ .zero then .nothing
      else .account rollupRecipient amount)
  | .other => .ok .nothing

theorem enter_eq (rollupChainId : U256) (token rollupRecipient : Address)
    (f : Option AccountInfo → Except Error AccountInfo) (s : σ) :
    enter store rollupChainId token rollupRecipient f s =
      if rollupChainId ≠ .ofU64 CHAIN_ID ∨ token ≠ .zero then (.ok (), s)
      else transaction (store.upsertAccount · rollupRecipient f) s := by
  rw [enter]
  by_cases hid : rollupChainId ≠ .ofU64 CHAIN_ID <;> simp [hid]

/-- Committing an event does what it asks for. -/
theorem commitEvent_eq (e : Event) (s : σ) :
    commitEvent store env contract e s =
      match request contract e with
      | .error err => (.error err, s)
      | .ok .nothing => (.ok (), s)
      | .ok (.block header blockData blockDataHash) =>
        submitBlock store env e.1 header blockData blockDataHash s
      | .ok (.account a amount) => transaction (store.upsertAccount · a (deposit amount)) s := by
  obtain ⟨tx, event⟩ := e
  rw [commitEvent, request]
  rcases event with blockDataHash | ⟨id, token, a, amount⟩ | _
  · simp only
    rcases contract.abiDecode tx.input with err | ⟨header, blockData⟩ | _ <;> rfl
  · simp only [enter_eq]
    split_ifs <;> rfl
  · rfl

/-- Reverting it undoes what it asks for. -/
theorem revertEvent_eq (e : Event) (s : σ) :
    revertEvent store contract e s =
      match request contract e with
      | .error err => (.error err, s)
      | .ok .nothing => (.ok (), s)
      | .ok (.block header _ _) => transaction (store.revertTipBlock · header.sequence) s
      | .ok (.account a amount) => transaction (store.upsertAccount · a (withdraw amount)) s := by
  obtain ⟨tx, event⟩ := e
  rw [revertEvent, request]
  rcases event with blockDataHash | ⟨id, token, a, amount⟩ | _
  · simp only
    rcases contract.abiDecode tx.input with err | ⟨header, blockData⟩ | _ <;> rfl
  · simp only [enter_eq]
    split_ifs <;> rfl
  · rfl

/-- The block an event asks for is the one it submits. -/
theorem request_eq_block_iff {e : Event} {header : BlockHeader} {blockData : Bytes}
    {blockDataHash : B256} :
    request contract e = .ok (.block header blockData blockDataHash) ↔
      e.2 = .blockSubmitted blockDataHash ∧
        contract.abiDecode e.1.input = .ok (.submitBlock header blockData) := by
  obtain ⟨tx, event⟩ := e
  rw [request]
  rcases event with hash | ⟨id, token, a, amount⟩ | _
  · simp only
    rcases contract.abiDecode tx.input with err | ⟨header', blockData'⟩ | _ <;>
      simp [and_comm, and_assoc]
  · simp only
    split_ifs <;> simp
  · simp

theorem transaction_eq_ok {σ : Type*} {call : σ → Except Error σ} {s s' : σ} :
    transaction call s = (.ok (), s') ↔ call s = .ok s' := by
  rw [transaction]
  rcases call s with e | s₁
  · exact ⟨nofun, nofun⟩
  · simp

end

/-! ### Submissions -/

/-- The topic of `BlockSubmitted`. -/
def BLOCK_SUBMITTED : B256 :=
  ⟨[0x9c, 0x57, 0x02, 0xb5, 0x63, 0x9f, 0x45, 0x1b, 0xda, 0x4f, 0x9d, 0xba, 0x7f, 0xdf, 0x9d, 0x12,
    0x5a, 0x67, 0x5c, 0xcd, 0xdd, 0x31, 0x5b, 0x81, 0xce, 0x96, 0x2d, 0x3d, 0xdd, 0x98, 0x6a, 0x23],
    rfl⟩

/-- The selector of `submitBlock`. -/
def SUBMIT_BLOCK : Bytes := [0x7e, 0x56, 0x92, 0x74]

/-- The interface of the contract on well-formed submissions: the arguments of
    the call are the five words of the header, the hash, the signature, and the
    offset of the block data. -/
def submissions : RollupContract where
  decodeRawLog topics data :=
    if topics.head? = some BLOCK_SUBMITTED then
      (FixedBytes.tryFrom data).map RollupContractEvents.blockSubmitted
    else none
  abiDecode input :=
    let args := input.drop 4
    let offset := (wordAt args 288).toNat
    if input.take 4 = SUBMIT_BLOCK then
      .ok (.submitBlock ⟨wordAt args 0, wordAt args 32, wordAt args 64, wordAt args 96⟩
        ((args.drop (offset + 32)).take (wordAt args offset).toNat))
    else .ok .other

/-- The transaction that submits a block, whose data is one byte. -/
def submissionOf (blockData : UInt8) (rollupChainId sequence : U256) : TransactionSigned :=
  let word (x : U256) : Bytes := (B256.ofU256 x).toVec
  let header := word rollupChainId ++ word sequence ++ word 0 ++ word 30000000 ++ word 0
  let call := word 0 ++ word 0 ++ word 0 ++ word 0 ++ word 320 ++ word 1 ++ [blockData]
  { transaction := .legacy
      { chainId := some 17000
        nonce := 0
        gasPrice := 0
        gasLimit := 1000000
        «to» := .call ROLLUP_CONTRACT_ADDRESS
        value := 0
        input := SUBMIT_BLOCK ++ header ++ call }
    signature := ⟨0, 0, false⟩
    hash := .zero }

/-- The transaction that submits an empty block. -/
def submission (rollupChainId sequence : U256) : TransactionSigned :=
  submissionOf 0xc0 rollupChainId sequence

/-- The receipt of such a transaction. -/
def submissionReceipt : Receipt where
  txType := .legacy
  success := true
  cumulativeGasUsed := 0
  logs := [⟨ROLLUP_CONTRACT_ADDRESS,
    ⟨[BLOCK_SUBMITTED, .zero, .zero], Reth.EMPTY_OMMER_ROOT_HASH.toVec⟩⟩]

/-- A chain of one block with some submissions. -/
def chainOf (txs : List TransactionSigned) : Chain :=
  .new [{ (default : RecoveredBlock) with body := ⟨txs, [], none⟩ }]
    { (default : Reth.ExecutionOutcome) with receipts := [txs.map fun _ => submissionReceipt] }
    default

/-- The chain that submits block `0`. -/
def firstSubmission : Chain := chainOf [submission (.ofU64 CHAIN_ID) 0]

end ExEx.Rollup
