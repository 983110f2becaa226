import ExEx.Remote.Encode

/-!
# Decoding notifications

The conversions back from the messages of the schema. A byte field must have the
length of the byte string it stands for, a `u64` or a `u128` must have exactly
eight or sixteen bytes, and the value of a `U256` must fit, whatever its length.
What the schema leaves out is absent in the result.
-/

namespace ExEx.Remote

/-! ## Fields -/

section

variable {α : Type}

/-- The value of a field that must be there. -/
def okOrEyre (o : Option α) (message : String) : Except Error α :=
  match o with
  | some a => .ok a
  | none => .error (.eyre message)

@[simp] theorem okOrEyre_some (a : α) (message : String) : okOrEyre (some a) message = .ok a := rfl

theorem okOrEyre_eq_ok {o : Option α} {message : String} {a : α} :
    okOrEyre o message = .ok a ↔ o = some a := by
  rcases o with _ | b
  · exact ⟨nofun, nofun⟩
  · exact ⟨fun h => congrArg some (Except.ok.inj h), fun h => congrArg Except.ok (Option.some.inj h)⟩

end

/-- A byte string of fixed length. -/
def tryFromSlice (n : ℕ) (b : Bytes) : Except Error (FixedBytes n) :=
  match FixedBytes.tryFrom b with
  | some a => .ok a
  | none => .error .tryFromSlice

@[simp] theorem tryFromSlice_toVec {n : ℕ} (a : FixedBytes n) :
    tryFromSlice n a.toVec = .ok a := by
  rw [tryFromSlice, FixedBytes.tryFrom_toVec]

/-- A word, least significant byte first. -/
def u256TryFromLeSlice (b : Bytes) (message : String) : Except Error U256 :=
  okOrEyre (Word.tryFromLeSlice 256 b) message

@[simp] theorem u256TryFromLeSlice_toLeBytesVec (x : U256) (message : String) :
    u256TryFromLeSlice (Word.toLeBytesVec 32 x) message = .ok x := by
  rw [u256TryFromLeSlice, Word.tryFromLeSlice_toLeBytesVec (by decide) (by decide), okOrEyre_some]

/-- A `u128`, in exactly sixteen bytes. -/
def u128FromLeBytes (b : Bytes) : Except Error U128 :=
  match Word.fromLeBytes 128 16 b with
  | some x => .ok x
  | none => .error .tryFromSlice

@[simp] theorem u128FromLeBytes_toLeBytesVec (x : U128) :
    u128FromLeBytes (Word.toLeBytesVec 16 x) = .ok x := by
  rw [u128FromLeBytes, Word.fromLeBytes_toLeBytesVec (by decide)]

/-- A `u64`, in exactly eight bytes. -/
def u64FromLeBytes (b : Bytes) : Except Error UInt64 :=
  match Word.fromLeBytes 64 8 b with
  | some x => .ok ⟨x⟩
  | none => .error .tryFromSlice

@[simp] theorem u64FromLeBytes_u64ToLeBytes (n : UInt64) :
    u64FromLeBytes (Proto.u64ToLeBytes n) = .ok n := by
  rw [u64FromLeBytes, Proto.u64ToLeBytes, Word.fromLeBytes_toLeBytesVec (by decide)]

/-! ## Blocks and transactions -/

def Header.tryFrom (header : Proto.Header) : Except Error Reth.Header := do
  let parentHash ← tryFromSlice 32 header.parentHash
  let ommersHash ← tryFromSlice 32 header.ommersHash
  let beneficiary ← tryFromSlice 20 header.beneficiary
  let stateRoot ← tryFromSlice 32 header.stateRoot
  let transactionsRoot ← tryFromSlice 32 header.transactionsRoot
  let receiptsRoot ← tryFromSlice 32 header.receiptsRoot
  let withdrawalsRoot ← header.withdrawalsRoot.mapM (tryFromSlice 32)
  let logsBloom ← tryFromSlice 256 header.logsBloom
  let difficulty ← u256TryFromLeSlice header.difficulty "failed to parse difficulty"
  let mixHash ← tryFromSlice 32 header.mixHash
  let nonce ← tryFromSlice 8 header.nonce
  let parentBeaconBlockRoot ← header.parentBeaconBlockRoot.mapM (tryFromSlice 32)
  .ok
    { parentHash := parentHash
      ommersHash := ommersHash
      beneficiary := beneficiary
      stateRoot := stateRoot
      transactionsRoot := transactionsRoot
      receiptsRoot := receiptsRoot
      withdrawalsRoot := withdrawalsRoot
      logsBloom := logsBloom
      difficulty := difficulty
      number := header.number
      gasLimit := header.gasLimit
      gasUsed := header.gasUsed
      timestamp := header.timestamp
      mixHash := mixHash
      nonce := nonce
      baseFeePerGas := header.baseFeePerGas
      blobGasUsed := header.blobGasUsed
      excessBlobGas := header.excessBlobGas
      parentBeaconBlockRoot := parentBeaconBlockRoot
      requestsHash := none
      extraData := header.extraData }

def TxKind.tryFrom (txKind : Proto.TxKind) : Except Error Reth.TxKind := do
  match ← okOrEyre txKind.kind "no kind" with
  | .create => .ok .create
  | .call address =>
    let address ← tryFromSlice 20 address
    .ok (.call address)

def AccessListItem.tryFrom (item : Proto.AccessListItem) : Except Error Reth.AccessListItem := do
  let address ← tryFromSlice 20 item.address
  let storageKeys ← item.storageKeys.mapM (tryFromSlice 32)
  .ok ⟨address, storageKeys⟩

/-- An authorization. Of its parity, only the low byte is read. -/
def SignedAuthorization.tryFrom (authorization : Proto.AuthorizationListItem) :
    Except Error Reth.SignedAuthorization := do
  let signature ← okOrEyre authorization.signature "no signature"
  let r ← u256TryFromLeSlice signature.r "failed to parse r"
  let s ← u256TryFromLeSlice signature.s "failed to parse s"
  let yParity := signature.yParity.toUInt8
  let authorization ← okOrEyre authorization.authorization "no authorization"
  let chainId ← okOrEyre (Word.fromLeBytes 256 32 authorization.chainId)
    "chain_id must be exactly 8 bytes"
  let address ← tryFromSlice 20 authorization.address
  .ok ⟨⟨chainId, address, authorization.nonce⟩, yParity, r, s⟩

def Transaction.tryFrom : Proto.Transaction.Kind → Except Error Reth.Transaction
  | .legacy tx => do
    let gasPrice ← u128FromLeBytes tx.gasPrice
    let gasLimit ← u64FromLeBytes tx.gasLimit
    let kind ← okOrEyre tx.to "no to"
    let kind ← TxKind.tryFrom kind
    let value ← u256TryFromLeSlice tx.value "failed to parse value"
    .ok (.legacy
      { chainId := tx.chainId
        nonce := tx.nonce
        gasPrice := gasPrice
        gasLimit := gasLimit
        «to» := kind
        value := value
        input := tx.input })
  | .eip2930 tx => do
    let gasPrice ← u128FromLeBytes tx.gasPrice
    let gasLimit ← u64FromLeBytes tx.gasLimit
    let kind ← okOrEyre tx.to "no to"
    let kind ← TxKind.tryFrom kind
    let value ← u256TryFromLeSlice tx.value "failed to parse value"
    let accessList ← tx.accessList.mapM AccessListItem.tryFrom
    .ok (.eip2930
      { chainId := tx.chainId
        nonce := tx.nonce
        gasPrice := gasPrice
        gasLimit := gasLimit
        «to» := kind
        value := value
        accessList := accessList
        input := tx.input })
  | .eip1559 tx => do
    let gasLimit ← u64FromLeBytes tx.gasLimit
    let maxFeePerGas ← u128FromLeBytes tx.maxFeePerGas
    let maxPriorityFeePerGas ← u128FromLeBytes tx.maxPriorityFeePerGas
    let kind ← okOrEyre tx.to "no to"
    let kind ← TxKind.tryFrom kind
    let value ← u256TryFromLeSlice tx.value "failed to parse value"
    let accessList ← tx.accessList.mapM AccessListItem.tryFrom
    .ok (.eip1559
      { chainId := tx.chainId
        nonce := tx.nonce
        gasLimit := gasLimit
        maxFeePerGas := maxFeePerGas
        maxPriorityFeePerGas := maxPriorityFeePerGas
        «to» := kind
        value := value
        accessList := accessList
        input := tx.input })
  | .eip4844 tx => do
    let gasLimit ← u64FromLeBytes tx.gasLimit
    let maxFeePerGas ← u128FromLeBytes tx.maxFeePerGas
    let maxPriorityFeePerGas ← u128FromLeBytes tx.maxPriorityFeePerGas
    let address ← tryFromSlice 20 tx.to
    let value ← u256TryFromLeSlice tx.value "failed to parse value"
    let accessList ← tx.accessList.mapM AccessListItem.tryFrom
    let blobVersionedHashes ← tx.blobVersionedHashes.mapM (tryFromSlice 32)
    let maxFeePerBlobGas ← u128FromLeBytes tx.maxFeePerBlobGas
    .ok (.eip4844
      { chainId := tx.chainId
        nonce := tx.nonce
        gasLimit := gasLimit
        maxFeePerGas := maxFeePerGas
        maxPriorityFeePerGas := maxPriorityFeePerGas
        «to» := address
        value := value
        accessList := accessList
        blobVersionedHashes := blobVersionedHashes
        maxFeePerBlobGas := maxFeePerBlobGas
        input := tx.input })
  | .eip7702 tx => do
    let gasLimit ← u64FromLeBytes tx.gasLimit
    let maxFeePerGas ← u128FromLeBytes tx.maxFeePerGas
    let maxPriorityFeePerGas ← u128FromLeBytes tx.maxPriorityFeePerGas
    let address ← tryFromSlice 20 tx.to
    let value ← u256TryFromLeSlice tx.value "failed to parse value"
    let accessList ← tx.accessList.mapM AccessListItem.tryFrom
    let authorizationList ← tx.authorizationList.mapM SignedAuthorization.tryFrom
    .ok (.eip7702
      { chainId := tx.chainId
        nonce := tx.nonce
        gasLimit := gasLimit
        maxFeePerGas := maxFeePerGas
        maxPriorityFeePerGas := maxPriorityFeePerGas
        «to» := address
        value := value
        accessList := accessList
        authorizationList := authorizationList
        input := tx.input })

/-- A signature, whose parity must be `0` or `1`. -/
def Signature.tryFrom (signature : Proto.Signature) : Except Error Reth.Signature := do
  if 1 < signature.yParity then .error (.invalidParity signature.yParity.toUInt64)
  let r ← u256TryFromLeSlice signature.r "failed to parse r"
  let s ← u256TryFromLeSlice signature.s "failed to parse s"
  .ok ⟨r, s, signature.yParity = 1⟩

def TransactionSigned.tryFrom (transaction : Proto.Transaction) :
    Except Error Reth.TransactionSigned := do
  let hash ← tryFromSlice 32 transaction.hash
  let signature ← okOrEyre transaction.signature "no signature"
  let signature ← Signature.tryFrom signature
  let transaction ← okOrEyre transaction.transaction "no transaction"
  let transaction ← Transaction.tryFrom transaction
  .ok ⟨transaction, signature, hash⟩

def RecoveredBlock.tryFrom (block : Proto.Block) : Except Error Reth.RecoveredBlock := do
  let sealedHeader ← okOrEyre block.header "no sealed header"
  let header ← okOrEyre sealedHeader.header "no header"
  let header ← Header.tryFrom header
  let hash ← tryFromSlice 32 sealedHeader.hash
  let transactions ← block.body.mapM TransactionSigned.tryFrom
  let ommers ← block.ommers.mapM Header.tryFrom
  let senders ← block.senders.mapM (tryFromSlice 20)
  .ok
    { hash := hash
      header := header
      body := { transactions := transactions, ommers := ommers, withdrawals := none }
      senders := senders }

/-! ## Bundle state -/

/-- A bytecode. The version and the raw form of a delegation are not read. -/
def Bytecode.tryFrom (bytecode : Proto.Bytecode) : Except Error Reth.Bytecode := do
  match ← okOrEyre bytecode.bytecode "no bytecode" with
  | .legacyAnalyzed legacyAnalyzed =>
    let jumpTable ←
      unwrap (Reth.JumpTable.fromSlice legacyAnalyzed.jumpTable legacyAnalyzed.jumpTableLen)
    unwrap (Reth.Bytecode.newAnalyzed legacyAnalyzed.bytecode legacyAnalyzed.originalLen jumpTable)
  | .eip7702 eip7702 =>
    let delegatedAddress ← tryFromSlice 20 eip7702.delegatedAddress
    .ok (.newEip7702 delegatedAddress)

def AccountStatus.ofStatus : Proto.AccountStatus → Reth.AccountStatus
  | .loadedNotExisting => .loadedNotExisting
  | .loaded => .loaded
  | .loadedEmptyEip161 => .loadedEmptyEIP161
  | .inMemoryChange => .inMemoryChange
  | .changed => .changed
  | .destroyed => .destroyed
  | .destroyedChanged => .destroyedChanged
  | .destroyedAgain => .destroyedAgain

/-- The status of a number. -/
def AccountStatus.tryFrom (n : Int32) : Except Error Reth.AccountStatus :=
  match Proto.AccountStatus.ofInt32 n with
  | some status => .ok (AccountStatus.ofStatus status)
  | none => .error (.unknownEnumValue n)

def AccountInfo.tryFrom (accountInfo : Proto.AccountInfo) : Except Error Reth.AccountInfo := do
  let balance ← u256TryFromLeSlice accountInfo.balance "failed to parse balance"
  let codeHash ← tryFromSlice 32 accountInfo.codeHash
  let code ← accountInfo.code.mapM Bytecode.tryFrom
  .ok
    { balance := balance
      nonce := accountInfo.nonce
      codeHash := codeHash
      accountId := none
      code := code }

def StorageSlot.tryFrom (slot : Proto.StorageSlot) : Except Error (U256 × Reth.StorageSlot) := do
  let key ← u256TryFromLeSlice slot.key "failed to parse key"
  let previousOrOriginalValue ← u256TryFromLeSlice slot.previousOrOriginalValue
    "failed to parse previous or original value"
  let presentValue ← u256TryFromLeSlice slot.presentValue "failed to parse present value"
  .ok (key, ⟨previousOrOriginalValue, presentValue⟩)

def BundleAccount.tryFrom (account : Proto.BundleAccount) :
    Except Error (Address × Reth.BundleAccount) := do
  let address ← tryFromSlice 20 account.address
  let info ← account.info.mapM AccountInfo.tryFrom
  let originalInfo ← account.originalInfo.mapM AccountInfo.tryFrom
  let storage ← account.storage.mapM StorageSlot.tryFrom
  let status ← AccountStatus.tryFrom account.status
  .ok (address,
    { info := info
      originalInfo := originalInfo
      storage := .ofList storage
      status := status })

def ContractBytecode.tryFrom (contract : Proto.ContractBytecode) :
    Except Error (B256 × Reth.Bytecode) := do
  let hash ← tryFromSlice 32 contract.hash
  let bytecode ← okOrEyre contract.bytecode "no bytecode"
  let bytecode ← Bytecode.tryFrom bytecode
  .ok (hash, bytecode)

def AccountInfoRevert.tryFrom :
    Proto.AccountInfoRevert.Revert → Except Error Reth.AccountInfoRevert
  | .doNothing => .ok .doNothing
  | .deleteIt => .ok .deleteIt
  | .revertTo accountInfo => do
    let accountInfo ← AccountInfo.tryFrom accountInfo
    .ok (.revertTo accountInfo)

def RevertToSlot.tryFrom (slot : Proto.RevertToSlot) : Except Error (U256 × Reth.RevertToSlot) := do
  let key ← u256TryFromLeSlice slot.key "failed to parse slot key"
  match ← okOrEyre slot.revert "no slot revert" with
  | .some value =>
    let value ← u256TryFromLeSlice value "failed to parse slot revert"
    .ok (key, .some value)
  | .destroyed => .ok (key, .destroyed)

def AccountRevert.tryFrom (revert : Proto.Revert) :
    Except Error (Address × Reth.AccountRevert) := do
  let address ← tryFromSlice 20 revert.address
  let account ← okOrEyre revert.account "no revert account"
  let account ← okOrEyre account.revert "no revert account revert"
  let account ← AccountInfoRevert.tryFrom account
  let storage ← revert.storage.mapM RevertToSlot.tryFrom
  let previousStatus ← AccountStatus.tryFrom revert.previousStatus
  .ok (address,
    { account := account
      storage := .ofList storage
      previousStatus := previousStatus
      wipeStorage := revert.wipeStorage })

def BlockReverts.tryFrom (blockReverts : Proto.BlockReverts) :
    Except Error (List (Address × Reth.AccountRevert)) :=
  blockReverts.reverts.mapM AccountRevert.tryFrom

def BundleState.tryFrom (bundle : Proto.BundleState) : Except Error Reth.BundleState := do
  let state ← bundle.state.mapM BundleAccount.tryFrom
  let contracts ← bundle.contracts.mapM ContractBytecode.tryFrom
  let reverts ← bundle.reverts.mapM BlockReverts.tryFrom
  .ok
    { state := .ofList state
      contracts := .ofList contracts
      reverts := reverts
      stateSize := bundle.stateSize
      revertsSize := bundle.revertsSize }

/-! ## Receipts -/

def TxType.ofTxType : Proto.TxType → Reth.TxType
  | .legacy => .legacy
  | .eip2930 => .eip2930
  | .eip1559 => .eip1559
  | .eip4844 => .eip4844
  | .eip7702 => .eip7702

/-- The kind of transaction of a number. -/
def TxType.tryFrom (n : Int32) : Except Error Reth.TxType :=
  match Proto.TxType.ofInt32 n with
  | some txType => .ok (TxType.ofTxType txType)
  | none => .error (.unknownEnumValue n)

def Log.tryFrom (log : Proto.Log) : Except Error Reth.Log := do
  let data ← okOrEyre log.data "no log data"
  let address ← tryFromSlice 20 log.address
  let topics ← data.topics.mapM (tryFromSlice 32)
  .ok ⟨address, ⟨topics, data.data⟩⟩

def Receipt.tryFromNonEmpty (receipt : Proto.NonEmptyReceipt) : Except Error Reth.Receipt := do
  let txType ← TxType.tryFrom receipt.txType
  let logs ← receipt.logs.mapM Log.tryFrom
  .ok
    { txType := txType
      success := receipt.success
      cumulativeGasUsed := receipt.cumulativeGasUsed
      logs := logs }

def Receipt.tryFrom (receipt : Proto.Receipt) : Except Error Reth.Receipt := do
  match ← okOrEyre receipt.receipt "no receipt" with
  | .empty => .error (.eyre "empty")
  | .nonEmpty receipt => Receipt.tryFromNonEmpty receipt

def BlockReceipts.tryFrom (blockReceipts : Proto.BlockReceipts) :
    Except Error (List Reth.Receipt) :=
  blockReceipts.receipts.mapM Receipt.tryFrom

/-! ## Notifications -/

def Chain.tryFrom (chain : Proto.Chain) : Except Error Reth.Chain := do
  let executionOutcome ← okOrEyre chain.executionOutcome "no execution outcome"
  let bundle ← okOrEyre executionOutcome.bundle "no bundle"
  let blocks ← chain.blocks.mapM RecoveredBlock.tryFrom
  let bundle ← BundleState.tryFrom bundle
  let receipts ← executionOutcome.receipts.mapM BlockReceipts.tryFrom
  .ok (.new blocks
    { bundle := bundle
      receipts := receipts
      firstBlock := executionOutcome.firstBlock
      requests := [] }
    .empty)

def ExExNotification.tryFrom (notification : Proto.ExExNotification) :
    Except Error Reth.ExExNotification := do
  match ← okOrEyre notification.notification "no notification" with
  | .chainCommitted new =>
    let new ← okOrEyre new "no new chain"
    let new ← Chain.tryFrom new
    .ok (.chainCommitted new)
  | .chainReorged old new =>
    let old ← okOrEyre old "no old chain"
    let old ← Chain.tryFrom old
    let new ← okOrEyre new "no new chain"
    let new ← Chain.tryFrom new
    .ok (.chainReorged old new)
  | .chainReverted old =>
    let old ← okOrEyre old "no old chain"
    let old ← Chain.tryFrom old
    .ok (.chainReverted old)

end ExEx.Remote
