import ExEx.Lib.Codec
import ExEx.Reth.Chain
import ExEx.Remote.Proto

/-!
# Encoding notifications

The conversions from the records of the node to the messages of the schema.
Byte strings of fixed length become their bytes, and words their bytes, least
significant first. Withdrawals, the hash of requests, requests, trie data and
account ids have no place in the schema and are left out.
-/

namespace ExEx.Remote

/-- Why a conversion fails. -/
inductive Error
  /-- An error with a fixed text. -/
  | eyre (message : String)
  /-- "could not convert slice to array" -/
  | tryFromSlice
  /-- "invalid parity: _" -/
  | invalidParity (parity : UInt64)
  /-- "unknown enumeration value _" -/
  | unknownEnumValue (n : Int32)
  /-- The conversion panics. -/
  | panic
  deriving DecidableEq

/-- The value of an option that must have one. -/
def unwrap {α : Type} : Option α → Except Error α
  | some a => .ok a
  | none => .error .panic

@[simp] theorem unwrap_some {α : Type} (a : α) : unwrap (some a) = .ok a := rfl

namespace Proto

/-! ## Blocks and transactions -/

def Header.ofHeader (header : Reth.Header) : Header where
  parentHash := header.parentHash.toVec
  ommersHash := header.ommersHash.toVec
  beneficiary := header.beneficiary.toVec
  stateRoot := header.stateRoot.toVec
  transactionsRoot := header.transactionsRoot.toVec
  receiptsRoot := header.receiptsRoot.toVec
  withdrawalsRoot := header.withdrawalsRoot.map FixedBytes.toVec
  logsBloom := header.logsBloom.toVec
  difficulty := Word.toLeBytesVec 32 header.difficulty
  number := header.number
  gasLimit := header.gasLimit
  gasUsed := header.gasUsed
  timestamp := header.timestamp
  mixHash := header.mixHash.toVec
  nonce := header.nonce.toVec
  baseFeePerGas := header.baseFeePerGas
  blobGasUsed := header.blobGasUsed
  excessBlobGas := header.excessBlobGas
  parentBeaconBlockRoot := header.parentBeaconBlockRoot.map FixedBytes.toVec
  extraData := header.extraData

def TxKind.ofTxKind (kind : Reth.TxKind) : TxKind where
  kind :=
    match kind with
    | .create => some .create
    | .call address => some (.call address.toVec)

def AccessListItem.ofAccessListItem (item : Reth.AccessListItem) : AccessListItem where
  address := item.address.toVec
  storageKeys := item.storageKeys.map FixedBytes.toVec

def AuthorizationListItem.ofSignedAuthorization (authorization : Reth.SignedAuthorization) :
    AuthorizationListItem where
  authorization := some
    { chainId := Word.toLeBytesVec 32 authorization.inner.chainId
      address := authorization.inner.address.toVec
      nonce := authorization.inner.nonce }
  signature := some
    { r := Word.toLeBytesVec 32 authorization.r
      s := Word.toLeBytesVec 32 authorization.s
      yParity := authorization.yParity.toUInt32 }

def Signature.ofSignature (signature : Reth.Signature) : Signature where
  r := Word.toLeBytesVec 32 signature.r
  s := Word.toLeBytesVec 32 signature.s
  yParity := signature.yParity.toUInt8.toUInt32

/-- The eight bytes of a `u64`, least significant first. -/
def u64ToLeBytes (n : UInt64) : Bytes := Word.toLeBytesVec 8 n.toBitVec

def Transaction.Kind.ofTransaction : Reth.Transaction → Transaction.Kind
  | .legacy tx => .legacy
    { chainId := tx.chainId
      nonce := tx.nonce
      gasPrice := Word.toLeBytesVec 16 tx.gasPrice
      gasLimit := u64ToLeBytes tx.gasLimit
      «to» := some (.ofTxKind tx.to)
      value := Word.toLeBytesVec 32 tx.value
      input := tx.input }
  | .eip2930 tx => .eip2930
    { chainId := tx.chainId
      nonce := tx.nonce
      gasPrice := Word.toLeBytesVec 16 tx.gasPrice
      gasLimit := u64ToLeBytes tx.gasLimit
      «to» := some (.ofTxKind tx.to)
      value := Word.toLeBytesVec 32 tx.value
      accessList := tx.accessList.map .ofAccessListItem
      input := tx.input }
  | .eip1559 tx => .eip1559
    { chainId := tx.chainId
      nonce := tx.nonce
      gasLimit := u64ToLeBytes tx.gasLimit
      maxFeePerGas := Word.toLeBytesVec 16 tx.maxFeePerGas
      maxPriorityFeePerGas := Word.toLeBytesVec 16 tx.maxPriorityFeePerGas
      «to» := some (.ofTxKind tx.to)
      value := Word.toLeBytesVec 32 tx.value
      accessList := tx.accessList.map .ofAccessListItem
      input := tx.input }
  | .eip4844 tx => .eip4844
    { chainId := tx.chainId
      nonce := tx.nonce
      gasLimit := u64ToLeBytes tx.gasLimit
      maxFeePerGas := Word.toLeBytesVec 16 tx.maxFeePerGas
      maxPriorityFeePerGas := Word.toLeBytesVec 16 tx.maxPriorityFeePerGas
      «to» := tx.to.toVec
      value := Word.toLeBytesVec 32 tx.value
      accessList := tx.accessList.map .ofAccessListItem
      blobVersionedHashes := tx.blobVersionedHashes.map FixedBytes.toVec
      maxFeePerBlobGas := Word.toLeBytesVec 16 tx.maxFeePerBlobGas
      input := tx.input }
  | .eip7702 tx => .eip7702
    { chainId := tx.chainId
      nonce := tx.nonce
      gasLimit := u64ToLeBytes tx.gasLimit
      maxFeePerGas := Word.toLeBytesVec 16 tx.maxFeePerGas
      maxPriorityFeePerGas := Word.toLeBytesVec 16 tx.maxPriorityFeePerGas
      «to» := tx.to.toVec
      value := Word.toLeBytesVec 32 tx.value
      accessList := tx.accessList.map .ofAccessListItem
      authorizationList := tx.authorizationList.map .ofSignedAuthorization
      input := tx.input }

def Transaction.tryFrom (transaction : Reth.TransactionSigned) : Except Error Transaction :=
  .ok
    { hash := transaction.hash.toVec
      signature := some (.ofSignature transaction.signature)
      transaction := some (.ofTransaction transaction.transaction) }

def Block.tryFrom (block : Reth.RecoveredBlock) : Except Error Block := do
  let body ← block.body.transactions.mapM Transaction.tryFrom
  .ok
    { header := some { hash := block.hash.toVec, header := some (.ofHeader block.header) }
      body := body
      ommers := block.body.ommers.map .ofHeader
      senders := block.senders.map FixedBytes.toVec }

/-! ## Bundle state -/

def Bytecode.tryFrom (bytecode : Reth.Bytecode) : Except Error Bytecode :=
  match bytecode.kind with
  | .legacyAnalyzed => do
    let jumpTable ← unwrap bytecode.legacyJumpTable
    .ok ⟨some (.legacyAnalyzed
      { bytecode := bytecode.bytecode
        originalLen := UInt64.ofNat bytecode.originalBytes.length
        jumpTable := jumpTable.table
        jumpTableLen := jumpTable.len })⟩
  | .eip7702 => do
    let raw := bytecode.originalBytes
    let delegatedAddress ← unwrap bytecode.eip7702Address
    let version ← unwrap raw[2]?
    .ok ⟨some (.eip7702
      { delegatedAddress := delegatedAddress.toVec
        version := version.toUInt64
        raw := raw })⟩

def AccountStatus.ofStatus : Reth.AccountStatus → AccountStatus
  | .loadedNotExisting => .loadedNotExisting
  | .loaded => .loaded
  | .loadedEmptyEIP161 => .loadedEmptyEip161
  | .inMemoryChange => .inMemoryChange
  | .changed => .changed
  | .destroyed => .destroyed
  | .destroyedChanged => .destroyedChanged
  | .destroyedAgain => .destroyedAgain

def AccountInfo.tryFrom (accountInfo : Reth.AccountInfo) : Except Error AccountInfo := do
  let code ← accountInfo.code.mapM Bytecode.tryFrom
  .ok
    { balance := Word.toLeBytesVec 32 accountInfo.balance
      nonce := accountInfo.nonce
      codeHash := accountInfo.codeHash.toVec
      code := code }

def StorageSlot.ofEntry (e : U256 × Reth.StorageSlot) : StorageSlot where
  key := Word.toLeBytesVec 32 e.1
  previousOrOriginalValue := Word.toLeBytesVec 32 e.2.previousOrOriginalValue
  presentValue := Word.toLeBytesVec 32 e.2.presentValue

def BundleAccount.tryFrom (e : Address × Reth.BundleAccount) : Except Error BundleAccount := do
  let info ← e.2.info.mapM AccountInfo.tryFrom
  let originalInfo ← e.2.originalInfo.mapM AccountInfo.tryFrom
  .ok
    { address := e.1.toVec
      info := info
      originalInfo := originalInfo
      storage := e.2.storage.entries.map .ofEntry
      status := (AccountStatus.ofStatus e.2.status).toInt32 }

def ContractBytecode.tryFrom (e : B256 × Reth.Bytecode) : Except Error ContractBytecode := do
  let bytecode ← Bytecode.tryFrom e.2
  .ok { hash := e.1.toVec, bytecode := some bytecode }

def AccountInfoRevert.Revert.tryFrom :
    Reth.AccountInfoRevert → Except Error AccountInfoRevert.Revert
  | .doNothing => .ok .doNothing
  | .deleteIt => .ok .deleteIt
  | .revertTo accountInfo => do
    let accountInfo ← AccountInfo.tryFrom accountInfo
    .ok (.revertTo accountInfo)

def RevertToSlot.tryFrom (e : U256 × Reth.RevertToSlot) : Except Error RevertToSlot :=
  .ok
    { key := Word.toLeBytesVec 32 e.1
      revert := some <|
        match e.2 with
        | .some value => .some (Word.toLeBytesVec 32 value)
        | .destroyed => .destroyed }

def Revert.tryFrom (e : Address × Reth.AccountRevert) : Except Error Revert := do
  let account ← AccountInfoRevert.Revert.tryFrom e.2.account
  let storage ← e.2.storage.entries.mapM RevertToSlot.tryFrom
  .ok
    { address := e.1.toVec
      account := some ⟨some account⟩
      storage := storage
      previousStatus := (AccountStatus.ofStatus e.2.previousStatus).toInt32
      wipeStorage := e.2.wipeStorage }

def BlockReverts.tryFrom (blockReverts : List (Address × Reth.AccountRevert)) :
    Except Error BlockReverts := do
  let reverts ← blockReverts.mapM Revert.tryFrom
  .ok ⟨reverts⟩

def BundleState.tryFrom (bundleState : Reth.BundleState) : Except Error BundleState := do
  let state ← bundleState.state.entries.mapM BundleAccount.tryFrom
  let contracts ← bundleState.contracts.entries.mapM ContractBytecode.tryFrom
  let reverts ← bundleState.reverts.mapM BlockReverts.tryFrom
  .ok
    { state := state
      contracts := contracts
      reverts := reverts
      stateSize := bundleState.stateSize
      revertsSize := bundleState.revertsSize }

/-! ## Receipts -/

def TxType.ofTxType : Reth.TxType → TxType
  | .legacy => .legacy
  | .eip2930 => .eip2930
  | .eip1559 => .eip1559
  | .eip4844 => .eip4844
  | .eip7702 => .eip7702

def Log.ofLog (log : Reth.Log) : Log where
  address := log.address.toVec
  data := some { topics := log.data.topics.map FixedBytes.toVec, data := log.data.data }

def NonEmptyReceipt.tryFrom (receipt : Reth.Receipt) : Except Error NonEmptyReceipt :=
  .ok
    { txType := (TxType.ofTxType receipt.txType).toInt32
      success := receipt.success
      cumulativeGasUsed := receipt.cumulativeGasUsed
      logs := receipt.logs.map .ofLog }

def Receipt.tryFrom (receipt : Reth.Receipt) : Except Error Receipt := do
  let receipt ← NonEmptyReceipt.tryFrom receipt
  .ok ⟨some (.nonEmpty receipt)⟩

def BlockReceipts.tryFrom (blockReceipts : List Reth.Receipt) : Except Error BlockReceipts := do
  let receipts ← blockReceipts.mapM Receipt.tryFrom
  .ok ⟨receipts⟩

/-! ## Notifications -/

def Chain.tryFrom (chain : Reth.Chain) : Except Error Chain := do
  let blocks ← chain.blocksIter.mapM Block.tryFrom
  let bundle ← BundleState.tryFrom chain.executionOutcome.bundle
  let receipts ← chain.executionOutcome.receipts.mapM BlockReceipts.tryFrom
  .ok
    { blocks := blocks
      executionOutcome := some
        { bundle := some bundle
          receipts := receipts
          firstBlock := chain.executionOutcome.firstBlock } }

def ExExNotification.tryFrom : Reth.ExExNotification → Except Error ExExNotification
  | .chainCommitted new => do
    let new ← Chain.tryFrom new
    .ok ⟨some (.chainCommitted (some new))⟩
  | .chainReorged old new => do
    let old ← Chain.tryFrom old
    let new ← Chain.tryFrom new
    .ok ⟨some (.chainReorged (some old) (some new))⟩
  | .chainReverted old => do
    let old ← Chain.tryFrom old
    .ok ⟨some (.chainReverted (some old))⟩

end Proto

end ExEx.Remote
