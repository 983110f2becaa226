import ExEx.Lib.Bytes

/-!
# The remote schema

The messages in which a node sends its notifications to remote extensions, as
generated from the schema. A submessage may be missing, a `oneof` may be unset,
an enumeration is any number, and byte fields have any length.
-/

namespace ExEx.Remote.Proto

/-! ## Transactions -/

inductive TxKind.Kind
  | create
  | call (address : Bytes)

structure TxKind where
  kind : Option TxKind.Kind

structure AccessListItem where
  address : Bytes
  storageKeys : List Bytes

structure Signature where
  r : Bytes
  s : Bytes
  yParity : UInt32

structure Authorization where
  chainId : Bytes
  address : Bytes
  nonce : UInt64

structure AuthorizationListItem where
  authorization : Option Authorization
  signature : Option Signature

structure TransactionLegacy where
  chainId : Option UInt64
  nonce : UInt64
  gasPrice : Bytes
  gasLimit : Bytes
  «to» : Option TxKind
  value : Bytes
  input : Bytes

structure TransactionEip2930 where
  chainId : UInt64
  nonce : UInt64
  gasPrice : Bytes
  gasLimit : Bytes
  «to» : Option TxKind
  value : Bytes
  accessList : List AccessListItem
  input : Bytes

structure TransactionEip1559 where
  chainId : UInt64
  nonce : UInt64
  gasLimit : Bytes
  maxFeePerGas : Bytes
  maxPriorityFeePerGas : Bytes
  «to» : Option TxKind
  value : Bytes
  accessList : List AccessListItem
  input : Bytes

structure TransactionEip4844 where
  chainId : UInt64
  nonce : UInt64
  gasLimit : Bytes
  maxFeePerGas : Bytes
  maxPriorityFeePerGas : Bytes
  «to» : Bytes
  value : Bytes
  accessList : List AccessListItem
  blobVersionedHashes : List Bytes
  maxFeePerBlobGas : Bytes
  input : Bytes

structure TransactionEip7702 where
  chainId : UInt64
  nonce : UInt64
  gasLimit : Bytes
  maxFeePerGas : Bytes
  maxPriorityFeePerGas : Bytes
  «to» : Bytes
  value : Bytes
  accessList : List AccessListItem
  authorizationList : List AuthorizationListItem
  input : Bytes

inductive Transaction.Kind
  | legacy (tx : TransactionLegacy)
  | eip2930 (tx : TransactionEip2930)
  | eip1559 (tx : TransactionEip1559)
  | eip4844 (tx : TransactionEip4844)
  | eip7702 (tx : TransactionEip7702)

structure Transaction where
  hash : Bytes
  signature : Option Signature
  transaction : Option Transaction.Kind

/-! ## Blocks -/

structure Header where
  parentHash : Bytes
  ommersHash : Bytes
  beneficiary : Bytes
  stateRoot : Bytes
  transactionsRoot : Bytes
  receiptsRoot : Bytes
  withdrawalsRoot : Option Bytes
  logsBloom : Bytes
  difficulty : Bytes
  number : UInt64
  gasLimit : UInt64
  gasUsed : UInt64
  timestamp : UInt64
  mixHash : Bytes
  nonce : Bytes
  baseFeePerGas : Option UInt64
  blobGasUsed : Option UInt64
  excessBlobGas : Option UInt64
  parentBeaconBlockRoot : Option Bytes
  extraData : Bytes

structure SealedHeader where
  hash : Bytes
  header : Option Header

structure Block where
  header : Option SealedHeader
  body : List Transaction
  ommers : List Header
  senders : List Bytes

/-! ## Bytecode -/

structure LegacyAnalyzedBytecode where
  bytecode : Bytes
  originalLen : UInt64
  jumpTable : Bytes
  jumpTableLen : UInt64

structure Eip7702Bytecode where
  delegatedAddress : Bytes
  version : UInt64
  raw : Bytes

inductive Bytecode.Kind
  | legacyAnalyzed (code : LegacyAnalyzedBytecode)
  | eip7702 (code : Eip7702Bytecode)

structure Bytecode where
  bytecode : Option Bytecode.Kind

/-! ## Bundle state -/

/-- The statuses with their numbers, in order. -/
inductive AccountStatus
  | loadedNotExisting
  | loaded
  | loadedEmptyEip161
  | inMemoryChange
  | changed
  | destroyed
  | destroyedChanged
  | destroyedAgain

/-- The number of a status. -/
def AccountStatus.toInt32 : AccountStatus → Int32
  | .loadedNotExisting => 0
  | .loaded => 1
  | .loadedEmptyEip161 => 2
  | .inMemoryChange => 3
  | .changed => 4
  | .destroyed => 5
  | .destroyedChanged => 6
  | .destroyedAgain => 7

/-- The status of a number, if it has one. -/
def AccountStatus.ofInt32 (n : Int32) : Option AccountStatus :=
  if n = 0 then some .loadedNotExisting
  else if n = 1 then some .loaded
  else if n = 2 then some .loadedEmptyEip161
  else if n = 3 then some .inMemoryChange
  else if n = 4 then some .changed
  else if n = 5 then some .destroyed
  else if n = 6 then some .destroyedChanged
  else if n = 7 then some .destroyedAgain
  else none

structure AccountInfo where
  balance : Bytes
  nonce : UInt64
  codeHash : Bytes
  code : Option Bytecode

structure StorageSlot where
  key : Bytes
  previousOrOriginalValue : Bytes
  presentValue : Bytes

structure BundleAccount where
  address : Bytes
  info : Option AccountInfo
  originalInfo : Option AccountInfo
  storage : List StorageSlot
  status : Int32

structure ContractBytecode where
  hash : Bytes
  bytecode : Option Bytecode

inductive AccountInfoRevert.Revert
  | doNothing
  | deleteIt
  | revertTo (info : AccountInfo)

structure AccountInfoRevert where
  revert : Option AccountInfoRevert.Revert

inductive RevertToSlot.Revert
  | some (value : Bytes)
  | destroyed

structure RevertToSlot where
  key : Bytes
  revert : Option RevertToSlot.Revert

structure Revert where
  address : Bytes
  account : Option AccountInfoRevert
  storage : List RevertToSlot
  previousStatus : Int32
  wipeStorage : Bool

structure BlockReverts where
  reverts : List Revert

structure BundleState where
  state : List BundleAccount
  contracts : List ContractBytecode
  reverts : List BlockReverts
  stateSize : UInt64
  revertsSize : UInt64

/-! ## Receipts -/

/-- The kinds of transactions with their numbers, in order. -/
inductive TxType
  | legacy
  | eip2930
  | eip1559
  | eip4844
  | eip7702

/-- The number of a kind. -/
def TxType.toInt32 : TxType → Int32
  | .legacy => 0
  | .eip2930 => 1
  | .eip1559 => 2
  | .eip4844 => 3
  | .eip7702 => 4

/-- The kind of a number, if it has one. -/
def TxType.ofInt32 (n : Int32) : Option TxType :=
  if n = 0 then some .legacy
  else if n = 1 then some .eip2930
  else if n = 2 then some .eip1559
  else if n = 3 then some .eip4844
  else if n = 4 then some .eip7702
  else none

structure LogData where
  topics : List Bytes
  data : Bytes

structure Log where
  address : Bytes
  data : Option LogData

structure NonEmptyReceipt where
  txType : Int32
  success : Bool
  cumulativeGasUsed : UInt64
  logs : List Log

inductive Receipt.Kind
  | empty
  | nonEmpty (receipt : NonEmptyReceipt)

structure Receipt where
  receipt : Option Receipt.Kind

structure BlockReceipts where
  receipts : List Receipt

/-! ## Notifications -/

structure ExecutionOutcome where
  bundle : Option BundleState
  receipts : List BlockReceipts
  firstBlock : UInt64

structure Chain where
  blocks : List Block
  executionOutcome : Option ExecutionOutcome

inductive ExExNotification.Notification
  | chainCommitted (new : Option Chain)
  | chainReorged (old new : Option Chain)
  | chainReverted (old : Option Chain)

structure ExExNotification where
  notification : Option ExExNotification.Notification

end ExEx.Remote.Proto
