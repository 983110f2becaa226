import ExEx.Lib.SortedMap
import ExEx.Reth.Primitives

/-!
# Transactions, blocks and receipts

The records of the node that the programs read: signed transactions of the five
kinds, headers, recovered blocks (a block with the senders of its transactions)
and receipts with their logs.
-/

namespace ExEx.Reth

/-! ## Transactions -/

/-- An ECDSA signature, with the parity of its point. -/
structure Signature where
  r : U256
  s : U256
  yParity : Bool
  deriving DecidableEq

/-- Whether a transaction creates a contract or calls an address. -/
inductive TxKind
  | create
  | call (address : Address)
  deriving DecidableEq

/-- An entry of an access list. -/
structure AccessListItem where
  address : Address
  storageKeys : List B256
  deriving DecidableEq

/-- An EIP-7702 authorization. -/
structure Authorization where
  chainId : U256
  address : Address
  nonce : UInt64
  deriving DecidableEq

/-- An EIP-7702 authorization with its signature, whose parity is any byte. -/
structure SignedAuthorization where
  inner : Authorization
  yParity : UInt8
  r : U256
  s : U256
  deriving DecidableEq

structure TxLegacy where
  chainId : Option UInt64
  nonce : UInt64
  gasPrice : U128
  gasLimit : UInt64
  «to» : TxKind
  value : U256
  input : Bytes
  deriving DecidableEq

structure TxEip2930 where
  chainId : UInt64
  nonce : UInt64
  gasPrice : U128
  gasLimit : UInt64
  «to» : TxKind
  value : U256
  accessList : List AccessListItem
  input : Bytes
  deriving DecidableEq

structure TxEip1559 where
  chainId : UInt64
  nonce : UInt64
  gasLimit : UInt64
  maxFeePerGas : U128
  maxPriorityFeePerGas : U128
  «to» : TxKind
  value : U256
  accessList : List AccessListItem
  input : Bytes
  deriving DecidableEq

structure TxEip4844 where
  chainId : UInt64
  nonce : UInt64
  gasLimit : UInt64
  maxFeePerGas : U128
  maxPriorityFeePerGas : U128
  «to» : Address
  value : U256
  accessList : List AccessListItem
  blobVersionedHashes : List B256
  maxFeePerBlobGas : U128
  input : Bytes
  deriving DecidableEq

structure TxEip7702 where
  chainId : UInt64
  nonce : UInt64
  gasLimit : UInt64
  maxFeePerGas : U128
  maxPriorityFeePerGas : U128
  «to» : Address
  value : U256
  accessList : List AccessListItem
  authorizationList : List SignedAuthorization
  input : Bytes
  deriving DecidableEq

/-- A transaction of one of the five kinds. -/
inductive Transaction
  | legacy (tx : TxLegacy)
  | eip2930 (tx : TxEip2930)
  | eip1559 (tx : TxEip1559)
  | eip4844 (tx : TxEip4844)
  | eip7702 (tx : TxEip7702)
  deriving DecidableEq

/-- The kind of a transaction. -/
inductive TxType
  | legacy
  | eip2930
  | eip1559
  | eip4844
  | eip7702
  deriving DecidableEq

/-- A signed transaction, with the hash it carries. -/
structure TransactionSigned where
  transaction : Transaction
  signature : Signature
  hash : B256
  deriving DecidableEq

namespace TransactionSigned

variable (tx : TransactionSigned)

def txType : TxType :=
  match tx.transaction with
  | .legacy _ => .legacy
  | .eip2930 _ => .eip2930
  | .eip1559 _ => .eip1559
  | .eip4844 _ => .eip4844
  | .eip7702 _ => .eip7702

def input : Bytes :=
  match tx.transaction with
  | .legacy t => t.input
  | .eip2930 t => t.input
  | .eip1559 t => t.input
  | .eip4844 t => t.input
  | .eip7702 t => t.input

def chainId : Option UInt64 :=
  match tx.transaction with
  | .legacy t => t.chainId
  | .eip2930 t => some t.chainId
  | .eip1559 t => some t.chainId
  | .eip4844 t => some t.chainId
  | .eip7702 t => some t.chainId

def gasLimit : UInt64 :=
  match tx.transaction with
  | .legacy t => t.gasLimit
  | .eip2930 t => t.gasLimit
  | .eip1559 t => t.gasLimit
  | .eip4844 t => t.gasLimit
  | .eip7702 t => t.gasLimit

end TransactionSigned

/-! ## Blocks -/

/-- A block header. -/
structure Header where
  parentHash : B256
  ommersHash : B256
  beneficiary : Address
  stateRoot : B256
  transactionsRoot : B256
  receiptsRoot : B256
  withdrawalsRoot : Option B256
  logsBloom : Bloom
  difficulty : U256
  number : UInt64
  gasLimit : UInt64
  gasUsed : UInt64
  timestamp : UInt64
  mixHash : B256
  nonce : B64
  baseFeePerGas : Option UInt64
  blobGasUsed : Option UInt64
  excessBlobGas : Option UInt64
  parentBeaconBlockRoot : Option B256
  requestsHash : Option B256
  extraData : Bytes
  deriving DecidableEq

/-- The hash of the list of no ommers. -/
def EMPTY_OMMER_ROOT_HASH : B256 :=
  ⟨[0x1d, 0xcc, 0x4d, 0xe8, 0xde, 0xc7, 0x5d, 0x7a, 0xab, 0x85, 0xb5, 0x67, 0xb6, 0xcc, 0xd4, 0x1a,
    0xd3, 0x12, 0x45, 0x1b, 0x94, 0x8a, 0x74, 0x13, 0xf0, 0xa1, 0x42, 0xfd, 0x40, 0xd4, 0x93, 0x47],
    rfl⟩

/-- The root of the empty trie. -/
def EMPTY_ROOT_HASH : B256 :=
  ⟨[0x56, 0xe8, 0x1f, 0x17, 0x1b, 0xcc, 0x55, 0xa6, 0xff, 0x83, 0x45, 0xe6, 0x92, 0xc0, 0xf8, 0x6e,
    0x5b, 0x48, 0xe0, 0x1b, 0x99, 0x6c, 0xad, 0xc0, 0x01, 0x62, 0x2f, 0xb5, 0xe3, 0x63, 0xb4, 0x21],
    rfl⟩

/-- The default header. -/
instance : Inhabited Header where
  default :=
    { parentHash := .zero
      ommersHash := EMPTY_OMMER_ROOT_HASH
      beneficiary := .zero
      stateRoot := EMPTY_ROOT_HASH
      transactionsRoot := EMPTY_ROOT_HASH
      receiptsRoot := EMPTY_ROOT_HASH
      withdrawalsRoot := none
      logsBloom := .zero
      difficulty := 0
      number := 0
      gasLimit := 0
      gasUsed := 0
      timestamp := 0
      mixHash := .zero
      nonce := .zero
      baseFeePerGas := none
      blobGasUsed := none
      excessBlobGas := none
      parentBeaconBlockRoot := none
      requestsHash := none
      extraData := [] }

/-- A withdrawal of the consensus layer. -/
structure Withdrawal where
  index : UInt64
  validatorIndex : UInt64
  address : Address
  amount : UInt64
  deriving DecidableEq

structure BlockBody where
  transactions : List TransactionSigned
  ommers : List Header
  withdrawals : Option (List Withdrawal)
  deriving DecidableEq, Inhabited

/-- A block with the hash it carries and the senders of its transactions. -/
structure RecoveredBlock where
  hash : B256
  header : Header
  body : BlockBody
  senders : List Address
  deriving DecidableEq, Inhabited

/-- The number of a block. -/
abbrev RecoveredBlock.number (block : RecoveredBlock) : UInt64 := block.header.number

/-! ## Receipts -/

structure LogData where
  topics : List B256
  data : Bytes
  deriving DecidableEq

structure Log where
  address : Address
  data : LogData
  deriving DecidableEq

structure Receipt where
  txType : TxType
  success : Bool
  cumulativeGasUsed : UInt64
  logs : List Log
  deriving DecidableEq

end ExEx.Reth
