import ExEx.Lib.Assoc
import ExEx.Reth.Block

/-!
# Chains and notifications

What the node hands to an extension: a chain of blocks with the outcome of
executing them (bundle state, receipts, requests), and the notification that a
chain was committed, reorged or reverted.

A bytecode is valid by construction. `JumpTable.fromSlice` and
`Bytecode.newAnalyzed` are the constructors that assert their preconditions:
they return `none` where the library panics.
-/

namespace ExEx.Reth

/-! ## Bytecode -/

/-- A jump table of `len` bits. -/
structure JumpTable where
  table : Bytes
  len : UInt64
  /-- The bits are all in the table. -/
  len_le : len.toNat ≤ 8 * table.length
  deriving DecidableEq

/-- The jump table of a slice; the slice must hold the bits. -/
def JumpTable.fromSlice (slice : Bytes) (len : UInt64) : Option JumpTable :=
  if h : len.toNat ≤ 8 * slice.length then some ⟨slice, len, h⟩ else none

/-- An analyzed legacy bytecode: the padded code, the length of the original
    code, and its jump table. -/
structure LegacyAnalyzed where
  bytecode : Bytes
  originalLen : UInt64
  jumpTable : JumpTable
  bytecode_ne_nil : bytecode ≠ []
  originalLen_le : originalLen.toNat ≤ bytecode.length
  originalLen_le_jumpTable : originalLen.toNat ≤ jumpTable.len.toNat
  deriving DecidableEq

inductive BytecodeKind
  | legacyAnalyzed
  | eip7702
  deriving DecidableEq

/-- A contract bytecode: legacy, or an EIP-7702 delegation to an address. -/
inductive Bytecode
  | legacyAnalyzed (code : LegacyAnalyzed)
  | eip7702 (delegatedAddress : Address)
  deriving DecidableEq

namespace Bytecode

def kind : Bytecode → BytecodeKind
  | .legacyAnalyzed _ => .legacyAnalyzed
  | .eip7702 _ => .eip7702

/-- The raw form of a delegation: the magic bytes, the version and the address. -/
def eip7702Raw (delegatedAddress : Address) : Bytes := 0xef :: 0x01 :: 0x00 :: delegatedAddress.toVec

/-- The bytes as executed, padding included. -/
def bytecode : Bytecode → Bytes
  | .legacyAnalyzed code => code.bytecode
  | .eip7702 a => eip7702Raw a

/-- The bytes as deployed, without padding. -/
def originalBytes : Bytecode → Bytes
  | .legacyAnalyzed code => code.bytecode.take code.originalLen.toNat
  | .eip7702 a => eip7702Raw a

def legacyJumpTable : Bytecode → Option JumpTable
  | .legacyAnalyzed code => some code.jumpTable
  | .eip7702 _ => none

def eip7702Address : Bytecode → Option Address
  | .legacyAnalyzed _ => none
  | .eip7702 a => some a

/-- The analyzed bytecode of its parts; they must fit together. -/
def newAnalyzed (bytecode : Bytes) (originalLen : UInt64) (jumpTable : JumpTable) :
    Option Bytecode :=
  if h : bytecode ≠ [] ∧ originalLen.toNat ≤ bytecode.length ∧
      originalLen.toNat ≤ jumpTable.len.toNat then
    some (.legacyAnalyzed ⟨bytecode, originalLen, jumpTable, h.1, h.2.1, h.2.2⟩)
  else none

def newEip7702 (address : Address) : Bytecode := .eip7702 address

end Bytecode

/-! ## Bundle state -/

structure AccountInfo where
  balance : U256
  nonce : UInt64
  codeHash : B256
  accountId : Option UInt64
  code : Option Bytecode
  deriving DecidableEq

structure StorageSlot where
  previousOrOriginalValue : U256
  presentValue : U256
  deriving DecidableEq

inductive AccountStatus
  | loadedNotExisting
  | loaded
  | loadedEmptyEIP161
  | inMemoryChange
  | changed
  | destroyed
  | destroyedChanged
  | destroyedAgain
  deriving DecidableEq

structure BundleAccount where
  info : Option AccountInfo
  originalInfo : Option AccountInfo
  storage : Assoc U256 StorageSlot
  status : AccountStatus
  deriving DecidableEq

/-- What a revert does to a slot. -/
inductive RevertToSlot
  | some (value : U256)
  | destroyed
  deriving DecidableEq

/-- What a revert does to the info of an account. -/
inductive AccountInfoRevert
  | doNothing
  | deleteIt
  | revertTo (info : AccountInfo)
  deriving DecidableEq

structure AccountRevert where
  account : AccountInfoRevert
  storage : Assoc U256 RevertToSlot
  previousStatus : AccountStatus
  wipeStorage : Bool
  deriving DecidableEq

/-- The accumulated state changes of some blocks, and the reverts of each block. -/
structure BundleState where
  state : Assoc Address BundleAccount
  contracts : Assoc B256 Bytecode
  reverts : List (List (Address × AccountRevert))
  stateSize : UInt64
  revertsSize : UInt64
  deriving DecidableEq, Inhabited

/-- The execution-layer requests of a block. -/
abbrev Requests := List Bytes

/-- The outcome of executing the blocks from `firstBlock` on. -/
structure ExecutionOutcome where
  bundle : BundleState
  receipts : List (List Receipt)
  firstBlock : UInt64
  requests : List Requests
  deriving DecidableEq, Inhabited

/-! ## Chains -/

/-- The trie updates a node may attach to a block. -/
abbrev TrieData := Bytes

/-- Blocks by number, with the outcome of executing them. -/
structure Chain where
  blocks : SortedMap UInt64 RecoveredBlock
  executionOutcome : ExecutionOutcome
  trieData : SortedMap UInt64 TrieData
  deriving DecidableEq, Inhabited

namespace Chain

/-- The chain of some blocks, keyed by their numbers. -/
def new (blocks : List RecoveredBlock) (executionOutcome : ExecutionOutcome)
    (trieData : SortedMap UInt64 TrieData) : Chain where
  blocks := .ofList (blocks.map fun block => (block.number, block))
  executionOutcome := executionOutcome
  trieData := trieData

/-- The blocks, by increasing number. -/
def blocksIter (chain : Chain) : List RecoveredBlock := chain.blocks.values

/-- The first block. -/
def first (chain : Chain) : Option RecoveredBlock := chain.blocksIter.head?

/-- The last block. -/
def tip (chain : Chain) : Option RecoveredBlock := chain.blocksIter.getLast?

/-- The numbers of the first block and of the last. -/
def range (chain : Chain) : Option (UInt64 × UInt64) := do
  let first ← chain.first
  let tip ← chain.tip
  some (first.number, tip.number)

/-- The blocks with their receipts. -/
def blocksAndReceipts (chain : Chain) : List (RecoveredBlock × List Receipt) :=
  chain.blocksIter.zip chain.executionOutcome.receipts

section

variable {chain : Chain}

theorem first_eq_none_iff : chain.first = none ↔ chain.blocksIter = [] := List.head?_eq_none_iff

theorem tip_eq_none_iff : chain.tip = none ↔ chain.blocksIter = [] := List.getLast?_eq_none_iff

theorem range_eq_none_iff : chain.range = none ↔ chain.blocksIter = [] := by
  rw [range, first, tip]
  rcases chain.blocksIter with _ | ⟨block, blocks⟩
  · exact iff_of_true rfl rfl
  · simp [List.getLast?_cons]

/-- A chain with blocks has a range. -/
theorem exists_range (h : chain.blocksIter ≠ []) : ∃ range, chain.range = some range :=
  Option.ne_none_iff_exists'.1 fun hrange => h (range_eq_none_iff.1 hrange)

end

end Chain

/-- A chain was committed, reorged or reverted. -/
inductive ExExNotification
  | chainCommitted (new : Chain)
  | chainReorged (old new : Chain)
  | chainReverted (old : Chain)
  deriving DecidableEq

namespace ExExNotification

/-- The chain a notification takes away, if any. -/
def revertedChain : ExExNotification → Option Chain
  | .chainCommitted _ => none
  | .chainReorged old _ => some old
  | .chainReverted old => some old

/-- The chain a notification brings, if any. -/
def committedChain : ExExNotification → Option Chain
  | .chainCommitted new => some new
  | .chainReorged _ new => some new
  | .chainReverted _ => none

/-- The ranges of the chains of a notification, as an extension logs them. -/
def ranges : ExExNotification → Option (List (UInt64 × UInt64))
  | .chainCommitted new => do
    let range ← new.range
    some [range]
  | .chainReorged old new => do
    let fromChain ← old.range
    let toChain ← new.range
    some [fromChain, toChain]
  | .chainReverted old => do
    let range ← old.range
    some [range]

/-- A chain of the notification has no blocks. -/
def Blockless : ExExNotification → Prop
  | .chainCommitted new => new.blocksIter = []
  | .chainReorged old new => old.blocksIter = [] ∨ new.blocksIter = []
  | .chainReverted old => old.blocksIter = []

theorem blockless_of_committedChain {notification : ExExNotification} {chain : Chain}
    (h : notification.committedChain = some chain) (hchain : chain.blocksIter = []) :
    notification.Blockless := by
  cases notification with
  | chainCommitted new => exact Option.some.inj h ▸ hchain
  | chainReorged old new => exact .inr (Option.some.inj h ▸ hchain)
  | chainReverted old => cases h

/-- Logging the ranges panics iff a chain has no blocks. -/
theorem ranges_eq_none_iff {notification : ExExNotification} :
    notification.ranges = none ↔ notification.Blockless := by
  cases notification with
  | chainCommitted new =>
    rw [Blockless, ← Chain.range_eq_none_iff]
    rcases hnew : new.range with _ | range <;> simp [ranges, hnew]
  | chainReorged old new =>
    rw [Blockless, ← Chain.range_eq_none_iff, ← Chain.range_eq_none_iff]
    rcases hold : old.range with _ | fromChain <;> rcases hnew : new.range with _ | toChain <;>
      simp [ranges, hold, hnew]
  | chainReverted old =>
    rw [Blockless, ← Chain.range_eq_none_iff]
    rcases hold : old.range with _ | range <;> simp [ranges, hold]

end ExExNotification

end ExEx.Reth
