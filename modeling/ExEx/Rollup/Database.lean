import ExEx.Lib.Assoc
import ExEx.Reth.Chain

/-!
# The rollup database

The tables of the rollup and the functions that read and write them.

A table with a `UNIQUE` constraint is an `Assoc` from the constrained columns to
the rest of the row. A column holding the text of an address, a hash, an account
or a block holds the value itself here, as it is always written with the inverse
of what reads it. Block numbers and words stay texts: numbers are written in
decimal, from a `u64` or from a `U256`, and it is their texts the tip query
orders.

Inside a transaction a function takes the tables and either fails or returns the
tables it leaves. A failed transaction is rolled back (`transaction`).
-/

namespace ExEx.Rollup

open Reth (RecoveredBlock RevertToSlot)

/-! ## Records -/

/-- An account, as far as its equality goes: code and ids are not compared. -/
structure AccountInfo where
  balance : U256
  nonce : UInt64
  codeHash : B256
  deriving DecidableEq

/-- The hash of no code. -/
def KECCAK_EMPTY : B256 :=
  ⟨[0xc5, 0xd2, 0x46, 0x01, 0x86, 0xf7, 0x23, 0x3c, 0x92, 0x7e, 0x7d, 0xb2, 0xdc, 0xc7, 0x03, 0xc0,
    0xe5, 0x00, 0xb6, 0x53, 0xca, 0x82, 0x27, 0x3b, 0x7b, 0xfa, 0xd8, 0x04, 0x5d, 0x85, 0xa4, 0x70],
    rfl⟩

/-- The empty account. -/
instance : Inhabited AccountInfo := ⟨{ balance := 0, nonce := 0, codeHash := KECCAK_EMPTY }⟩

/-- The storage an executed block writes to one account. -/
structure PlainStorageChangeset where
  address : Address
  wipeStorage : Bool
  storage : List (U256 × U256)

/-- The storage of one account before an executed block. -/
structure PlainStorageRevert where
  address : Address
  wiped : Bool
  storageRevert : List (U256 × RevertToSlot)

/-- What an executed block writes. -/
structure StateChangeset where
  accounts : List (Address × Option AccountInfo)
  storage : List PlainStorageChangeset
  contracts : List (B256 × Reth.Bytecode)

/-- What was there before, block by block. -/
structure PlainStateReverts where
  accounts : List (List (Address × Option AccountInfo))
  storage : List (List PlainStorageRevert)

/-- The changes of an executed block, as the plain state and reverts of its
    bundle (`to_plain_state_and_reverts`). -/
structure BundleState where
  changeset : StateChangeset
  reverts : PlainStateReverts

/-! ## Tables -/

structure Tables where
  /-- Blocks, by the text of their number. -/
  block : Assoc Text RecoveredBlock
  account : Assoc Address AccountInfo
  /-- Accounts before a block, by the text of its number and the address. -/
  accountRevert : Assoc (Text × Address) (Option AccountInfo)
  /-- Texts of slot values. -/
  storage : Assoc (Address × B256) Text
  /-- Texts of slot values before a block, or `destroyed`. -/
  storageRevert : Assoc (Text × Address × B256) Text
  bytecode : Assoc B256 Bytes

/-- The tables as created. -/
def Tables.empty : Tables := ⟨.empty, .empty, .empty, .empty, .empty, .empty⟩

/-- Why a call fails. -/
inductive Error
  /-- An insert meets a row with the same key. -/
  | uniqueConstraint
  /-- A query for one row finds none. -/
  | queryReturnedNoRows
  /-- A text is not a word. -/
  | parseWord (text : Text)
  /-- A word is not a `u64`. -/
  | tryFromWord (x : U256)
  /-- "Reverts can only be done from the tip. Attempted to revert block _ with
      tip block _". -/
  | notTip (blockNumber tip : U256)
  /-- A transaction asks for more gas than the block has left. -/
  | transactionGasLimitMoreThanAvailableBlockGas (transactionGasLimit blockAvailableGas : UInt64)
  /-- An error with a fixed text. -/
  | eyre (message : String)
  deriving DecidableEq

/-- Runs a call in a transaction, which is rolled back unless the call succeeds. -/
def transaction {σ : Type*} (call : σ → Except Error σ) (s : σ) : Except Error Unit × σ :=
  match call s with
  | .ok s' => (.ok (), s')
  | .error e => (.error e, s)

/-- The text of a destroyed slot. -/
def destroyedText : Text := ['d', 'e', 's', 't', 'r', 'o', 'y', 'e', 'd']

/-- The text of a number. -/
def numberText (n : UInt64) : Text := decimal n.toNat

/-- The word of a text. -/
def parseWord (t : Text) : Except Error U256 :=
  match U256.fromStr t with
  | some x => .ok x
  | none => .error (.parseWord t)

/-! ## Accounts and slots -/

/-- The account of an address. -/
def getAccount (t : Tables) (address : Address) : Option AccountInfo := t.account.lookup address

/-- Writes the account that `f` makes of the current one. -/
def upsertAccount (t : Tables) (address : Address)
    (f : Option AccountInfo → Except Error AccountInfo) : Except Error Tables := do
  let account ← f (getAccount t address)
  .ok { t with account := t.account.put address account }

def deleteAccount (t : Tables) (address : Address) : Tables :=
  { t with account := t.account.erase address }

def upsertStorage (t : Tables) (address : Address) (key : B256) (data : U256) : Tables :=
  { t with storage := t.storage.put (address, key) data.toText }

def deleteStorage (t : Tables) (address : Address) (key : B256) : Tables :=
  { t with storage := t.storage.erase (address, key) }

/-- All the slots stored for an address. -/
def getStorages (t : Tables) (address : Address) : Except Error (List (B256 × U256)) :=
  (t.storage.slice address).entries.mapM fun e => do
    let value ← parseWord e.2
    .ok (e.1, value)

/-- The slot of an address at a key, if stored. -/
def getStorage (t : Tables) (address : Address) (key : B256) : Except Error (Option U256) :=
  match t.storage.lookup (address, key) with
  | none => .ok none
  | some data => do
    let value ← parseWord data
    .ok (some value)

/-- The block of a number. -/
def getBlock (t : Tables) (number : U256) : Option RecoveredBlock := t.block.lookup number.toText

/-! ## Inserting a block -/

/-- Inserts the row of a block, whose number must be free. -/
def insertBlock (t : Tables) (block : RecoveredBlock) : Except Error Tables :=
  match t.block.insertNew (numberText block.number) block with
  | some rows => .ok { t with block := rows }
  | none => .error .uniqueConstraint

/-- Writes or deletes the changed accounts. -/
def writeAccounts (t : Tables) (accounts : List (Address × Option AccountInfo)) : Tables :=
  { t with account := t.account.setAll accounts }

/-- Writes the revert rows of the accounts. -/
def writeAccountReverts (t : Tables) (number : UInt64)
    (reverts : List (List (Address × Option AccountInfo))) : Except Error Tables :=
  if 1 < reverts.length then .error (.eyre "too many blocks in account reverts")
  else
    .ok { t with
      accountRevert :=
        t.accountRevert.putAll ((reverts.headD []).map fun e => ((numberText number, e.1), e.2)) }

/-- Writes the slots of one account, wiping its storage first if asked to. -/
def writeStorage (t : Tables) (c : PlainStorageChangeset) : Tables :=
  -- A wipe comes before the writes, so a slot written to a wiped account stays.
  let storage := if c.wipeStorage then t.storage.filter fun k => k.1 ≠ c.address else t.storage
  { t with
    storage := storage.putAll (c.storage.map fun e => ((c.address, B256.ofU256 e.1), e.2.toText)) }

/-- The text of what a revert does to a slot. -/
def revertText : RevertToSlot → Text
  | .some value => value.toText
  | .destroyed => destroyedText

/-- The slots found in the storage table, if the storage of the account was wiped. -/
def wipedStorage (t : Tables) (r : PlainStorageRevert) : Except Error (List (B256 × U256)) :=
  if r.wiped then getStorages t r.address else .ok []

/-- Writes the revert rows of the slots of one account: the listed ones, then
    those found. -/
def writeStorageRevert (number : UInt64) (t : Tables) (r : PlainStorageRevert) :
    Except Error Tables := do
  let storage := r.storageRevert.map fun e => (B256.ofU256 e.1, e.2)
  -- The storage table has the changes of the block already.
  let found ← wipedStorage t r
  let wipedStorage := found.map fun e => (e.1, RevertToSlot.some e.2)
  .ok { t with
    storageRevert := t.storageRevert.putAll
      ((storage ++ wipedStorage).map fun e => ((numberText number, r.address, e.1), revertText e.2)) }

/-- Writes the revert rows of the slots. -/
def writeStorageReverts (t : Tables) (number : UInt64) (reverts : List (List PlainStorageRevert)) :
    Except Error Tables :=
  if 1 < reverts.length then .error (.eyre "too many blocks in storage reverts")
  else (reverts.headD []).foldlM (writeStorageRevert number) t

/-- Writes the deployed bytecodes, keeping those already there. -/
def writeContracts (t : Tables) (contracts : List (B256 × Reth.Bytecode)) : Tables :=
  { t with bytecode := contracts.foldl (fun m e => m.putIfAbsent e.1 e.2.bytecode) t.bytecode }

/-- Inserts a block with the changes of its execution. -/
def insertBlockWithBundle (t : Tables) (block : RecoveredBlock) (bundle : BundleState) :
    Except Error Tables := do
  let t ← insertBlock t block
  let t := writeAccounts t bundle.changeset.accounts
  let t ← writeAccountReverts t block.number bundle.reverts.accounts
  let t := bundle.changeset.storage.foldl writeStorage t
  let t ← writeStorageReverts t block.number bundle.reverts.storage
  .ok (writeContracts t bundle.changeset.contracts)

/-! ## Reverting the tip -/

/-- The number of the tip: the last one in the order of texts. -/
def tipBlockNumber (t : Tables) : Except Error U256 :=
  match t.block.keys.max? with
  | none => .error .queryReturnedNoRows
  | some text => parseWord text

/-- Checks that a block is the tip. -/
def checkTip (t : Tables) (blockNumber : U256) : Except Error Unit := do
  let tip ← tipBlockNumber t
  if blockNumber ≠ tip then .error (.notTip blockNumber tip) else .ok ()

/-- What is known of an account while reverting: its old and its current info,
    and the old and current values of its slots. -/
structure AccountState where
  oldInfo : Option AccountInfo
  newInfo : Option AccountInfo
  storage : Assoc B256 (U256 × U256)

/-- The accounts and slots to revert. -/
abbrev BundleStateInit := Assoc Address AccountState

/-- Notes the old info of an account. -/
def noteAccount (t : Tables) (state : BundleStateInit) (e : Address × Option AccountInfo) :
    BundleStateInit :=
  match state.lookup e.1 with
  | none => state.put e.1 ⟨e.2, getAccount t e.1, .empty⟩
  -- Only the old info changes: the current one was read when the account came up.
  | some s => state.put e.1 { s with oldInfo := e.2 }

/-- The old value of a slot, of the text of its revert row. -/
def parseRevert (data : Text) : Except Error U256 :=
  if data = destroyedText then .ok 0 else parseWord data

/-- The old and the current value of a slot; an old value known already is overwritten. -/
def noteSlot (t : Tables) (storage : Assoc B256 (U256 × U256)) (address : Address) (key : B256)
    (oldData : U256) : Except Error (U256 × U256) :=
  match storage.lookup key with
  | none => do
    let newValue ← getStorage t address key
    .ok (oldData, newValue.getD 0)
  | some v => .ok (oldData, v.2)

/-- Notes the old value of a slot. -/
def noteStorage (t : Tables) (state : BundleStateInit) (e : (Address × B256) × U256) :
    Except Error BundleStateInit := do
  let accountState : AccountState :=
    match state.lookup e.1.1 with
    | none => ⟨getAccount t e.1.1, getAccount t e.1.1, .empty⟩
    | some s => s
  let slot ← noteSlot t accountState.storage e.1.1 e.1.2 e.2
  .ok (state.put e.1.1 { accountState with storage := accountState.storage.put e.1.2 slot })

/-- Restores a slot. -/
def restoreSlot (address : Address) (t : Tables) (e : B256 × U256 × U256) : Tables :=
  let t := deleteStorage t address e.1
  if e.2.1 ≠ 0 then upsertStorage t address e.1 e.2.1 else t

/-- Restores the info of an account, if it changed. -/
def restoreInfo (t : Tables) (address : Address) (s : AccountState) : Except Error Tables :=
  if s.oldInfo ≠ s.newInfo then
    match s.oldInfo with
    | some account => upsertAccount t address fun _ => .ok account
    | none => .ok (deleteAccount t address)
  else .ok t

/-- Restores an account and its slots. -/
def restoreAccount (t : Tables) (e : Address × AccountState) : Except Error Tables := do
  let t ← restoreInfo t e.1 e.2
  .ok (e.2.storage.entries.foldl (restoreSlot e.1) t)

/-- Reverts the tip block, which must have the given number. -/
def revertTipBlock (t : Tables) (blockNumber : U256) : Except Error Tables := do
  checkTip t blockNumber
  -- Only the block goes: the revert rows of its number stay.
  let t := { t with block := t.block.erase blockNumber.toText }
  let accountReverts := (t.accountRevert.slice blockNumber.toText).entries
  let state := accountReverts.foldl (noteAccount t) .empty
  let storageReverts ← (t.storageRevert.slice blockNumber.toText).entries.mapM fun e => do
    let data ← parseRevert e.2
    .ok (e.1, data)
  -- The last row first, as the rows of a slot are from old to new.
  let state ← storageReverts.reverse.foldlM (noteStorage t) state
  state.entries.foldlM restoreAccount t

end ExEx.Rollup
