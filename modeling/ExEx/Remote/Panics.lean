import ExEx.Lib.Except
import ExEx.Remote.Decode

/-!
# Messages that make the decoder panic

Two constructors that the decoders call assert what they are given: the jump table of
a slice, and an analyzed bytecode. The decoder of a bytecode gives them what the
message says. Nothing else in the decoders panics.

So decoding a notification panics iff it gets to a legacy bytecode that is not `Sound`
(`ne_panic_iff`). It does not get to one when something before it is refused.
-/

namespace ExEx.Remote

/-! ## Conversions that do not panic -/

/-- A conversion that does not panic. -/
def NoPanic {α : Type} (x : Except Error α) : Prop := x ≠ .error .panic

section

variable {α β : Type}

@[simp] theorem noPanic_ok (a : α) : NoPanic (.ok a : Except Error α) := nofun

@[simp] theorem noPanic_bind {x : Except Error α} {f : α → Except Error β} :
    NoPanic (x >>= f) ↔ NoPanic x ∧ ∀ a, x = .ok a → NoPanic (f a) :=
  bind_ne_error

@[simp] theorem noPanic_mapM {f : α → Except Error β} (hf : ∀ a, NoPanic (f a)) (l : List α) :
    NoPanic (l.mapM f) :=
  mapM_ne_error hf l

@[simp] theorem noPanic_optionMapM {f : α → Except Error β} (hf : ∀ a, NoPanic (f a))
    (o : Option α) : NoPanic (o.mapM f) :=
  optionMapM_ne_error hf o

@[simp] theorem noPanic_okOrEyre (o : Option α) (message : String) :
    NoPanic (okOrEyre o message) := by
  cases o <;> nofun

end

@[simp] theorem noPanic_tryFromSlice (n : ℕ) (b : Bytes) : NoPanic (tryFromSlice n b) := by
  rw [tryFromSlice]
  split
  · exact noPanic_ok _
  · exact fun h => by cases h

@[simp] theorem noPanic_u256TryFromLeSlice (b : Bytes) (message : String) :
    NoPanic (u256TryFromLeSlice b message) :=
  noPanic_okOrEyre _ _

@[simp] theorem noPanic_u128FromLeBytes (b : Bytes) : NoPanic (u128FromLeBytes b) := by
  rw [u128FromLeBytes]
  split
  · exact noPanic_ok _
  · exact fun h => by cases h

@[simp] theorem noPanic_u64FromLeBytes (b : Bytes) : NoPanic (u64FromLeBytes b) := by
  rw [u64FromLeBytes]
  split
  · exact noPanic_ok _
  · exact fun h => by cases h

/-! ### Blocks -/

@[simp] theorem Header.noPanic (header : Proto.Header) : NoPanic (Header.tryFrom header) := by
  simp [Header.tryFrom]

@[simp] theorem TxKind.noPanic (txKind : Proto.TxKind) : NoPanic (TxKind.tryFrom txKind) := by
  refine noPanic_bind.2 ⟨noPanic_okOrEyre _ _, fun kind _ => ?_⟩
  cases kind <;> simp

@[simp] theorem AccessListItem.noPanic (item : Proto.AccessListItem) :
    NoPanic (AccessListItem.tryFrom item) := by
  simp [AccessListItem.tryFrom]

@[simp] theorem SignedAuthorization.noPanic (authorization : Proto.AuthorizationListItem) :
    NoPanic (SignedAuthorization.tryFrom authorization) := by
  simp [SignedAuthorization.tryFrom]

@[simp] theorem Transaction.noPanic (transaction : Proto.Transaction.Kind) :
    NoPanic (Transaction.tryFrom transaction) := by
  cases transaction <;> simp [Transaction.tryFrom]

@[simp] theorem Signature.noPanic (signature : Proto.Signature) :
    NoPanic (Signature.tryFrom signature) := by
  rw [Signature.tryFrom]
  split_ifs
  · nofun
  · simp

@[simp] theorem TransactionSigned.noPanic (transaction : Proto.Transaction) :
    NoPanic (TransactionSigned.tryFrom transaction) := by
  simp [TransactionSigned.tryFrom]

@[simp] theorem RecoveredBlock.noPanic (block : Proto.Block) :
    NoPanic (RecoveredBlock.tryFrom block) := by
  simp [RecoveredBlock.tryFrom]

/-! ### Receipts -/

@[simp] theorem TxType.noPanic (n : Int32) : NoPanic (TxType.tryFrom n) := by
  rw [TxType.tryFrom]
  split <;> nofun

@[simp] theorem Log.noPanic (log : Proto.Log) : NoPanic (Log.tryFrom log) := by
  simp [Log.tryFrom]

@[simp] theorem Receipt.noPanic (receipt : Proto.Receipt) : NoPanic (Receipt.tryFrom receipt) := by
  refine noPanic_bind.2 ⟨noPanic_okOrEyre _ _, fun kind _ => ?_⟩
  cases kind
  · nofun
  · simp [Receipt.tryFromNonEmpty]

@[simp] theorem BlockReceipts.noPanic (blockReceipts : Proto.BlockReceipts) :
    NoPanic (BlockReceipts.tryFrom blockReceipts) :=
  noPanic_mapM Receipt.noPanic _

/-! ### Parts of the bundle state -/

@[simp] theorem AccountStatus.noPanic (n : Int32) : NoPanic (AccountStatus.tryFrom n) := by
  rw [AccountStatus.tryFrom]
  split <;> nofun

@[simp] theorem StorageSlot.noPanic (slot : Proto.StorageSlot) :
    NoPanic (StorageSlot.tryFrom slot) := by
  simp [StorageSlot.tryFrom]

@[simp] theorem RevertToSlot.noPanic (slot : Proto.RevertToSlot) :
    NoPanic (RevertToSlot.tryFrom slot) := by
  refine noPanic_bind.2 ⟨noPanic_u256TryFromLeSlice _ _, fun key _ => ?_⟩
  refine noPanic_bind.2 ⟨noPanic_okOrEyre _ _, fun revert _ => ?_⟩
  cases revert <;> simp

/-! ## Bytecodes the decoder gets to -/

/-- A legacy bytecode that meets what the constructors assert. -/
structure Sound (code : Proto.LegacyAnalyzedBytecode) : Prop where
  jumpTableLen_le : code.jumpTableLen.toNat ≤ 8 * code.jumpTable.length
  bytecode_ne_nil : code.bytecode ≠ []
  originalLen_le : code.originalLen.toNat ≤ code.bytecode.length
  originalLen_le_jumpTableLen : code.originalLen.toNat ≤ code.jumpTableLen.toNat

section

variable (P : Proto.LegacyAnalyzedBytecode → Prop)

/-- Decoding gets to a legacy bytecode with a property. -/
def Bytecode.GetsTo (bytecode : Proto.Bytecode) : Prop :=
  ∃ code, bytecode.bytecode = some (.legacyAnalyzed code) ∧ P code

def AccountInfo.GetsTo (info : Proto.AccountInfo) : Prop :=
  Succeeds (u256TryFromLeSlice info.balance "failed to parse balance") ∧
    Succeeds (tryFromSlice 32 info.codeHash) ∧
    ∃ code, info.code = some code ∧ Bytecode.GetsTo P code

def BundleAccount.GetsTo (account : Proto.BundleAccount) : Prop :=
  Succeeds (tryFromSlice 20 account.address) ∧
    ((∃ info, account.info = some info ∧ AccountInfo.GetsTo P info) ∨
      Succeeds (account.info.mapM AccountInfo.tryFrom) ∧
        ∃ info, account.originalInfo = some info ∧ AccountInfo.GetsTo P info)

def ContractBytecode.GetsTo (contract : Proto.ContractBytecode) : Prop :=
  Succeeds (tryFromSlice 32 contract.hash) ∧
    ∃ bytecode, contract.bytecode = some bytecode ∧ Bytecode.GetsTo P bytecode

def AccountRevert.GetsTo (revert : Proto.Revert) : Prop :=
  Succeeds (tryFromSlice 20 revert.address) ∧
    ∃ account, revert.account = some account ∧ ∃ kind, account.revert = some kind ∧
      ∃ info, kind = .revertTo info ∧ AccountInfo.GetsTo P info

def BlockReverts.GetsTo (blockReverts : Proto.BlockReverts) : Prop :=
  ExEx.GetsTo AccountRevert.tryFrom (AccountRevert.GetsTo P) blockReverts.reverts

def BundleState.GetsTo (bundle : Proto.BundleState) : Prop :=
  ExEx.GetsTo BundleAccount.tryFrom (BundleAccount.GetsTo P) bundle.state ∨
    Succeeds (bundle.state.mapM BundleAccount.tryFrom) ∧
      (ExEx.GetsTo ContractBytecode.tryFrom (ContractBytecode.GetsTo P) bundle.contracts ∨
        Succeeds (bundle.contracts.mapM ContractBytecode.tryFrom) ∧
          ExEx.GetsTo BlockReverts.tryFrom (BlockReverts.GetsTo P) bundle.reverts)

def Chain.GetsTo (chain : Proto.Chain) : Prop :=
  ∃ outcome, chain.executionOutcome = some outcome ∧ ∃ bundle, outcome.bundle = some bundle ∧
    Succeeds (chain.blocks.mapM RecoveredBlock.tryFrom) ∧ BundleState.GetsTo P bundle

def ExExNotification.GetsTo (notification : Proto.ExExNotification) : Prop :=
  match notification.notification with
  | none => False
  | some (.chainCommitted new) => ∃ chain, new = some chain ∧ Chain.GetsTo P chain
  | some (.chainReorged old new) => ∃ chain, old = some chain ∧
      (Chain.GetsTo P chain ∨
        Succeeds (Chain.tryFrom chain) ∧ ∃ chain, new = some chain ∧ Chain.GetsTo P chain)
  | some (.chainReverted old) => ∃ chain, old = some chain ∧ Chain.GetsTo P chain

end

/-! ## When the decoder panics -/

/-- A legacy bytecode that is not sound. -/
def Unsound (code : Proto.LegacyAnalyzedBytecode) : Prop := ¬Sound code

theorem unwrap_eq_panic {α : Type} {o : Option α} : unwrap o = .error .panic ↔ o = none := by
  rcases o with _ | a
  · exact ⟨fun _ => rfl, fun _ => rfl⟩
  · exact ⟨nofun, nofun⟩

/-- A field that must be there, and the rest. -/
theorem okOrEyre_bind_eq_panic {α β : Type} {o : Option α} {message : String}
    {f : α → Except Error β} {P : α → Prop} (hf : ∀ a, f a = .error .panic ↔ P a) :
    (okOrEyre o message >>= f) = .error .panic ↔ ∃ a, o = some a ∧ P a := by
  rcases o with _ | a
  · constructor
    · intro h
      cases h
    · rintro ⟨_, h, -⟩
      cases h
  · constructor
    · exact fun h => ⟨a, rfl, (hf a).1 h⟩
    · rintro ⟨_, h, hP⟩
      obtain rfl := Option.some.inj h
      exact (hf a).2 hP

/-- The constructors panic iff what they are given is not sound. -/
theorem newAnalyzed_eq_panic {code : Proto.LegacyAnalyzedBytecode} :
    (unwrap (Reth.JumpTable.fromSlice code.jumpTable code.jumpTableLen) >>= fun jumpTable =>
        unwrap (Reth.Bytecode.newAnalyzed code.bytecode code.originalLen jumpTable)) =
      .error .panic ↔ Unsound code := by
  rw [Unsound, Reth.JumpTable.fromSlice]
  split_ifs with htable
  · rw [unwrap_some, ok_bind, unwrap_eq_panic, Reth.Bytecode.newAnalyzed]
    split_ifs with hcode
    · exact ⟨nofun, fun h => absurd ⟨htable, hcode.1, hcode.2.1, hcode.2.2⟩ h⟩
    · refine ⟨fun _ h => hcode ?_, fun _ => rfl⟩
      exact ⟨h.bytecode_ne_nil, h.originalLen_le, h.originalLen_le_jumpTableLen⟩
  · exact ⟨fun _ h => htable h.jumpTableLen_le, fun _ => rfl⟩

theorem Bytecode.tryFrom_eq_panic {bytecode : Proto.Bytecode} :
    Bytecode.tryFrom bytecode = .error .panic ↔ Bytecode.GetsTo Unsound bytecode := by
  rw [Bytecode.tryFrom, Bytecode.GetsTo]
  rcases bytecode.bytecode with _ | code | code
  · constructor
    · intro h
      cases h
    · rintro ⟨_, h, -⟩
      cases h
  · rw [okOrEyre_some, ok_bind]
    refine newAnalyzed_eq_panic.trans ⟨fun h => ⟨code, rfl, h⟩, ?_⟩
    rintro ⟨_, h, hcode⟩
    cases h
    exact hcode
  · rw [okOrEyre_some, ok_bind]
    constructor
    · intro h
      have hnoPanic : NoPanic (do
          let delegatedAddress ← tryFromSlice 20 code.delegatedAddress
          .ok (Reth.Bytecode.newEip7702 delegatedAddress)) := by simp
      exact absurd h hnoPanic
    · rintro ⟨_, h, -⟩
      cases h

theorem AccountInfo.tryFrom_eq_panic {info : Proto.AccountInfo} :
    AccountInfo.tryFrom info = .error .panic ↔ AccountInfo.GetsTo Unsound info := by
  rw [AccountInfo.tryFrom, AccountInfo.GetsTo]
  refine bind_eq_error_right (noPanic_u256TryFromLeSlice _ _) fun balance => ?_
  refine bind_eq_error_right (noPanic_tryFromSlice _ _) fun codeHash => ?_
  refine (bind_eq_error_left fun code => noPanic_ok _).trans ?_
  rw [optionMapM_eq_error]
  exact exists_congr fun code => and_congr_right fun _ => Bytecode.tryFrom_eq_panic

/-- An account that may be there. -/
theorem AccountInfo.mapM_eq_panic {info : Option Proto.AccountInfo} :
    info.mapM AccountInfo.tryFrom = .error .panic ↔
      ∃ i, info = some i ∧ AccountInfo.GetsTo Unsound i := by
  rw [optionMapM_eq_error]
  exact exists_congr fun i => and_congr_right fun _ => AccountInfo.tryFrom_eq_panic

theorem BundleAccount.tryFrom_eq_panic {account : Proto.BundleAccount} :
    BundleAccount.tryFrom account = .error .panic ↔ BundleAccount.GetsTo Unsound account := by
  rw [BundleAccount.tryFrom, BundleAccount.GetsTo, ← AccountInfo.mapM_eq_panic,
    ← AccountInfo.mapM_eq_panic]
  refine bind_eq_error_right (noPanic_tryFromSlice _ _) fun address => ?_
  refine bind_eq_error fun info => ?_
  refine bind_eq_error_left fun originalInfo => ?_
  -- What comes after the two accounts does not panic.
  have hrest : ∀ a b, NoPanic (do
      let storage ← account.storage.mapM StorageSlot.tryFrom
      let status ← AccountStatus.tryFrom account.status
      .ok (address, (⟨a, b, .ofList storage, status⟩ : Reth.BundleAccount))) := by simp
  exact hrest info originalInfo

theorem ContractBytecode.tryFrom_eq_panic {contract : Proto.ContractBytecode} :
    ContractBytecode.tryFrom contract = .error .panic ↔ ContractBytecode.GetsTo Unsound contract := by
  rw [ContractBytecode.tryFrom, ContractBytecode.GetsTo]
  refine bind_eq_error_right (noPanic_tryFromSlice _ _) fun hash => ?_
  refine okOrEyre_bind_eq_panic fun bytecode => ?_
  refine (bind_eq_error_left fun code => noPanic_ok _).trans Bytecode.tryFrom_eq_panic

theorem AccountInfoRevert.tryFrom_eq_panic {kind : Proto.AccountInfoRevert.Revert} :
    AccountInfoRevert.tryFrom kind = .error .panic ↔
      ∃ info, kind = .revertTo info ∧ AccountInfo.GetsTo Unsound info := by
  rcases kind with _ | _ | info
  · exact ⟨nofun, fun ⟨_, h, _⟩ => by cases h⟩
  · exact ⟨nofun, fun ⟨_, h, _⟩ => by cases h⟩
  · refine (bind_eq_error_left fun info => noPanic_ok _).trans ?_
    rw [AccountInfo.tryFrom_eq_panic]
    constructor
    · exact fun h => ⟨info, rfl, h⟩
    · rintro ⟨_, h, hinfo⟩
      cases h
      exact hinfo

theorem AccountRevert.tryFrom_eq_panic {revert : Proto.Revert} :
    AccountRevert.tryFrom revert = .error .panic ↔ AccountRevert.GetsTo Unsound revert := by
  rw [AccountRevert.tryFrom, AccountRevert.GetsTo]
  refine bind_eq_error_right (noPanic_tryFromSlice _ _) fun address => ?_
  refine okOrEyre_bind_eq_panic fun account => okOrEyre_bind_eq_panic fun kind => ?_
  refine (bind_eq_error_left fun info => ?_).trans AccountInfoRevert.tryFrom_eq_panic
  have hrest : NoPanic (do
      let storage ← revert.storage.mapM RevertToSlot.tryFrom
      let previousStatus ← AccountStatus.tryFrom revert.previousStatus
      .ok (address, (⟨info, .ofList storage, previousStatus, revert.wipeStorage⟩ :
        Reth.AccountRevert))) := by simp
  exact hrest

theorem BlockReverts.tryFrom_eq_panic {blockReverts : Proto.BlockReverts} :
    BlockReverts.tryFrom blockReverts = .error .panic ↔ BlockReverts.GetsTo Unsound blockReverts :=
  mapM_eq_error fun _ => AccountRevert.tryFrom_eq_panic

theorem BundleState.tryFrom_eq_panic {bundle : Proto.BundleState} :
    BundleState.tryFrom bundle = .error .panic ↔ BundleState.GetsTo Unsound bundle := by
  rw [BundleState.tryFrom, BundleState.GetsTo]
  refine (bind_eq_error fun state => ?_).trans
    (or_congr_left (mapM_eq_error fun _ => BundleAccount.tryFrom_eq_panic))
  refine (bind_eq_error fun contracts => ?_).trans
    (or_congr_left (mapM_eq_error fun _ => ContractBytecode.tryFrom_eq_panic))
  refine (bind_eq_error_left fun reverts => noPanic_ok _).trans ?_
  exact mapM_eq_error fun _ => BlockReverts.tryFrom_eq_panic

theorem Chain.tryFrom_eq_panic {chain : Proto.Chain} :
    Chain.tryFrom chain = .error .panic ↔ Chain.GetsTo Unsound chain := by
  rw [Chain.tryFrom, Chain.GetsTo]
  refine okOrEyre_bind_eq_panic fun outcome => okOrEyre_bind_eq_panic fun bundle => ?_
  refine bind_eq_error_right (noPanic_mapM RecoveredBlock.noPanic _) fun blocks => ?_
  refine (bind_eq_error_left fun bundle => ?_).trans BundleState.tryFrom_eq_panic
  have hrest : NoPanic (do
      let receipts ← outcome.receipts.mapM BlockReceipts.tryFrom
      .ok (Reth.Chain.new blocks ⟨bundle, receipts, outcome.firstBlock, []⟩ .empty)) := by simp
  exact hrest

/-- A chain that must be there, when nothing after it panics. -/
theorem Chain.bind_eq_panic {chain : Option Proto.Chain} {message : String}
    {f : Reth.Chain → Except Error Reth.ExExNotification} (hf : ∀ c, NoPanic (f c)) :
    (okOrEyre chain message >>= fun c => Chain.tryFrom c >>= f) = .error .panic ↔
      ∃ c, chain = some c ∧ Chain.GetsTo Unsound c :=
  okOrEyre_bind_eq_panic fun _ => (bind_eq_error_left hf).trans Chain.tryFrom_eq_panic

/-- Decoding a notification panics iff it gets to a legacy bytecode that is not sound. -/
theorem ne_panic_iff (notification : Proto.ExExNotification) :
    ExExNotification.tryFrom notification ≠ .error .panic ↔
      ¬ExExNotification.GetsTo Unsound notification := by
  rw [ne_eq, not_iff_not, ExExNotification.tryFrom, ExExNotification.GetsTo]
  rcases notification.notification with _ | new | ⟨old, new⟩ | old
  · exact ⟨nofun, False.elim⟩
  · rw [okOrEyre_some, ok_bind]
    exact Chain.bind_eq_panic fun _ => noPanic_ok _
  · rw [okOrEyre_some, ok_bind]
    refine okOrEyre_bind_eq_panic fun oldChain => ?_
    refine (bind_eq_error fun _ => ?_).trans (or_congr_left Chain.tryFrom_eq_panic)
    exact Chain.bind_eq_panic fun _ => noPanic_ok _
  · rw [okOrEyre_some, ok_bind]
    exact Chain.bind_eq_panic fun _ => noPanic_ok _

/-! ### A bytecode without bytes -/

/-- An empty block. -/
def emptyBlock : Proto.Block where
  header := some ⟨(FixedBytes.zero : B256).toVec, some (.ofHeader default)⟩
  body := []
  ommers := []
  senders := []

/-- A committed chain of one block that brings a contract of the given bytecode. -/
def deploying (code : Proto.LegacyAnalyzedBytecode) : Proto.ExExNotification where
  notification := some (.chainCommitted (some
    { blocks := [emptyBlock]
      executionOutcome := some
        { bundle := some
            { state := []
              contracts :=
                [⟨(FixedBytes.zero : B256).toVec, some ⟨some (.legacyAnalyzed code)⟩⟩]
              reverts := []
              stateSize := 0
              revertsSize := 0 }
          receipts := [⟨[]⟩]
          firstBlock := 0 } }))

/-- A bytecode without bytes makes the decoder panic. -/
theorem empty_bytecode_panics :
    ExExNotification.tryFrom (deploying ⟨[], 0, [], 0⟩) = .error .panic := by decide +kernel

end ExEx.Remote
