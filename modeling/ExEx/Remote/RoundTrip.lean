import ExEx.Remote.Decode

/-!
# The codec round trip

Decoding what a notification was encoded to gives the notification back, as long
as what the schema leaves out is not there (`Carried`). One lemma for each record
says so of its own conversions, and cites those of its parts.

A hash map is encoded entry by entry, in the order in which it is enumerated, and
collected again.
-/

namespace ExEx.Remote

/-! ## Transactions -/

theorem roundTrip_txKind (kind : Reth.TxKind) :
    TxKind.tryFrom (.ofTxKind kind) = .ok kind := by
  rcases kind with _ | address
  · rfl
  · simp [Proto.TxKind.ofTxKind, TxKind.tryFrom]

theorem roundTrip_accessListItem (item : Reth.AccessListItem) :
    AccessListItem.tryFrom (.ofAccessListItem item) = .ok item := by
  have hkeys := mapM_comp (l := item.storageKeys) fun key _ => tryFromSlice_toVec key
  simp [Proto.AccessListItem.ofAccessListItem, AccessListItem.tryFrom, hkeys]

theorem roundTrip_accessList (l : List Reth.AccessListItem) :
    l.mapM (AccessListItem.tryFrom ∘ Proto.AccessListItem.ofAccessListItem) = .ok l :=
  mapM_comp fun item _ => roundTrip_accessListItem item

theorem roundTrip_signedAuthorization (authorization : Reth.SignedAuthorization) :
    SignedAuthorization.tryFrom (.ofSignedAuthorization authorization) = .ok authorization := by
  simp [Proto.AuthorizationListItem.ofSignedAuthorization, SignedAuthorization.tryFrom,
    Word.fromLeBytes_toLeBytesVec]

theorem roundTrip_signature (signature : Reth.Signature) :
    Signature.tryFrom (.ofSignature signature) = .ok signature := by
  obtain ⟨r, s, yParity⟩ := signature
  cases yParity
  · simp [Proto.Signature.ofSignature, Signature.tryFrom]
    rfl
  · simp [Proto.Signature.ofSignature, Signature.tryFrom]
    rfl

theorem roundTrip_transaction (transaction : Reth.Transaction) :
    Transaction.tryFrom (.ofTransaction transaction) = .ok transaction := by
  rcases transaction with tx | tx | tx | tx | tx
  · simp [Proto.Transaction.Kind.ofTransaction, Transaction.tryFrom, roundTrip_txKind]
  · simp [Proto.Transaction.Kind.ofTransaction, Transaction.tryFrom, roundTrip_txKind,
      roundTrip_accessList]
  · simp [Proto.Transaction.Kind.ofTransaction, Transaction.tryFrom, roundTrip_txKind,
      roundTrip_accessList]
  · have hhashes := mapM_comp (l := tx.blobVersionedHashes) fun hash _ => tryFromSlice_toVec hash
    simp [Proto.Transaction.Kind.ofTransaction, Transaction.tryFrom, roundTrip_accessList, hhashes]
  · have hauthorizations := mapM_comp (l := tx.authorizationList) fun authorization _ =>
      roundTrip_signedAuthorization authorization
    simp [Proto.Transaction.Kind.ofTransaction, Transaction.tryFrom, roundTrip_accessList,
      hauthorizations]

theorem roundTrips_transactionSigned (transaction : Reth.TransactionSigned) :
    RoundTrips Proto.Transaction.tryFrom TransactionSigned.tryFrom transaction :=
  ⟨_, rfl, by simp [TransactionSigned.tryFrom, roundTrip_signature, roundTrip_transaction]⟩

/-! ## Blocks -/

theorem roundTrip_header {header : Reth.Header} (h : header.requestsHash = none) :
    Header.tryFrom (.ofHeader header) = .ok header := by
  have hroot := fun o : Option B256 =>
    optionMapM_comp (o := o) fun root _ => tryFromSlice_toVec root
  simp [Proto.Header.ofHeader, Header.tryFrom, hroot, ← h]

/-- What the schema leaves out of a block is not there. -/
structure BlockCarried (block : Reth.RecoveredBlock) : Prop where
  withdrawals : block.body.withdrawals = none
  requestsHash : ∀ header ∈ block.header :: block.body.ommers, header.requestsHash = none

theorem roundTrips_recoveredBlock {block : Reth.RecoveredBlock} (h : BlockCarried block) :
    RoundTrips Proto.Block.tryFrom RecoveredBlock.tryFrom block := by
  obtain ⟨body, hbody, htransactions⟩ := RoundTrips.mapM (l := block.body.transactions)
    fun transaction _ => roundTrips_transactionSigned transaction
  have hheader := roundTrip_header (h.requestsHash _ List.mem_cons_self)
  have hommers := mapM_comp (l := block.body.ommers) fun header hmem =>
    roundTrip_header (h.requestsHash header (List.mem_cons_of_mem _ hmem))
  have hsenders := mapM_comp (l := block.senders) fun sender _ => tryFromSlice_toVec sender
  refine ⟨_, by rw [Proto.Block.tryFrom, hbody]; rfl, ?_⟩
  simp [RecoveredBlock.tryFrom, hheader, htransactions, hommers, hsenders, ← h.withdrawals]

/-! ## Bundle state -/

/-- A bytecode is rebuilt from its parts. -/
theorem roundTrips_bytecode (bytecode : Reth.Bytecode) :
    RoundTrips Proto.Bytecode.tryFrom Bytecode.tryFrom bytecode := by
  rcases bytecode with ⟨code, originalLen, ⟨table, len, hlen⟩, hne, hle, hle'⟩ | address
  · -- The original bytes are as many as the code says, so its length is carried.
    have horiginal : UInt64.ofNat (code.take originalLen.toNat).length = originalLen := by
      rw [List.length_take, min_eq_left hle, UInt64.ofNat_toNat]
    refine ⟨_, rfl, ?_⟩
    simp only [Bytecode.tryFrom, Reth.Bytecode.bytecode, Reth.Bytecode.originalBytes, horiginal,
      Reth.JumpTable.fromSlice, dif_pos hlen, okOrEyre_some, ok_bind, unwrap_some,
      Reth.Bytecode.newAnalyzed]
    rw [dif_pos ⟨hne, hle, hle'⟩, unwrap_some]
  · refine ⟨_, rfl, ?_⟩
    simp [Bytecode.tryFrom, Reth.Bytecode.newEip7702]

theorem roundTrip_accountStatus (status : Reth.AccountStatus) :
    AccountStatus.tryFrom (Proto.AccountStatus.ofStatus status).toInt32 = .ok status := by
  cases status <;> rfl

theorem roundTrips_accountInfo {accountInfo : Reth.AccountInfo} (h : accountInfo.accountId = none) :
    RoundTrips Proto.AccountInfo.tryFrom AccountInfo.tryFrom accountInfo := by
  obtain ⟨code, hcode, hcode'⟩ := RoundTrips.optionMapM (o := accountInfo.code)
    fun bytecode _ => roundTrips_bytecode bytecode
  refine ⟨_, by rw [Proto.AccountInfo.tryFrom, hcode]; rfl, ?_⟩
  simp [AccountInfo.tryFrom, hcode', ← h]

theorem roundTrip_storageSlot (e : U256 × Reth.StorageSlot) :
    StorageSlot.tryFrom (.ofEntry e) = .ok e := by
  simp [Proto.StorageSlot.ofEntry, StorageSlot.tryFrom]

theorem roundTrips_bundleAccount {e : Address × Reth.BundleAccount}
    (hinfo : ∀ info ∈ e.2.info, info.accountId = none)
    (horiginal : ∀ info ∈ e.2.originalInfo, info.accountId = none) :
    RoundTrips Proto.BundleAccount.tryFrom BundleAccount.tryFrom e := by
  obtain ⟨info, hi, hi'⟩ := RoundTrips.optionMapM (o := e.2.info)
    fun info hmem => roundTrips_accountInfo (hinfo info hmem)
  obtain ⟨originalInfo, ho, ho'⟩ := RoundTrips.optionMapM (o := e.2.originalInfo)
    fun info hmem => roundTrips_accountInfo (horiginal info hmem)
  have hstorage := mapM_comp (l := e.2.storage.entries) fun slot _ => roundTrip_storageSlot slot
  refine ⟨_, by rw [Proto.BundleAccount.tryFrom, hi, ok_bind, ho]; rfl, ?_⟩
  simp [BundleAccount.tryFrom, hi', ho', hstorage, roundTrip_accountStatus, Assoc.ofList_entries]

theorem roundTrips_contractBytecode (e : B256 × Reth.Bytecode) :
    RoundTrips Proto.ContractBytecode.tryFrom ContractBytecode.tryFrom e := by
  obtain ⟨bytecode, hb, hb'⟩ := roundTrips_bytecode e.2
  refine ⟨_, by rw [Proto.ContractBytecode.tryFrom, hb]; rfl, ?_⟩
  simp [ContractBytecode.tryFrom, hb']

/-- The account info a revert restores, if any. -/
def revertInfo : Reth.AccountInfoRevert → Option Reth.AccountInfo
  | .revertTo info => some info
  | _ => none

theorem roundTrips_accountInfoRevert {revert : Reth.AccountInfoRevert}
    (h : ∀ info ∈ revertInfo revert, info.accountId = none) :
    RoundTrips Proto.AccountInfoRevert.Revert.tryFrom AccountInfoRevert.tryFrom revert := by
  rcases revert with _ | _ | info
  · exact ⟨_, rfl, rfl⟩
  · exact ⟨_, rfl, rfl⟩
  · obtain ⟨info', hi, hi'⟩ := roundTrips_accountInfo (h info rfl)
    refine ⟨_, by rw [Proto.AccountInfoRevert.Revert.tryFrom, hi]; rfl, ?_⟩
    rw [AccountInfoRevert.tryFrom, hi']
    rfl

theorem roundTrips_revertToSlot (e : U256 × Reth.RevertToSlot) :
    RoundTrips Proto.RevertToSlot.tryFrom RevertToSlot.tryFrom e := by
  obtain ⟨key, value | _⟩ := e
  · exact ⟨_, rfl, by simp [RevertToSlot.tryFrom]⟩
  · exact ⟨_, rfl, by simp [RevertToSlot.tryFrom]⟩

theorem roundTrips_accountRevert {e : Address × Reth.AccountRevert}
    (h : ∀ info ∈ revertInfo e.2.account, info.accountId = none) :
    RoundTrips Proto.Revert.tryFrom AccountRevert.tryFrom e := by
  obtain ⟨account, ha, ha'⟩ := roundTrips_accountInfoRevert h
  obtain ⟨storage, hs, hs'⟩ := RoundTrips.mapM (l := e.2.storage.entries)
    fun slot _ => roundTrips_revertToSlot slot
  refine ⟨_, by rw [Proto.Revert.tryFrom, ha, ok_bind, hs]; rfl, ?_⟩
  simp [AccountRevert.tryFrom, ha', hs', roundTrip_accountStatus, Assoc.ofList_entries]

/-- The account infos of a bundle. -/
def infos (bundle : Reth.BundleState) : List Reth.AccountInfo :=
  (bundle.state.entries.flatMap fun e => e.2.info.toList ++ e.2.originalInfo.toList) ++
    bundle.reverts.flatten.filterMap fun e => revertInfo e.2.account

theorem roundTrips_bundleState {bundle : Reth.BundleState}
    (h : ∀ info ∈ infos bundle, info.accountId = none) :
    RoundTrips Proto.BundleState.tryFrom BundleState.tryFrom bundle := by
  have hstate : ∀ e ∈ bundle.state.entries, ∀ info ∈ e.2.info.toList ++ e.2.originalInfo.toList,
      info.accountId = none := by
    intro e he info hinfo
    exact h info (List.mem_append_left _ (List.mem_flatMap.2 ⟨e, he, hinfo⟩))
  have hrevert : ∀ l ∈ bundle.reverts, ∀ e ∈ l, ∀ info ∈ revertInfo e.2.account,
      info.accountId = none := by
    intro l hl e he info hinfo
    exact h info (List.mem_append_right _
      (List.mem_filterMap.2 ⟨e, List.mem_flatten.2 ⟨l, hl, he⟩, hinfo⟩))
  obtain ⟨state, hs, hs'⟩ := RoundTrips.mapM (l := bundle.state.entries) fun e he =>
    roundTrips_bundleAccount
      (fun info hi => hstate e he info (List.mem_append_left _ (Option.mem_toList.2 hi)))
      (fun info hi => hstate e he info (List.mem_append_right _ (Option.mem_toList.2 hi)))
  obtain ⟨contracts, hc, hc'⟩ := RoundTrips.mapM (l := bundle.contracts.entries)
    fun e _ => roundTrips_contractBytecode e
  have hblock : ∀ l ∈ bundle.reverts,
      RoundTrips Proto.BlockReverts.tryFrom BlockReverts.tryFrom l := by
    intro l hl
    obtain ⟨reverts, hr, hr'⟩ := RoundTrips.mapM (l := l)
      fun e he => roundTrips_accountRevert (hrevert l hl e he)
    exact ⟨⟨reverts⟩, by rw [Proto.BlockReverts.tryFrom, hr]; rfl, hr'⟩
  obtain ⟨reverts, hr, hr'⟩ := RoundTrips.mapM hblock
  refine ⟨_, by rw [Proto.BundleState.tryFrom, hs, ok_bind, hc, ok_bind, hr]; rfl, ?_⟩
  simp [BundleState.tryFrom, hs', hc', hr', Assoc.ofList_entries]

/-! ## Receipts -/

theorem roundTrip_txType (txType : Reth.TxType) :
    TxType.tryFrom (Proto.TxType.ofTxType txType).toInt32 = .ok txType := by
  cases txType <;> rfl

theorem roundTrip_log (log : Reth.Log) : Log.tryFrom (.ofLog log) = .ok log := by
  have htopics := mapM_comp (l := log.data.topics) fun topic _ => tryFromSlice_toVec topic
  simp [Proto.Log.ofLog, Log.tryFrom, htopics]

theorem roundTrips_receipt (receipt : Reth.Receipt) :
    RoundTrips Proto.Receipt.tryFrom Receipt.tryFrom receipt := by
  have hlogs := mapM_comp (l := receipt.logs) fun log _ => roundTrip_log log
  refine ⟨_, rfl, ?_⟩
  simp [Receipt.tryFrom, Receipt.tryFromNonEmpty, roundTrip_txType, hlogs]

theorem roundTrips_blockReceipts (blockReceipts : List Reth.Receipt) :
    RoundTrips Proto.BlockReceipts.tryFrom BlockReceipts.tryFrom blockReceipts := by
  obtain ⟨receipts, hr, hr'⟩ := RoundTrips.mapM (l := blockReceipts)
    fun receipt _ => roundTrips_receipt receipt
  exact ⟨⟨receipts⟩, by rw [Proto.BlockReceipts.tryFrom, hr]; rfl, hr'⟩

/-! ## Chains and notifications -/

/-- The blocks of a chain are under their numbers, and what the schema leaves
    out is not there. -/
structure Carried (chain : Reth.Chain) : Prop where
  number : ∀ e ∈ chain.blocks.entries, e.1 = e.2.number
  block : ∀ block ∈ chain.blocksIter, BlockCarried block
  requests : chain.executionOutcome.requests = []
  accountId : ∀ info ∈ infos chain.executionOutcome.bundle, info.accountId = none
  trieData : chain.trieData = .empty

/-- The blocks of a chain, collected by their numbers. -/
theorem Carried.blocks_eq {chain : Reth.Chain} (h : Carried chain) :
    SortedMap.ofList (chain.blocksIter.map fun block => (block.number, block)) = chain.blocks := by
  have hentries : (chain.blocksIter.map fun block => (block.number, block)) =
      chain.blocks.entries := by
    rw [Reth.Chain.blocksIter, SortedMap.values, List.map_map]
    refine (List.map_congr_left ?_).trans (List.map_id _)
    intro e he
    exact Prod.ext (h.number e he).symm rfl
  rw [hentries, SortedMap.ofList_entries]

theorem roundTrips_chain {chain : Reth.Chain} (h : Carried chain) :
    RoundTrips Proto.Chain.tryFrom Chain.tryFrom chain := by
  obtain ⟨blocks, hb, hb'⟩ := RoundTrips.mapM (l := chain.blocksIter)
    fun block hmem => roundTrips_recoveredBlock (h.block block hmem)
  obtain ⟨bundle, hs, hs'⟩ := roundTrips_bundleState h.accountId
  obtain ⟨receipts, hr, hr'⟩ := RoundTrips.mapM (l := chain.executionOutcome.receipts)
    fun blockReceipts _ => roundTrips_blockReceipts blockReceipts
  refine ⟨_, by rw [Proto.Chain.tryFrom, hb, ok_bind, hs, ok_bind, hr]; rfl, ?_⟩
  simp [Chain.tryFrom, hb', hs', hr', Reth.Chain.new, h.blocks_eq, ← h.requests, ← h.trieData]

/-- The chains of a notification. -/
def chains : Reth.ExExNotification → List Reth.Chain
  | .chainCommitted new => [new]
  | .chainReorged old new => [old, new]
  | .chainReverted old => [old]

/-- Encoding a notification succeeds, and decoding the result gives it back. -/
theorem notification_round_trip {notification : Reth.ExExNotification}
    (h : ∀ chain ∈ chains notification, Carried chain) :
    ∃ message, Proto.ExExNotification.tryFrom notification = .ok message ∧
      ExExNotification.tryFrom message = .ok notification := by
  rcases notification with new | ⟨old, new⟩ | old
  · obtain ⟨message, hm, hm'⟩ := roundTrips_chain (h new (by simp [chains]))
    refine ⟨_, by rw [Proto.ExExNotification.tryFrom, hm]; rfl, ?_⟩
    simp [ExExNotification.tryFrom, hm']
  · obtain ⟨message, ho, ho'⟩ := roundTrips_chain (h old (by simp [chains]))
    obtain ⟨message', hn, hn'⟩ := roundTrips_chain (h new (by simp [chains]))
    refine ⟨_, by rw [Proto.ExExNotification.tryFrom, ho, ok_bind, hn]; rfl, ?_⟩
    simp [ExExNotification.tryFrom, ho', hn']
  · obtain ⟨message, hm, hm'⟩ := roundTrips_chain (h old (by simp [chains]))
    refine ⟨_, by rw [Proto.ExExNotification.tryFrom, hm]; rfl, ?_⟩
    simp [ExExNotification.tryFrom, hm']

/-! ### A reorg -/

/-- One transaction of each kind. -/
def oneOfEach : List Reth.Transaction :=
  [.legacy ⟨some 1, 0, 7, 21000, .create, 1, [0x60, 0x00]⟩,
    .eip2930 ⟨1, 1, 7, 30000, .call .zero, 2, [⟨.zero, [.zero, .ofU256 1]⟩], []⟩,
    .eip1559 ⟨1, 2, 30000, 9, 2, .call .zero, 3, [], [0xff]⟩,
    .eip4844 ⟨1, 3, 30000, 9, 2, .zero, 4, [], [.ofU256 5], 6, []⟩,
    .eip7702 ⟨1, 4, 30000, 9, 2, .zero, 5, [], [⟨⟨1, .zero, 8⟩, 255, 10, 11⟩], []⟩]

/-- The code `STOP`, padded by one byte. -/
def stopCode : Reth.Bytecode :=
  .legacyAnalyzed
    { bytecode := [0x00, 0x00]
      originalLen := 1
      jumpTable := ⟨[0x00], 1, by decide⟩
      bytecode_ne_nil := by decide
      originalLen_le := by decide
      originalLen_le_jumpTable := by decide }

/-- An account with code. -/
def contractInfo : Reth.AccountInfo := ⟨12, 1, .ofU256 13, none, some stopCode⟩

/-- A block with these transactions, and an ommer. -/
def fullBlock (number : UInt64) : Reth.RecoveredBlock where
  hash := .ofU256 (.ofU64 number)
  header := { (default : Reth.Header) with number := number, withdrawalsRoot := some .zero }
  body :=
    { transactions := oneOfEach.map fun tx => ⟨tx, ⟨14, 15, true⟩, .zero⟩
      ommers := [default]
      withdrawals := none }
  senders := oneOfEach.map fun _ => .zero

/-- A bundle: the contract changes, another account delegates to it, and the
    revert of the block takes both back. -/
def fullBundle : Reth.BundleState where
  state := .ofList
    [(.zero, ⟨some contractInfo, none, .ofList [(1, ⟨0, 2⟩), (0, ⟨3, 0⟩)], .inMemoryChange⟩)]
  contracts := .ofList [(.ofU256 13, stopCode), (.ofU256 14, .eip7702 .zero)]
  reverts :=
    [[(.zero, ⟨.revertTo contractInfo, .ofList [(1, .some 0), (0, .destroyed)], .loaded, true⟩),
      (.zero, ⟨.deleteIt, .empty, .destroyedAgain, false⟩)]]
  stateSize := 2
  revertsSize := 2

/-- The outcome of the block. -/
def fullOutcome (number : UInt64) : Reth.ExecutionOutcome where
  bundle := fullBundle
  receipts := [[⟨.eip7702, true, 21000, [⟨.zero, [.zero, .ofU256 1], [0x01]⟩]⟩]]
  firstBlock := number
  requests := []

/-- The chain of that block. -/
def fullChain (number : UInt64) : Reth.Chain :=
  .new [fullBlock number] (fullOutcome number) .empty

theorem carried_fullChain (number : UInt64) : Carried (fullChain number) where
  number e he := by rw [List.mem_singleton.1 he]
  block block hblock := by
    obtain rfl := List.mem_singleton.1 hblock
    refine ⟨rfl, fun header hheader => ?_⟩
    rcases List.mem_cons.1 hheader with rfl | hommer
    · rfl
    · rw [List.mem_singleton.1 hommer]
      rfl
  requests := rfl
  accountId := by
    have hinfos : ∀ info ∈ infos fullBundle, info.accountId = none := by decide +kernel
    exact hinfos
  trieData := rfl

/-- A reorg of one such block by another goes through the codec. -/
theorem reorg_round_trip :
    ∃ message,
      Proto.ExExNotification.tryFrom (.chainReorged (fullChain 1) (fullChain 2)) = .ok message ∧
        ExExNotification.tryFrom message = .ok (.chainReorged (fullChain 1) (fullChain 2)) := by
  refine notification_round_trip fun chain hchain => ?_
  rcases List.mem_pair.1 hchain with rfl | rfl
  · exact carried_fullChain 1
  · exact carried_fullChain 2

end ExEx.Remote
