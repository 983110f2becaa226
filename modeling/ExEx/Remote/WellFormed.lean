import ExEx.Lib.Except
import ExEx.Remote.Decode

/-!
# Chains that do not fit together

A chain message keeps its blocks, their transactions, their senders and the receipts in
fields of their own. The decoder decodes each field and hands the results to
constructors that check nothing. It compares no two of them.

So what it accepts is consistent iff the message was (`consistent_iff`): the numbers of
the blocks are distinct, each block has a sender for each transaction, there are as many
lists of receipts as blocks, and no log has more than four topics.
-/

namespace ExEx.Remote

/-! ## Messages and chains -/

/-- The number of a block, if it has a header. -/
def Proto.Block.number (block : Proto.Block) : Option UInt64 :=
  block.header.bind fun sealedHeader => sealedHeader.header.map Proto.Header.number

/-- The topics of a log, if it has data. -/
def Proto.Log.topics (log : Proto.Log) : List Bytes := (log.data.map Proto.LogData.topics).getD []

/-- The logs of a receipt, if it has any. -/
def Proto.Receipt.logs (receipt : Proto.Receipt) : List Proto.Log :=
  match receipt.receipt with
  | some (.nonEmpty receipt) => receipt.logs
  | _ => []

/-- The lists of receipts of a chain, if it has an outcome. -/
def Proto.Chain.receipts (chain : Proto.Chain) : List Proto.BlockReceipts :=
  (chain.executionOutcome.map Proto.ExecutionOutcome.receipts).getD []

/-- A message whose fields fit together. -/
structure WellFormed (message : Proto.Chain) : Prop where
  numbers : (message.blocks.map Proto.Block.number).Nodup
  senders : ∀ block ∈ message.blocks, block.senders.length = block.body.length
  receipts : message.receipts.length = message.blocks.length
  topics : ∀ receipts ∈ message.receipts, ∀ receipt ∈ receipts.receipts, ∀ log ∈ receipt.logs,
    log.topics.length ≤ 4

/-- A chain that has what the message has: a block for each of its blocks, a sender for
    each transaction, a list of receipts for each block, and logs with at most four
    topics. -/
structure Consistent (message : Proto.Chain) (chain : Reth.Chain) : Prop where
  blocks : ∃ blocks, message.blocks.mapM RecoveredBlock.tryFrom = .ok blocks ∧
    chain.blocksIter.Perm blocks
  senders : ∀ block ∈ chain.blocksIter, block.senders.length = block.body.transactions.length
  receipts : chain.executionOutcome.receipts.length = chain.blocksIter.length
  topics : ∀ receipts ∈ chain.executionOutcome.receipts, ∀ receipt ∈ receipts,
    ∀ log ∈ receipt.logs, log.data.topics.length ≤ 4

/-! ## What is decoded -/

theorem Header.number_of_tryFrom {message : Proto.Header} {header : Reth.Header}
    (h : Header.tryFrom message = .ok header) : header.number = message.number := by
  simp only [Header.tryFrom, bind_eq_ok] at h
  obtain ⟨_, -, _, -, _, -, _, -, _, -, _, -, _, -, _, -, _, -, _, -, _, -, _, -, h⟩ := h
  exact Except.ok.inj h ▸ rfl

/-- A block keeps its number, its transactions and its senders. -/
theorem RecoveredBlock.tryFrom_eq_ok {message : Proto.Block} {block : Reth.RecoveredBlock}
    (h : RecoveredBlock.tryFrom message = .ok block) :
    message.number = some block.number ∧
      block.body.transactions.length = message.body.length ∧
      block.senders.length = message.senders.length := by
  simp only [RecoveredBlock.tryFrom, bind_eq_ok, okOrEyre_eq_ok] at h
  obtain ⟨sealedHeader, hsealed, protoHeader, hproto, header, hheader, hash, -, transactions,
    htransactions, ommers, -, senders, hsenders, h⟩ := h
  obtain rfl := Except.ok.inj h
  refine ⟨?_, (mapM_eq_ok.1 htransactions).length_eq.symm, (mapM_eq_ok.1 hsenders).length_eq.symm⟩
  rw [Proto.Block.number, hsealed, Option.bind_some, hproto, Option.map_some,
    ← Header.number_of_tryFrom hheader]

theorem Log.length_topics {message : Proto.Log} {log : Reth.Log}
    (h : Log.tryFrom message = .ok log) : log.data.topics.length = message.topics.length := by
  simp only [Log.tryFrom, bind_eq_ok, okOrEyre_eq_ok] at h
  obtain ⟨data, hdata, address, -, topics, htopics, h⟩ := h
  obtain rfl := Except.ok.inj h
  rw [Proto.Log.topics, hdata]
  exact (mapM_eq_ok.1 htopics).length_eq.symm

theorem Receipt.logs_of_tryFrom {message : Proto.Receipt} {receipt : Reth.Receipt}
    (h : Receipt.tryFrom message = .ok receipt) :
    message.logs.mapM Log.tryFrom = .ok receipt.logs := by
  simp only [Receipt.tryFrom, bind_eq_ok, okOrEyre_eq_ok] at h
  obtain ⟨kind, hkind, h⟩ := h
  rcases kind with _ | nonEmpty
  · cases h
  simp only [Receipt.tryFromNonEmpty, bind_eq_ok] at h
  obtain ⟨txType, -, logs, hlogs, h⟩ := h
  obtain rfl := Except.ok.inj h
  rw [Proto.Receipt.logs, hkind]
  exact hlogs

/-- What a chain is decoded from, part by part. -/
theorem Chain.tryFrom_eq_ok {message : Proto.Chain} {chain : Reth.Chain}
    (h : Chain.tryFrom message = .ok chain) :
    ∃ blocks, message.blocks.mapM RecoveredBlock.tryFrom = .ok blocks ∧
      message.receipts.mapM BlockReceipts.tryFrom = .ok chain.executionOutcome.receipts ∧
      chain.blocksIter =
        (SortedMap.ofList (blocks.map fun block => (block.number, block))).values := by
  simp only [Chain.tryFrom, bind_eq_ok, okOrEyre_eq_ok] at h
  obtain ⟨outcome, houtcome, _, -, blocks, hblocks, bundle, -, receipts, hreceipts, h⟩ := h
  obtain rfl := Except.ok.inj h
  refine ⟨blocks, hblocks, ?_, rfl⟩
  rw [Proto.Chain.receipts, houtcome]
  exact hreceipts

/-- Blocks keyed by their numbers are all there iff these are distinct. -/
theorem perm_values_iff {blocks : List Reth.RecoveredBlock} :
    (SortedMap.ofList (blocks.map fun block => (block.number, block))).values.Perm blocks ↔
      (blocks.map fun block => block.number).Nodup := by
  have hkeys : (blocks.map fun block => (block.number, block)).map Prod.fst =
      blocks.map fun block => block.number := by
    rw [List.map_map]
    rfl
  rw [← hkeys]
  constructor
  · intro h
    rw [← SortedMap.length_ofList_iff, List.length_map, ← h.length_eq, SortedMap.values,
      List.length_map]
  · intro h
    have hvalues : (blocks.map fun block => (block.number, block)).map Prod.snd = blocks := by
      rw [List.map_map]
      exact List.map_id blocks
    have hperm := (SortedMap.perm_ofList h).map Prod.snd
    rwa [hvalues] at hperm

/-! ## Consistency -/

/-- A chain that is accepted is consistent with its message iff the message is well
    formed. -/
theorem consistent_iff {message : Proto.Chain} {chain : Reth.Chain}
    (h : Chain.tryFrom message = .ok chain) : Consistent message chain ↔ WellFormed message := by
  obtain ⟨blocks, hblocks, hreceipts, hiter⟩ := Chain.tryFrom_eq_ok h
  have hall := mapM_eq_ok.1 hblocks
  have hallReceipts := mapM_eq_ok.1 hreceipts
  have hnumbers : message.blocks.map Proto.Block.number =
      (blocks.map fun block => block.number).map some := by
    rw [List.map_map, ← List.forall₂_eq_eq_eq, List.forall₂_map_left_iff, List.forall₂_map_right_iff]
    exact hall.imp fun _ _ h => (RecoveredBlock.tryFrom_eq_ok h).1
  have hperm : chain.blocksIter.Perm blocks ↔ (message.blocks.map Proto.Block.number).Nodup := by
    rw [hiter, perm_values_iff, hnumbers, List.nodup_map_iff (Option.some_injective _)]
  have hsenders : (∀ block ∈ message.blocks, block.senders.length = block.body.length) ↔
      ∀ block ∈ blocks, block.senders.length = block.body.transactions.length := by
    refine forall_mem_congr hall fun message block h => ?_
    obtain ⟨-, hbody, hsenders⟩ := RecoveredBlock.tryFrom_eq_ok h
    rw [hbody, hsenders]
  have htopics : (∀ receipts ∈ message.receipts, ∀ receipt ∈ receipts.receipts,
      ∀ log ∈ receipt.logs, log.topics.length ≤ 4) ↔
      ∀ receipts ∈ chain.executionOutcome.receipts, ∀ receipt ∈ receipts, ∀ log ∈ receipt.logs,
        log.data.topics.length ≤ 4 := by
    refine forall_mem_congr hallReceipts fun _ _ h => ?_
    refine forall_mem_congr (mapM_eq_ok.1 h) fun _ _ h => ?_
    refine forall_mem_congr (mapM_eq_ok.1 (Receipt.logs_of_tryFrom h)) fun _ _ h => ?_
    rw [Log.length_topics h]
  constructor
  · rintro ⟨⟨blocks', hblocks', hp⟩, hs, hr, ht⟩
    obtain rfl := Except.ok.inj (hblocks.symm.trans hblocks')
    refine ⟨hperm.1 hp, hsenders.2 fun block hb => hs block (hp.mem_iff.2 hb), ?_, htopics.2 ht⟩
    rw [hallReceipts.length_eq, hr, hp.length_eq, hall.length_eq]
  · rintro ⟨hn, hs, hr, ht⟩
    have hp := hperm.2 hn
    refine ⟨⟨blocks, hblocks, hp⟩, fun block hb => hsenders.1 hs block (hp.mem_iff.1 hb), ?_,
      htopics.1 ht⟩
    rw [← hallReceipts.length_eq, hr, hp.length_eq, hall.length_eq]

/-! ### A loose message -/

/-- A message of blocks without transactions, with these numbers and senders, and of
    lists of receipts. -/
def chainMessage (blocks : List (UInt64 × List Bytes)) (receipts : List Proto.BlockReceipts) :
    Proto.Chain where
  blocks := blocks.map fun block =>
    { header := some
        ⟨(FixedBytes.zero : B256).toVec,
          some (.ofHeader { (default : Reth.Header) with number := block.1 })⟩
      body := []
      ommers := []
      senders := block.2 }
  executionOutcome := some
    { bundle := some ⟨[], [], [], 0, 0⟩
      receipts := receipts
      firstBlock := 1 }

/-- A list of one receipt, with a log of these topics. -/
def receiptMessage (topics : List Bytes) : Proto.BlockReceipts where
  receipts := [⟨some (.nonEmpty
    { txType := 0
      success := true
      cumulativeGasUsed := 21000
      logs := [⟨(FixedBytes.zero : Address).toVec, some ⟨topics, []⟩⟩] })⟩]

/-- Two blocks with the same number, a sender of no transaction, three lists of
    receipts, and a log with five topics. -/
def looseMessage : Proto.Chain :=
  chainMessage [(1, []), (1, [(FixedBytes.zero : Address).toVec])]
    [receiptMessage (List.replicate 5 (FixedBytes.zero : B256).toVec), ⟨[]⟩, ⟨[]⟩]

/-- How many transactions and senders the blocks of a chain have, how many lists of
    receipts there are, and how many topics their logs have. -/
def measures (chain : Reth.Chain) : List (ℕ × ℕ) × ℕ × List ℕ :=
  (chain.blocksIter.map fun block => (block.body.transactions.length, block.senders.length),
    chain.executionOutcome.receipts.length,
    chain.executionOutcome.receipts.flatten.flatMap fun receipt =>
      receipt.logs.map fun log => log.data.topics.length)

/-- It is accepted. A block is lost, the other one has a sender and no transaction, there
    are more lists of receipts than blocks, and the log has its five topics. -/
theorem loose_message_accepted :
    ∃ chain, Chain.tryFrom looseMessage = .ok chain ∧ measures chain = ([(0, 1)], 3, [5]) ∧
      ¬Consistent looseMessage chain := by
  have hmeasures : (Chain.tryFrom looseMessage).toOption.map measures = some ([(0, 1)], 3, [5]) := by
    decide +kernel
  obtain ⟨chain, h⟩ : Succeeds (Chain.tryFrom looseMessage) := by decide +kernel
  rw [h] at hmeasures
  have hchain : measures chain = ([(0, 1)], 3, [5]) := Option.some.inj hmeasures
  refine ⟨chain, h, hchain, fun hconsistent => ?_⟩
  have hreceipts : chain.executionOutcome.receipts.length = 3 := (Prod.mk.inj (Prod.mk.inj hchain).2).1
  have hblocks : chain.blocksIter.length = 1 := by
    have := congrArg List.length (Prod.mk.inj hchain).1
    rwa [List.length_map] at this
  exact absurd (hreceipts.symm.trans (hconsistent.receipts.trans hblocks)) (by decide)

/-- A message whose fields fit together. -/
def tightMessage : Proto.Chain :=
  chainMessage [(1, []), (2, [])] [receiptMessage [], ⟨[]⟩]

theorem tight_message_consistent :
    ∃ chain, Chain.tryFrom tightMessage = .ok chain ∧ Consistent tightMessage chain := by
  obtain ⟨chain, h⟩ : Succeeds (Chain.tryFrom tightMessage) := by decide +kernel
  exact ⟨chain, h, (consistent_iff h).2
    ⟨by decide +kernel, by decide +kernel, rfl, by decide +kernel⟩⟩

end ExEx.Remote
