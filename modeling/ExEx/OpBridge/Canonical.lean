import ExEx.Lib.System
import ExEx.OpBridge

/-!
# The bridge tables follow the chain

The canonical chain evolves: blocks are committed, reorged and reverted
(`Evolves`). As long as the extension has processed all its notifications, the
tables hold the deposits and the withdrawals of the canonical chain, one row for
each event, in the order of the chain (`tracks`).

A row is inserted for an event and deleted by the hash of its transaction. No two
rows have the same hash, so what a reverted chain deletes are its own rows, which
are the last ones. They come back with another block when the transaction does.
-/

namespace ExEx.OpBridge

open Reth (RecoveredBlock Receipt Log Chain ExExNotification)

/-! ## The canonical chain -/

/-- A block with the receipts of its transactions. -/
structure CanonicalBlock where
  block : RecoveredBlock
  receipts : List Receipt
  length_eq : receipts.length = block.body.transactions.length

/-- A chain is made of some blocks. -/
structure MadeOf (chain : Chain) (blocks : List CanonicalBlock) : Prop where
  blocks_eq : chain.blocksIter = blocks.map CanonicalBlock.block
  receipts_eq : chain.executionOutcome.receipts = blocks.map CanonicalBlock.receipts

/-- How the canonical chain changes with a notification: what is taken away is its
    end. -/
inductive Evolves : List CanonicalBlock → ExExNotification → List CanonicalBlock → Prop
  | committed {kept added : List CanonicalBlock} {new : Chain} :
      MadeOf new added → Evolves kept (.chainCommitted new) (kept ++ added)
  | reorged {kept dropped added : List CanonicalBlock} {old new : Chain} :
      MadeOf old dropped → MadeOf new added →
      Evolves (kept ++ dropped) (.chainReorged old new) (kept ++ added)
  | reverted {kept dropped : List CanonicalBlock} {old : Chain} :
      MadeOf old dropped → Evolves (kept ++ dropped) (.chainReverted old) kept

/-- The canonical chain, and the extension. -/
structure Indexed where
  canonical : List CanonicalBlock
  bridge : BridgeState

/-- The logs of a block, in order. -/
def CanonicalBlock.emitted (b : CanonicalBlock) : List Emitted :=
  (b.block.body.transactions.zip b.receipts).flatMap fun t =>
    t.2.logs.map fun log => ⟨b.block, t.1, log⟩

section

variable (decodeRawLog : List B256 → Bytes → Option L1StandardBridgeEvents)

/-- A row for each `ETHBridgeInitiated` of some blocks. -/
def initiatedIn (blocks : List CanonicalBlock) : List (B256 × Row) :=
  (blocks.flatMap CanonicalBlock.emitted).filterMap (initiated decodeRawLog)

/-- A row for each `ETHBridgeFinalized` of some blocks. -/
def finalizedIn (blocks : List CanonicalBlock) : List (B256 × Row) :=
  (blocks.flatMap CanonicalBlock.emitted).filterMap (finalized decodeRawLog)

/-- Runs on the notifications of an evolving chain, all of which are processed. -/
def indexing : System Indexed ExExNotification where
  init s := s.canonical = [] ∧ s.bridge.deposits = .empty ∧ s.bridge.withdrawals = .empty
  step s notification s' :=
    Evolves s.canonical notification s'.canonical ∧
      processNotification decodeRawLog notification s.bridge = (.ok (), s'.bridge)

/-- The tables hold a row for each event of the canonical chain, and no other. -/
structure Tracks (s : Indexed) : Prop where
  deposits : s.bridge.deposits.entries = initiatedIn decodeRawLog s.canonical
  withdrawals : s.bridge.withdrawals.entries = finalizedIn decodeRawLog s.canonical

variable {decodeRawLog}

/-! ## What a chain brings -/

theorem MadeOf.emitted {chain : Chain} {blocks : List CanonicalBlock} (h : MadeOf chain blocks) :
    emitted chain = blocks.flatMap CanonicalBlock.emitted := by
  rw [OpBridge.emitted, Chain.blocksAndReceipts, h.blocks_eq, h.receipts_eq, List.zip_map',
    List.flatMap_map]
  rfl

theorem MadeOf.depositsOf {chain : Chain} {blocks : List CanonicalBlock} (h : MadeOf chain blocks) :
    depositsOf decodeRawLog chain = initiatedIn decodeRawLog blocks := by
  rw [OpBridge.depositsOf, h.emitted, initiatedIn]

theorem MadeOf.withdrawalsOf {chain : Chain} {blocks : List CanonicalBlock}
    (h : MadeOf chain blocks) :
    withdrawalsOf decodeRawLog chain = finalizedIn decodeRawLog blocks := by
  rw [OpBridge.withdrawalsOf, h.emitted, finalizedIn]

theorem initiatedIn_append (l l' : List CanonicalBlock) :
    initiatedIn decodeRawLog (l ++ l') = initiatedIn decodeRawLog l ++ initiatedIn decodeRawLog l' := by
  rw [initiatedIn, List.flatMap_append, List.filterMap_append]
  rfl

theorem finalizedIn_append (l l' : List CanonicalBlock) :
    finalizedIn decodeRawLog (l ++ l') = finalizedIn decodeRawLog l ++ finalizedIn decodeRawLog l' := by
  rw [finalizedIn, List.flatMap_append, List.filterMap_append]
  rfl

/-! ## Deleting -/

/-- An event of a reverted chain deletes the rows under its hash in its table. -/
theorem foldl_revertEvent (l : List (Emitted × L1StandardBridgeEvents)) (s : BridgeState) :
    l.foldl revertEvent s =
      { s with
        deposits := s.deposits.eraseAll ((l.filterMap deposit).map Prod.fst)
        withdrawals := s.withdrawals.eraseAll ((l.filterMap withdrawal).map Prod.fst) } := by
  induction l generalizing s with
  | nil => rfl
  | cons e l ih =>
    obtain ⟨e, event⟩ := e
    rw [List.foldl_cons, ih]
    rcases event with ⟨f, t, amount⟩ | ⟨f, t, amount⟩ | _ <;> rfl

theorem handleReverted_chainReverted (chain : Chain) (s : BridgeState) :
    handleReverted decodeRawLog (.chainReverted chain) s =
      { s with
        deposits := s.deposits.eraseAll ((depositsOf decodeRawLog chain).map Prod.fst)
        withdrawals := s.withdrawals.eraseAll ((withdrawalsOf decodeRawLog chain).map Prod.fst) } := by
  rw [← filterMap_deposit, ← filterMap_withdrawal, ← foldl_revertEvent]
  rfl

/-! ## Steps -/

/-- The rows of a reverted chain are the last ones, and are deleted. -/
theorem Tracks.revert {kept dropped : List CanonicalBlock} {s : BridgeState} {old : Chain}
    (h : Tracks decodeRawLog ⟨kept ++ dropped, s⟩) (hold : MadeOf old dropped) :
    Tracks decodeRawLog ⟨kept, handleReverted decodeRawLog (.chainReverted old) s⟩ := by
  have hd := h.deposits
  have hw := h.withdrawals
  rw [initiatedIn_append] at hd
  rw [finalizedIn_append] at hw
  rw [handleReverted_chainReverted, hold.depositsOf, hold.withdrawalsOf]
  exact ⟨Assoc.entries_eraseAll_append hd, Assoc.entries_eraseAll_append hw⟩

/-- The rows of a committed chain are added at the end. -/
theorem Tracks.commit {kept added : List CanonicalBlock} {s s' : BridgeState} {new : Chain}
    (h : Tracks decodeRawLog ⟨kept, s⟩) (hnew : MadeOf new added)
    (hok : processNotification decodeRawLog (.chainCommitted new) s = (.ok (), s')) :
    Tracks decodeRawLog ⟨kept ++ added, s'⟩ := by
  obtain ⟨s₁, tip, ⟨⟨-, hd⟩, ⟨-, hw⟩, -⟩, -, rfl⟩ := processNotification_eq_ok.1 hok
  constructor
  · exact hd.trans (by rw [h.deposits, hnew.depositsOf, initiatedIn_append])
  · exact hw.trans (by rw [h.withdrawals, hnew.withdrawalsOf, finalizedIn_append])

theorem Tracks.step {blocks blocks' : List CanonicalBlock} {s s' : BridgeState}
    {notification : ExExNotification} (h : Tracks decodeRawLog ⟨blocks, s⟩)
    (hevolves : Evolves blocks notification blocks')
    (hok : processNotification decodeRawLog notification s = (.ok (), s')) :
    Tracks decodeRawLog ⟨blocks', s'⟩ := by
  cases hevolves with
  | committed hnew => exact h.commit hnew hok
  | reorged hold hnew => exact (h.revert hold).commit hnew hok
  | reverted hold =>
    obtain rfl := (Prod.mk.inj hok).2
    exact h.revert hold

/-- After each notification, the tables hold the events of the canonical chain. -/
theorem tracks {s : Indexed} (hs : (indexing decodeRawLog).Reachable s) : Tracks decodeRawLog s := by
  refine hs.invariant ?_ fun s e s' _ h _ hstep => h.step hstep.1 hstep.2
  rintro ⟨canonical, bridge⟩ ⟨rfl, hd, hw⟩
  exact ⟨congrArg Assoc.entries hd, congrArg Assoc.entries hw⟩

end

/-! ### A transaction that moves -/

/-- A block whose transactions emit the given logs. -/
def bridgeBlock (number : UInt64) (logs : List (List Log)) : CanonicalBlock where
  block := { (default : RecoveredBlock) with
    header := { (default : Reth.Header) with number := number }
    body := ⟨(List.range logs.length).map fun i => bridgeCall (BitVec.ofNat 256 i), [], none⟩ }
  receipts := logs.map fun l => ⟨.legacy, true, 0, l⟩
  length_eq := by rw [List.length_map, List.length_map, List.length_range]

/-- A chain of one block. -/
def chainOf (b : CanonicalBlock) : Chain :=
  .new [b.block] { (default : Reth.ExecutionOutcome) with receipts := [b.receipts] } default

theorem madeOf_chainOf (b : CanonicalBlock) : MadeOf (chainOf b) [b] := ⟨rfl, rfl⟩

/-- A deposit and a withdrawal. -/
def firstBlock : CanonicalBlock :=
  bridgeBlock 1 [[bridging ETH_BRIDGE_INITIATED 7], [bridging ETH_BRIDGE_FINALIZED 8]]

/-- The deposit in another block, and another one. -/
def secondBlock : CanonicalBlock :=
  bridgeBlock 2 [[bridging ETH_BRIDGE_INITIATED 7], [], [bridging ETH_BRIDGE_INITIATED 9]]

/-- The deposit moves from one block to the other in a reorg. -/
theorem tracks_moved : ∃ s : BridgeState,
    s.deposits.entries.map (fun r => (r.2.blockNumber, r.2.amount)) = [(2, 7), (2, 9)] ∧
      s.withdrawals.entries = [] ∧ Tracks bridgeLogs ⟨[secondBlock], s⟩ := by
  have hinit : (indexing bridgeLogs).Reachable ⟨[], noRows⟩ := .init ⟨rfl, rfl, rfl⟩
  have hcommit : Evolves [] (.chainCommitted (chainOf firstBlock)) ([] ++ [firstBlock]) :=
    .committed (madeOf_chainOf firstBlock)
  have hfirst : (indexing bridgeLogs).Reachable
      ⟨[firstBlock], (processNotification bridgeLogs (.chainCommitted (chainOf firstBlock)) noRows).2⟩ :=
    hinit.step trivial ⟨hcommit, rfl⟩
  have hreorg : Evolves ([] ++ [firstBlock])
      (.chainReorged (chainOf firstBlock) (chainOf secondBlock)) ([] ++ [secondBlock]) :=
    .reorged (madeOf_chainOf firstBlock) (madeOf_chainOf secondBlock)
  have hsecond : (indexing bridgeLogs).Reachable
      ⟨[secondBlock], (processNotification bridgeLogs
        (.chainReorged (chainOf firstBlock) (chainOf secondBlock))
        (processNotification bridgeLogs (.chainCommitted (chainOf firstBlock)) noRows).2).2⟩ :=
    hfirst.step trivial ⟨hreorg, rfl⟩
  exact ⟨_, rfl, rfl, tracks hsecond⟩

end ExEx.OpBridge
