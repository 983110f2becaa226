import ExEx.Lib.Loop
import ExEx.Reth.Chain

/-!
# The OP bridge extension

The extension follows the events of six bridge contracts. For each
`ETHBridgeInitiated` event of a committed chain it inserts a row in `deposits`,
for each `ETHBridgeFinalized` event one in `withdrawals`, and for a reverted
chain it deletes the rows of the transactions with such events.

The tables keep the hash of the transaction in a `UNIQUE` column. So they cannot
hold two deposits of one transaction, and committing a chain with such a
transaction fails at the second one (`processed_iff`).

Each statement is a database transaction of its own: when the extension stops on
an error, the rows written before stay.
-/

namespace ExEx.OpBridge

open Reth (RecoveredBlock TransactionSigned Receipt Log Chain ExExNotification)

/-! ## Events -/

/-- The bridge contracts. -/
def OP_BRIDGES : List Address :=
  [⟨[0x31, 0x54, 0xcf, 0x16, 0xcc, 0xdb, 0x4c, 0x6d, 0x92, 0x26, 0x29, 0x66, 0x41, 0x74, 0xb9, 0x04,
      0xd8, 0x0f, 0x2c, 0x35], rfl⟩,
    ⟨[0x3a, 0x05, 0xe5, 0xd3, 0x3d, 0x7a, 0xb3, 0x86, 0x4d, 0x53, 0xaa, 0xec, 0x93, 0xc8, 0x30, 0x1c,
      0x1f, 0xa4, 0x91, 0x15], rfl⟩,
    ⟨[0x69, 0x74, 0x02, 0x16, 0x6f, 0xbf, 0x2f, 0x22, 0xe9, 0x70, 0xdf, 0x8a, 0x64, 0x86, 0xef, 0x17,
      0x1d, 0xbf, 0xc5, 0x24], rfl⟩,
    ⟨[0x99, 0xc9, 0xfc, 0x46, 0xf9, 0x2e, 0x8a, 0x1c, 0x0d, 0xec, 0x1b, 0x17, 0x47, 0xd0, 0x10, 0x90,
      0x3e, 0x88, 0x4b, 0xe1], rfl⟩,
    ⟨[0x73, 0x5a, 0xdb, 0xbe, 0x72, 0x22, 0x6b, 0xd5, 0x2e, 0x81, 0x8e, 0x71, 0x81, 0x95, 0x3f, 0x42,
      0xe3, 0xb0, 0xff, 0x21], rfl⟩,
    ⟨[0x3b, 0x95, 0xbc, 0x95, 0x1e, 0xe0, 0xf5, 0x53, 0xba, 0x48, 0x73, 0x27, 0x27, 0x8c, 0xac, 0x44,
      0xf2, 0x97, 0x15, 0xe5], rfl⟩]

/-- An event of a bridge contract, as far as the extension reads it. -/
inductive L1StandardBridgeEvents
  | ethBridgeInitiated («from» «to» : Address) (amount : U256)
  | ethBridgeFinalized («from» «to» : Address) (amount : U256)
  | other
  deriving DecidableEq

/-- A log, with the block and the transaction it comes from. -/
structure Emitted where
  block : RecoveredBlock
  tx : TransactionSigned
  log : Log

/-- A receipt, with the block and the transaction it is of. -/
structure Executed where
  block : RecoveredBlock
  tx : TransactionSigned
  receipt : Receipt

section

variable (decodeRawLog : List B256 → Bytes → Option L1StandardBridgeEvents)

/-- The events of a chain, in order. -/
def decodeChainIntoEvents (chain : Chain) : List (Emitted × L1StandardBridgeEvents) :=
  ((chain.blocksAndReceipts.flatMap fun b =>
      (b.1.body.transactions.zip b.2).map fun t => (⟨b.1, t.1, t.2⟩ : Executed)).flatMap fun e =>
      (e.receipt.logs.filter fun log => OP_BRIDGES.contains log.address).map fun log =>
        (⟨e.block, e.tx, log⟩ : Emitted)).filterMap fun e =>
    (decodeRawLog e.log.data.topics e.log.data.data).map fun event => (e, event)

/-! ## Tables -/

/-- A row, without the hash of its transaction. -/
structure Row where
  blockNumber : UInt64
  contractAddress : Address
  «from» : Address
  «to» : Address
  amount : U256
  deriving DecidableEq

/-- Rows by the hash of their transaction. -/
abbrev Table := Assoc B256 Row

/-- Why processing stops. -/
inductive Error
  /-- An insert meets a row with the same transaction hash. -/
  | uniqueConstraint
  /-- A number does not fit an `INTEGER` column. -/
  | toSqlConversionFailure
  /-- A panic: "Chain should have at least one block". -/
  | emptyChain
  deriving DecidableEq

/-- Inserts a row. Integers are stored as `i64`. -/
def insert (table : Table) (txHash : B256) (row : Row) : Except Error Table :=
  if row.blockNumber.toNat < 2 ^ 63 then
    match table.insertNew txHash row with
    | some table => .ok table
    | none => .error .uniqueConstraint
  else .error .toSqlConversionFailure

/-- Deletes the row of a transaction, if any. -/
def delete (table : Table) (txHash : B256) : Table := table.erase txHash

/-- The tables, and the heights announced as finished. -/
structure BridgeState where
  deposits : Table
  withdrawals : Table
  finishedHeights : List (UInt64 × B256)

/-! ## Processing -/

/-- The row of a bridging event. -/
def row (e : Emitted) («from» «to» : Address) (amount : U256) : Row where
  blockNumber := e.block.number
  contractAddress := e.log.address
  «from» := «from»
  «to» := «to»
  amount := amount

/-- Deletes the row of an event of a reverted chain. -/
def revertEvent (s : BridgeState) (e : Emitted × L1StandardBridgeEvents) : BridgeState :=
  match e.2 with
  | .ethBridgeInitiated .. => { s with deposits := delete s.deposits e.1.tx.hash }
  | .ethBridgeFinalized .. => { s with withdrawals := delete s.withdrawals e.1.tx.hash }
  | .other => s

/-- Inserts the row of an event of a committed chain. -/
def commitEvent (e : Emitted × L1StandardBridgeEvents) (s : BridgeState) :
    Except Error Unit × BridgeState :=
  match e.2 with
  | .ethBridgeInitiated «from» «to» amount =>
    match insert s.deposits e.1.tx.hash (row e.1 «from» «to» amount) with
    | .ok deposits => (.ok (), { s with deposits := deposits })
    | .error err => (.error err, s)
  | .ethBridgeFinalized «from» «to» amount =>
    match insert s.withdrawals e.1.tx.hash (row e.1 «from» «to» amount) with
    | .ok withdrawals => (.ok (), { s with withdrawals := withdrawals })
    | .error err => (.error err, s)
  | .other => (.ok (), s)

/-- Deletes what the reverted chain of a notification, if any, brought. -/
def handleReverted (notification : ExExNotification) (s : BridgeState) : BridgeState :=
  match notification.revertedChain with
  | some chain => (decodeChainIntoEvents decodeRawLog chain).foldl revertEvent s
  | none => s

/-- Inserts what the committed chain of a notification, if any, brings, and
    announces its tip. -/
def handleCommitted (notification : ExExNotification) (s : BridgeState) :
    Except Error Unit × BridgeState :=
  match notification.committedChain with
  | none => (.ok (), s)
  | some chain =>
    match forEach commitEvent (decodeChainIntoEvents decodeRawLog chain) s with
    -- The rows inserted before the error stay.
    | (.error err, s) => (.error err, s)
    | (.ok (), s) =>
      match chain.tip with
      | none => (.error .emptyChain, s)
      | some tip =>
        (.ok (), { s with finishedHeights := s.finishedHeights ++ [(tip.number, tip.hash)] })

/-- Processes a notification. -/
def processNotification (notification : ExExNotification) (s : BridgeState) :
    Except Error Unit × BridgeState :=
  handleCommitted decodeRawLog notification (handleReverted decodeRawLog notification s)

/-- Processes notifications, up to the first error. -/
def opBridgeExex (notifications : List ExExNotification) (s : BridgeState) :
    Except Error Unit × BridgeState :=
  forEach (processNotification decodeRawLog) notifications s

/-! ## What a chain brings -/

/-- The logs of a chain, in order. -/
def emitted (chain : Chain) : List Emitted :=
  chain.blocksAndReceipts.flatMap fun b =>
    (b.1.body.transactions.zip b.2).flatMap fun t => t.2.logs.map fun log => ⟨b.1, t.1, log⟩

/-- The event of a log, if it is one of a bridge contract. -/
def bridgeEvent (e : Emitted) : Option L1StandardBridgeEvents :=
  if e.log.address ∈ OP_BRIDGES then decodeRawLog e.log.data.topics e.log.data.data else none

/-- The deposit of an event. -/
def deposit (e : Emitted × L1StandardBridgeEvents) : Option (B256 × Row) :=
  match e.2 with
  | .ethBridgeInitiated «from» «to» amount => some (e.1.tx.hash, row e.1 «from» «to» amount)
  | _ => none

/-- The withdrawal of an event. -/
def withdrawal (e : Emitted × L1StandardBridgeEvents) : Option (B256 × Row) :=
  match e.2 with
  | .ethBridgeFinalized «from» «to» amount => some (e.1.tx.hash, row e.1 «from» «to» amount)
  | _ => none

/-- The deposit of a log, if it is an `ETHBridgeInitiated` of a bridge contract. -/
def initiated (e : Emitted) : Option (B256 × Row) :=
  (bridgeEvent decodeRawLog e).bind fun event => deposit (e, event)

/-- The withdrawal of a log, if it is an `ETHBridgeFinalized` of a bridge contract. -/
def finalized (e : Emitted) : Option (B256 × Row) :=
  (bridgeEvent decodeRawLog e).bind fun event => withdrawal (e, event)

/-- The deposits of a chain. -/
def depositsOf (chain : Chain) : List (B256 × Row) :=
  (emitted chain).filterMap (initiated decodeRawLog)

/-- The withdrawals of a chain. -/
def withdrawalsOf (chain : Chain) : List (B256 × Row) :=
  (emitted chain).filterMap (finalized decodeRawLog)

/-- No transaction of the chain is in the tables. -/
def Fresh (chain : Chain) (s : BridgeState) : Prop :=
  ∀ block ∈ chain.blocksIter, ∀ tx ∈ block.body.transactions,
    s.deposits.lookup tx.hash = none ∧ s.withdrawals.lookup tx.hash = none

/-- Processing succeeded, and added one row for each event. -/
structure Recorded (chain : Chain) (s : BridgeState) (r : Except Error Unit × BridgeState) :
    Prop where
  ok : r.1 = .ok ()
  deposits : r.2.deposits.entries = s.deposits.entries ++ depositsOf decodeRawLog chain
  withdrawals : r.2.withdrawals.entries = s.withdrawals.entries ++ withdrawalsOf decodeRawLog chain

/-- No transaction brings two deposits or two withdrawals, and the numbers of the
    blocks that bring any fit their column. -/
structure Storable (chain : Chain) : Prop where
  deposits_nodup : ((depositsOf decodeRawLog chain).map Prod.fst).Nodup
  withdrawals_nodup : ((withdrawalsOf decodeRawLog chain).map Prod.fst).Nodup
  number_lt : ∀ r ∈ depositsOf decodeRawLog chain ++ withdrawalsOf decodeRawLog chain,
    r.2.blockNumber.toNat < 2 ^ 63
  ne_nil : chain.blocksIter ≠ []

variable {decodeRawLog}

/-- The three passes over a chain select the bridge events among its logs. -/
theorem decodeChainIntoEvents_eq (chain : Chain) :
    decodeChainIntoEvents decodeRawLog chain =
      (emitted chain).filterMap fun e => (bridgeEvent decodeRawLog e).map fun event => (e, event) := by
  rw [decodeChainIntoEvents, emitted]
  simp only [List.flatMap_assoc, List.flatMap_map, List.filterMap_flatMap, List.filterMap_map,
    List.filterMap_filter]
  -- Block by block, transaction by transaction, and log by log.
  congr 1
  funext b
  congr 1
  funext t
  congr 1
  funext log
  by_cases h : log.address ∈ OP_BRIDGES <;> simp [bridgeEvent, h]

theorem filterMap_deposit (chain : Chain) :
    (decodeChainIntoEvents decodeRawLog chain).filterMap deposit = depositsOf decodeRawLog chain := by
  rw [decodeChainIntoEvents_eq, List.filterMap_filterMap, depositsOf]
  congr 1
  funext e
  rw [initiated, Option.bind_map]
  rfl

theorem filterMap_withdrawal (chain : Chain) :
    (decodeChainIntoEvents decodeRawLog chain).filterMap withdrawal =
      withdrawalsOf decodeRawLog chain := by
  rw [decodeChainIntoEvents_eq, List.filterMap_filterMap, withdrawalsOf]
  congr 1
  funext e
  rw [finalized, Option.bind_map]
  rfl

/-- The logs of a chain are of its transactions. -/
theorem mem_transactions_of_mem_emitted {chain : Chain} {e : Emitted} (he : e ∈ emitted chain) :
    e.block ∈ chain.blocksIter ∧ e.tx ∈ e.block.body.transactions := by
  obtain ⟨b, hb, he⟩ := List.mem_flatMap.1 he
  obtain ⟨t, ht, he⟩ := List.mem_flatMap.1 he
  obtain ⟨log, _, rfl⟩ := List.mem_map.1 he
  exact ⟨(List.of_mem_zip hb).1, (List.of_mem_zip ht).1⟩

theorem fst_deposit {e : Emitted × L1StandardBridgeEvents} {r : B256 × Row}
    (h : deposit e = some r) : r.1 = e.1.tx.hash := by
  rw [deposit] at h
  split at h
  · rw [← Option.some.inj h]
  · cases h

theorem fst_withdrawal {e : Emitted × L1StandardBridgeEvents} {r : B256 × Row}
    (h : withdrawal e = some r) : r.1 = e.1.tx.hash := by
  rw [withdrawal] at h
  split at h
  · rw [← Option.some.inj h]
  · cases h

theorem Fresh.lookup_deposits {chain : Chain} {s : BridgeState} (h : Fresh chain s) {r : B256 × Row}
    (hr : r ∈ depositsOf decodeRawLog chain) : s.deposits.lookup r.1 = none := by
  obtain ⟨e, he, hd⟩ := List.mem_filterMap.1 hr
  obtain ⟨event, _, hd⟩ := Option.bind_eq_some_iff.1 hd
  obtain ⟨hb, ht⟩ := mem_transactions_of_mem_emitted he
  rw [fst_deposit hd]
  exact (h e.block hb e.tx ht).1

theorem Fresh.lookup_withdrawals {chain : Chain} {s : BridgeState} (h : Fresh chain s)
    {r : B256 × Row} (hr : r ∈ withdrawalsOf decodeRawLog chain) :
    s.withdrawals.lookup r.1 = none := by
  obtain ⟨e, he, hd⟩ := List.mem_filterMap.1 hr
  obtain ⟨event, _, hd⟩ := Option.bind_eq_some_iff.1 hd
  obtain ⟨hb, ht⟩ := mem_transactions_of_mem_emitted he
  rw [fst_withdrawal hd]
  exact (h e.block hb e.tx ht).2

/-! ## Inserting -/

/-- `table'` is `table` with some rows at its end, all of which fit. -/
def Appends (table table' : Table) (rows : List (B256 × Row)) : Prop :=
  (∀ r ∈ rows, r.2.blockNumber.toNat < 2 ^ 63) ∧ table'.entries = table.entries ++ rows

theorem appends_nil {table table' : Table} : Appends table table' [] ↔ table = table' := by
  refine ⟨fun h => Assoc.ext ?_, ?_⟩
  · rw [h.2, List.append_nil]
  · rintro rfl
    exact ⟨nofun, (List.append_nil _).symm⟩

/-- Rows are appended one after the other. -/
theorem appends_append {table table' : Table} {l l' : List (B256 × Row)} :
    Appends table table' (l ++ l') ↔ ∃ t, Appends table t l ∧ Appends t table' l' := by
  constructor
  · rintro ⟨hlt, h⟩
    rw [← List.append_assoc] at h
    -- The rows so far are a part of a table, so their hashes are distinct.
    have hnodup : ((table.entries ++ l).map Prod.fst).Nodup := by
      have := h ▸ table'.nodup
      rw [List.map_append] at this
      exact (List.nodup_append.1 this).1
    exact ⟨⟨_, hnodup⟩, ⟨fun r hr => hlt r (List.mem_append_left _ hr), rfl⟩,
      fun r hr => hlt r (List.mem_append_right _ hr), h⟩
  · rintro ⟨t, ⟨hlt, ht⟩, hlt', h⟩
    refine ⟨?_, by rw [h, ht, List.append_assoc]⟩
    intro r hr
    exact (List.mem_append.1 hr).elim (hlt r) (hlt' r)

theorem insert_eq_ok {table table' : Table} {txHash : B256} {r : Row} :
    insert table txHash r = .ok table' ↔ Appends table table' [(txHash, r)] := by
  rw [insert, Appends, List.forall_mem_singleton, ← Assoc.insertNew_eq_some_iff_entries]
  split_ifs with hlt
  · rw [and_iff_right hlt]
    rcases table.insertNew txHash r with _ | t
    · exact ⟨nofun, nofun⟩
    · exact ⟨fun h => by rw [Except.ok.inj h], fun h => by rw [Option.some.inj h]⟩
  · exact ⟨nofun, fun h => absurd h.1 hlt⟩

/-- All that inserting rows in both tables does. -/
def Inserts (s s' : BridgeState) (deposits withdrawals : List (B256 × Row)) : Prop :=
  Appends s.deposits s'.deposits deposits ∧ Appends s.withdrawals s'.withdrawals withdrawals ∧
    s.finishedHeights = s'.finishedHeights

theorem inserts_append {s s' : BridgeState} {d d' w w' : List (B256 × Row)} :
    Inserts s s' (d ++ d') (w ++ w') ↔ ∃ s₁, Inserts s s₁ d w ∧ Inserts s₁ s' d' w' := by
  rw [Inserts, appends_append, appends_append]
  constructor
  · rintro ⟨⟨td, hd, hd'⟩, ⟨tw, hw, hw'⟩, hf⟩
    exact ⟨⟨td, tw, s.finishedHeights⟩, ⟨hd, hw, rfl⟩, hd', hw', hf⟩
  · rintro ⟨s₁, ⟨hd, hw, hf⟩, hd', hw', hf'⟩
    exact ⟨⟨_, hd, hd'⟩, ⟨_, hw, hw'⟩, hf.trans hf'⟩

theorem inserts_nil {s s' : BridgeState} : Inserts s s' [] [] ↔ s = s' := by
  rw [Inserts, appends_nil, appends_nil]
  constructor
  · rintro ⟨hd, hw, hf⟩
    cases s; cases s'
    congr
  · rintro rfl
    exact ⟨rfl, rfl, rfl⟩

/-- An event inserts its deposit or its withdrawal, or nothing. -/
theorem commitEvent_eq_ok {e : Emitted × L1StandardBridgeEvents} {s s' : BridgeState} :
    commitEvent e s = (.ok (), s') ↔ Inserts s s' (deposit e).toList (withdrawal e).toList := by
  obtain ⟨e, event⟩ := e
  rcases event with ⟨f, t, amount⟩ | ⟨f, t, amount⟩ | _
  · simp only [commitEvent, deposit, withdrawal, Option.toList, Inserts, appends_nil]
    rw [← insert_eq_ok]
    rcases insert s.deposits e.tx.hash (row e f t amount) with _ | deposits
    · exact ⟨nofun, fun h => by cases h.1⟩
    · obtain ⟨d, w, hs⟩ := s'
      simp only [Prod.mk.injEq, true_and, BridgeState.mk.injEq, Except.ok.injEq]
  · simp only [commitEvent, deposit, withdrawal, Option.toList, Inserts, appends_nil]
    rw [← insert_eq_ok]
    rcases insert s.withdrawals e.tx.hash (row e f t amount) with _ | withdrawals
    · exact ⟨nofun, fun h => by cases h.2.1⟩
    · obtain ⟨d, w, hs⟩ := s'
      simp only [Prod.mk.injEq, true_and, BridgeState.mk.injEq, Except.ok.injEq]
  · rw [deposit, withdrawal, Option.toList, inserts_nil, commitEvent, Prod.mk.injEq, and_iff_right rfl]

/-- The loop over events inserts their deposits and their withdrawals. -/
theorem forEach_commitEvent_eq_ok {l : List (Emitted × L1StandardBridgeEvents)}
    {s s' : BridgeState} :
    forEach commitEvent l s = (.ok (), s') ↔
      Inserts s s' (l.filterMap deposit) (l.filterMap withdrawal) := by
  induction l generalizing s with
  | nil =>
    rw [List.filterMap_nil, List.filterMap_nil, inserts_nil, forEach, Prod.mk.injEq,
      and_iff_right rfl]
  | cons e l ih =>
    rw [List.filterMap_eq_flatMap_toList, List.filterMap_eq_flatMap_toList, List.flatMap_cons,
      List.flatMap_cons, ← List.filterMap_eq_flatMap_toList, ← List.filterMap_eq_flatMap_toList,
      inserts_append, forEach_cons_eq_ok]
    exact exists_congr fun s₁ => and_congr commitEvent_eq_ok ih

/-! ## Committed chains -/

/-- Rows of new transactions can be appended iff no two are of one transaction. -/
theorem exists_appends_iff {table : Table} {rows : List (B256 × Row)}
    (hnew : ∀ r ∈ rows, table.lookup r.1 = none) :
    (∃ table', Appends table table' rows) ↔
      (rows.map Prod.fst).Nodup ∧ ∀ r ∈ rows, r.2.blockNumber.toNat < 2 ^ 63 := by
  constructor
  · -- The rows are at the end of a table, whose hashes are distinct.
    rintro ⟨table', hlt, h⟩
    refine ⟨?_, hlt⟩
    have := h ▸ table'.nodup
    rw [List.map_append] at this
    exact (List.nodup_append.1 this).2.1
  · rintro ⟨hnodup, hlt⟩
    refine ⟨⟨table.entries ++ rows, ?_⟩, hlt, rfl⟩
    rw [List.map_append]
    refine List.nodup_append.2 ⟨table.nodup, hnodup, ?_⟩
    rintro k hk k' hk' rfl
    obtain ⟨r, hr, rfl⟩ := List.mem_map.1 hk'
    exact Assoc.lookup_eq_none_iff.1 (hnew r hr) hk

/-- Processing a chain that was committed succeeds iff its rows can be inserted
    and it has a block. -/
theorem processNotification_eq_ok {chain : Chain} {s s' : BridgeState} :
    processNotification decodeRawLog (.chainCommitted chain) s = (.ok (), s') ↔
      ∃ s₁ tip, Inserts s s₁ (depositsOf decodeRawLog chain) (withdrawalsOf decodeRawLog chain) ∧
        chain.tip = some tip ∧
        s' = { s₁ with finishedHeights := s₁.finishedHeights ++ [(tip.number, tip.hash)] } := by
  rw [← filterMap_deposit, ← filterMap_withdrawal]
  simp only [← forEach_commitEvent_eq_ok, processNotification, handleReverted, handleCommitted,
    ExExNotification.revertedChain, ExExNotification.committedChain]
  rcases forEach commitEvent (decodeChainIntoEvents decodeRawLog chain) s with ⟨_ | ⟨⟨⟩⟩, s₁⟩
  · constructor
    · intro h
      cases (Prod.mk.inj h).1
    · rintro ⟨_, _, h, -⟩
      cases (Prod.mk.inj h).1
  rcases chain.tip with _ | tip
  · constructor
    · intro h
      cases (Prod.mk.inj h).1
    · rintro ⟨_, _, -, htip, -⟩
      cases htip
  · constructor
    · intro h
      exact ⟨s₁, tip, rfl, rfl, (Prod.mk.inj h).2.symm⟩
    · rintro ⟨_, _, h, htip, rfl⟩
      obtain rfl := (Prod.mk.inj h).2
      obtain rfl := Option.some.inj htip
      rfl

theorem exists_tip_iff {chain : Chain} : (∃ tip, chain.tip = some tip) ↔ chain.blocksIter ≠ [] := by
  rw [← Option.isSome_iff_exists, Chain.tip, Option.isSome_iff_ne_none, ne_eq,
    List.getLast?_eq_none_iff]

/-- A committed chain with new transactions is processed, and each of its events
    has its row, iff no transaction brings two of a kind, the block numbers fit,
    and there is a block. -/
theorem processed_iff {chain : Chain} {s : BridgeState} (hfresh : Fresh chain s) :
    Recorded decodeRawLog chain s
        (processNotification decodeRawLog (.chainCommitted chain) s) ↔
      Storable decodeRawLog chain := by
  have hd : ∀ r ∈ depositsOf decodeRawLog chain, s.deposits.lookup r.1 = none :=
    fun _ => hfresh.lookup_deposits
  have hw : ∀ r ∈ withdrawalsOf decodeRawLog chain, s.withdrawals.lookup r.1 = none :=
    fun _ => hfresh.lookup_withdrawals
  constructor
  · intro hrec
    obtain ⟨s₁, tip, ⟨hd₁, hw₁, _⟩, htip, _⟩ :=
      processNotification_eq_ok.1 (Prod.ext hrec.ok rfl)
    obtain ⟨hdn, hdlt⟩ := (exists_appends_iff hd).1 ⟨_, hd₁⟩
    obtain ⟨hwn, hwlt⟩ := (exists_appends_iff hw).1 ⟨_, hw₁⟩
    exact ⟨hdn, hwn, fun r hr => (List.mem_append.1 hr).elim (hdlt r) (hwlt r),
      exists_tip_iff.1 ⟨tip, htip⟩⟩
  · -- Both kinds of rows can be appended, so the loop over the events does it.
    rintro ⟨hdn, hwn, hlt, hne⟩
    obtain ⟨deposits, hd₁⟩ :=
      (exists_appends_iff hd).2 ⟨hdn, fun r hr => hlt r (List.mem_append_left _ hr)⟩
    obtain ⟨withdrawals, hw₁⟩ :=
      (exists_appends_iff hw).2 ⟨hwn, fun r hr => hlt r (List.mem_append_right _ hr)⟩
    obtain ⟨tip, htip⟩ := exists_tip_iff.2 hne
    rw [processNotification_eq_ok.2
      ⟨⟨deposits, withdrawals, s.finishedHeights⟩, tip, ⟨hd₁, hw₁, rfl⟩, htip, rfl⟩]
    exact ⟨rfl, hd₁.2, hw₁.2⟩

end

/-! ### Bridging -/

/-- The topic of `ETHBridgeInitiated`. -/
def ETH_BRIDGE_INITIATED : B256 :=
  ⟨[0x28, 0x49, 0xb4, 0x30, 0x74, 0x09, 0x3a, 0x05, 0x39, 0x6b, 0x6f, 0x2a, 0x93, 0x7d, 0xee, 0x85,
    0x65, 0xb1, 0x5a, 0x48, 0xa7, 0xb3, 0xd4, 0xbf, 0xfb, 0x73, 0x2a, 0x50, 0x17, 0x38, 0x0a, 0xf5],
    rfl⟩

/-- The topic of `ETHBridgeFinalized`. -/
def ETH_BRIDGE_FINALIZED : B256 :=
  ⟨[0x31, 0xb2, 0x16, 0x6f, 0xf6, 0x04, 0xfc, 0x56, 0x72, 0xea, 0x5d, 0xf0, 0x8a, 0x78, 0x08, 0x1d,
    0x2b, 0xc6, 0xd7, 0x46, 0xca, 0xdc, 0xe8, 0x80, 0x74, 0x7f, 0x36, 0x43, 0xd8, 0x19, 0xe8, 0x3d],
    rfl⟩

/-- The address in a topic. -/
def topicAddress (topic : B256) : Address := (FixedBytes.tryFrom (topic.toVec.drop 12)).getD .zero

/-- The events of well-formed logs: the topics are the event and the two
    addresses, and the data starts with the amount. -/
def bridgeLogs (topics : List B256) (data : Bytes) : Option L1StandardBridgeEvents :=
  match topics with
  | [event, f, t] =>
    if event = ETH_BRIDGE_INITIATED then
      some (.ethBridgeInitiated (topicAddress f) (topicAddress t) (wordAt data 0))
    else if event = ETH_BRIDGE_FINALIZED then
      some (.ethBridgeFinalized (topicAddress f) (topicAddress t) (wordAt data 0))
    else none
  | _ => none

/-- The log of a bridging of `amount` without extra data. -/
def bridging (event : B256) (amount : U256) : Log where
  address := OP_BRIDGES.headD .zero
  data := ⟨[event, .zero, .zero],
    (B256.ofU256 amount).toVec ++ (B256.ofU256 64).toVec ++ (B256.ofU256 0).toVec⟩

/-- A transaction with the hash of a word. -/
def bridgeCall (hash : U256) : TransactionSigned where
  transaction := .legacy
    { chainId := some 1
      nonce := 0
      gasPrice := 0
      gasLimit := 1000000
      «to» := .call (OP_BRIDGES.headD .zero)
      value := 0
      input := [] }
  signature := ⟨0, 0, false⟩
  hash := .ofU256 hash

/-- A chain of one block, whose transactions emit the given logs. -/
def bridgeChain (logs : List (List Log)) : Chain :=
  .new [{ (default : RecoveredBlock) with
      body := ⟨(List.range logs.length).map fun i => bridgeCall (BitVec.ofNat 256 i), [], none⟩ }]
    { (default : Reth.ExecutionOutcome) with receipts := [logs.map fun l => ⟨.legacy, true, 0, l⟩] }
    default

/-- No rows. -/
def noRows : BridgeState := ⟨.empty, .empty, []⟩

/-- A deposit and a withdrawal, by one transaction each. -/
def oneEach : Chain :=
  bridgeChain [[bridging ETH_BRIDGE_INITIATED 7], [bridging ETH_BRIDGE_FINALIZED 8]]

/-- Two deposits by one transaction. -/
def batched : Chain :=
  bridgeChain [[bridging ETH_BRIDGE_INITIATED 7, bridging ETH_BRIDGE_INITIATED 8]]

theorem fresh_noRows (chain : Chain) : Fresh chain noRows := fun _ _ _ _ => ⟨rfl, rfl⟩

/-- The second of two deposits of a transaction is refused, and lost. -/
theorem second_deposit_refused :
    Fresh batched noRows ∧ (depositsOf bridgeLogs batched).map (fun r => r.2.amount) = [7, 8] ∧
      ∃ s, processNotification bridgeLogs (.chainCommitted batched) noRows =
          (.error .uniqueConstraint, s) ∧
        s.deposits.entries.map (fun r => r.2.amount) = [7] ∧
        ¬Recorded bridgeLogs batched noRows (.error .uniqueConstraint, s) :=
  ⟨fresh_noRows _, by decide +kernel, _, rfl, by decide +kernel, fun h => by cases h.ok⟩

/-- One of each by different transactions are both recorded. -/
theorem processed_oneEach :
    (depositsOf bridgeLogs oneEach).map (fun r => r.2.amount) = [7] ∧
      (withdrawalsOf bridgeLogs oneEach).map (fun r => r.2.amount) = [8] ∧
      Recorded bridgeLogs oneEach noRows
        (processNotification bridgeLogs (.chainCommitted oneEach) noRows) :=
  ⟨by decide +kernel, by decide +kernel, (processed_iff (fresh_noRows _)).2
    ⟨by decide +kernel, by decide +kernel, by decide +kernel, by decide +kernel⟩⟩

end ExEx.OpBridge
