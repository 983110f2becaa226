import ExEx.Rollup.BaseFee
import ExEx.Rollup.Gas
import ExEx.Rollup.Linked

/-!
# Stored blocks

What can be told of every block in the tables, on every run of the driver, also when it
stops at an error.

* `stored_blocks`: a block is as the execution of a submission makes it (`Stored`): its
  transactions are of the rollup, with the senders recovered from them, and its base fee
  is between those of a chain that falls as fast as it can and of one that does not fall;
* `headers_pinned`: on runs that do not misread the tip, the hash of a stored block tells
  the headers of all blocks under it. It does not tell their transactions, to which no
  header refers.
-/

namespace ExEx.Rollup

open Reth (RecoveredBlock TransactionSigned Header ExExNotification)

variable {ω δ : Type}

section

variable {σ : Type} {store : BlockStore σ} {env : Environment σ ω δ}

/-! ## What execution produces -/

/-- The transactions of a submission are for the rollup. -/
theorem chainId_decodeTransactions {tx : TransactionSigned} {blockData : Bytes}
    {blockDataHash : B256} {transactions : List Recovered}
    (h : decodeTransactions env tx blockData blockDataHash = .ok transactions) :
    ∀ transaction ∈ transactions, transaction.inner.chainId = some CHAIN_ID := by
  obtain ⟨raw, -, h⟩ := bind_eq_ok.1 h
  split_ifs at h
  obtain ⟨raws, -, h⟩ := bind_eq_ok.1 h
  refine foldlM_invariant (P := fun transactions : List Recovered =>
    ∀ transaction ∈ transactions, transaction.inner.chainId = some CHAIN_ID) ?_
    (fun _ hmem => absurd hmem List.not_mem_nil) h
  intro transactions raw transactions' htransactions hraw
  obtain ⟨decoded, -, hraw⟩ := bind_eq_ok.1 hraw
  split_ifs at hraw with hid
  · obtain ⟨signer, -, hraw⟩ := bind_eq_ok.1 hraw
    obtain rfl := Except.ok.inj hraw
    intro transaction hmem
    rcases List.mem_append.1 hmem with hmem | hmem
    · exact htransactions transaction hmem
    · obtain rfl := List.mem_singleton.1 hmem
      exact hid
  · obtain rfl := Except.ok.inj hraw
    exact htransactions

/-- A block that execution produces. -/
structure Produced (env : Environment σ ω δ) (block : RecoveredBlock) : Prop where
  hash_eq : block.hash = env.hashSlow block.header
  senders_eq : block.body.transactions.mapM env.tryRecover = .ok block.senders
  chainId : ∀ transaction ∈ block.body.transactions, transaction.chainId = some CHAIN_ID

theorem produced_executeBlock {s : σ} {tx : TransactionSigned} {header : BlockHeader}
    {blockData : Bytes} {blockDataHash : B256}
    {out : RecoveredBlock × BundleState × List Reth.Receipt × List ExecutionResult}
    (h : executeBlock store env s tx header blockData blockDataHash = .ok out) :
    Produced env out.1 := by
  rw [executeBlock] at h
  split_ifs at h
  obtain ⟨_, -, h⟩ := bind_eq_ok.1 h
  obtain ⟨transactions, hdecoded, h⟩ := bind_eq_ok.1 h
  obtain ⟨evm, -, h⟩ := bind_eq_ok.1 h
  obtain ⟨p, hp, h⟩ := bind_eq_ok.1 h
  obtain ⟨block, hblock, h⟩ := bind_eq_ok.1 h
  obtain rfl := Except.ok.inj h
  obtain ⟨senders, hsenders, hblock⟩ := bind_eq_ok.1 hblock
  obtain rfl := Except.ok.inj hblock
  refine ⟨rfl, hsenders, ?_⟩
  intro transaction hmem
  -- The executed transactions are some of the decoded ones.
  obtain ⟨decoded, hdec, rfl⟩ := List.mem_map.1 ((executedTxs_sublist hp).subset hmem)
  exact chainId_decodeTransactions hdecoded decoded hdec

end

/-! ## Every block in the tables -/

/-- Every block in the tables has a property, under its text. -/
def AllStored (P : Text → RecoveredBlock → Prop) (t : Tables) : Prop :=
  ∀ text block, t.block.lookup text = some block → P text block

section

variable {P : Text → RecoveredBlock → Prop} {env : Environment Tables ω δ}
  {contract : RollupContract} {t t' : Tables}

theorem AllStored.congr (h : AllStored P t) (hb : t'.block = t.block) : AllStored P t' := by
  rw [AllStored, hb]
  exact h

theorem allStored_empty : AllStored P .empty := fun _ _ h => by cases h

theorem AllStored.transaction {call : Tables → Except Error Tables} (h : AllStored P t)
    (hcall : ∀ t', call t = .ok t' → AllStored P t') : AllStored P (transaction call t).2 := by
  rw [Rollup.transaction]
  rcases hc : call t with e | t'
  · exact h
  · exact hcall t' hc

theorem AllStored.upsertAccount {a : Address} {f : Option AccountInfo → Except Error AccountInfo}
    (h : AllStored P t) (hok : upsertAccount t a f = .ok t') : AllStored P t' := by
  obtain ⟨account, -, hok⟩ := bind_eq_ok.1 hok
  obtain rfl := Except.ok.inj hok
  exact h.congr rfl

theorem AllStored.revertTipBlock {n : U256} (h : AllStored P t)
    (hrev : revertTipBlock t n = .ok t') : AllStored P t' := by
  intro text block hblock
  rw [(reverted hrev).block_eq, Assoc.lookup_erase] at hblock
  split_ifs at hblock
  exact h text block hblock

theorem AllStored.insertBlockWithBundle {block : RecoveredBlock} {bundle : BundleState}
    (h : AllStored P t) (hblock : P (numberText block.number) block)
    (hins : insertBlockWithBundle t block bundle = .ok t') : AllStored P t' := by
  intro text other hother
  rw [(block_insertBlockWithBundle hins).2, Assoc.lookup_put] at hother
  split_ifs at hother with htext
  · obtain rfl := Option.some.inj hother
    rw [htext]
    exact hblock
  · exact h text other hother

variable (env P) in
/-- Blocks executed on tables whose blocks have a property have it too. -/
def ExecutionKeeps : Prop :=
  ∀ t tx header blockData blockDataHash block bundle receipts results, AllStored P t →
    executeBlock database env t tx header blockData blockDataHash =
      .ok (block, bundle, receipts, results) → P (numberText block.number) block

theorem AllStored.run (h : AllStored P t) (hexec : ExecutionKeeps P env) (a : Action) :
    AllStored P (a.run env contract t).2 := by
  cases a with
  | commit e =>
    rw [Action.run, commitEvent_eq]
    rcases request contract e with err | _ | ⟨header, blockData, blockDataHash⟩ | ⟨a, amount⟩
    · exact h
    · exact h
    · simp only [submitBlock]
      rcases hblock : executeBlock database env t e.1 header blockData blockDataHash with
        err | ⟨block, bundle, receipts, results⟩
      · exact h
      · exact h.transaction fun t' hins =>
          h.insertBlockWithBundle (hexec t e.1 _ _ _ _ _ _ _ h hblock) hins
    · exact h.transaction fun t' hok => h.upsertAccount hok
  | revert e =>
    rw [Action.run, revertEvent_eq]
    rcases request contract e with err | _ | ⟨header, blockData, blockDataHash⟩ | ⟨a, amount⟩
    · exact h
    · exact h
    · exact h.transaction fun t' hrev => h.revertTipBlock hrev
    · exact h.transaction fun t' hok => h.upsertAccount hok

/-- What execution keeps, all blocks have on every run of the driver. -/
theorem allStored (hexec : ExecutionKeeps P env) {s : Following}
    (hs : (following env contract).Reachable s) : AllStored P s.db := by
  refine hs.invariant (I := fun s => AllStored P s.db) ?_ ?_
  · intro s h
    obtain rfl : s = ⟨.empty, []⟩ := h
    exact allStored_empty
  intro s e s' _ h _ hstep
  cases e with
  | notified notification =>
    obtain ⟨-, rfl⟩ := hstep
    exact h
  | acted =>
    obtain rfl : s' = s.act env contract := hstep
    obtain ⟨t, queue⟩ := s
    rw [Following.act]
    cases queue with
    | nil => exact h
    | cons a queue =>
      -- Whether the action fails or not, the database is what it leaves.
      have ha : AllStored P (a.run env contract t).2 := h.run hexec a
      simp only
      rcases hrun : a.run env contract t with ⟨e | ⟨⟨⟩⟩, t'⟩ <;> rw [hrun] at ha <;> exact ha

end

/-! ## What is stored -/

section

variable {env : Environment Tables ω δ} {contract : RollupContract} {t : Tables}

/-- The base fee is between the lowest one a block of its number can have, and the first. -/
def FeeInRange (header : Header) : Prop :=
  ∃ fee, header.baseFeePerGas = some fee ∧
    BaseFeeParams.ethereum.fallen^[header.number.toNat] INITIAL_BASE_FEE.toNat ≤ fee.toNat ∧
    fee ≤ INITIAL_BASE_FEE

variable (env) in
/-- A block as it is stored under a text. -/
structure Stored (text : Text) (block : RecoveredBlock) : Prop where
  text_eq : text = numberText block.number
  produced : Produced env block
  gasUsed_eq : block.header.gasUsed = 0
  fee : FeeInRange block.header

/-- Block `0` has the first base fee. -/
theorem initialBaseFee_constructHeader {header : BlockHeader} {out : Header}
    (h : constructHeader database env t header = .ok out) (h0 : out.number = 0) :
    out.baseFeePerGas = some INITIAL_BASE_FEE := by
  simp only [constructHeader] at h
  obtain ⟨n, -, h⟩ := bind_eq_ok.1 h
  obtain ⟨timestamp, -, h⟩ := bind_eq_ok.1 h
  obtain ⟨fee, hfee, h⟩ := bind_eq_ok.1 h
  obtain ⟨gasLimit, -, h⟩ := bind_eq_ok.1 h
  obtain rfl := Except.ok.inj h
  have hlondon : londonTransitionsAtBlock n = true := decide_eq_true h0
  simp only [baseFeePerGas, if_pos hlondon] at hfee
  exact congrArg some (Except.ok.inj hfee).symm

/-- The base fee of a block is in range when that of its parent is. -/
theorem feeInRange (h : AllStored (Stored env) t) (henv : NextBaseFee env) {header : BlockHeader}
    {out : Header} (hout : constructHeader database env t header = .ok out) : FeeInRange out := by
  obtain ⟨-, fee, hfee, hparent⟩ := baseFee_constructHeader hout
  by_cases h0 : out.number = 0
  · exact ⟨INITIAL_BASE_FEE, initialBaseFee_constructHeader hout h0, by rw [h0]; exact le_rfl,
      UInt64.le_refl _⟩
  refine ⟨fee, hfee, ?_⟩
  obtain ⟨parent, hp, hnext⟩ := hparent h0
  rw [getBlock, toText_ofU64] at hp
  have hstored := h _ _ hp
  have hnumber : parent.number = out.number - 1 := (numberText_injective hstored.text_eq).symm
  obtain ⟨parentFee, hparentFee, hlow, hhigh⟩ := hstored.fee
  obtain ⟨hfall, hle⟩ := BaseFeeParams.nextBaseFee_zero (p := .ethereum)
    parent.header.gasLimit.toNat parentFee.toNat
  -- Without gas used, the fee does not rise, and is a `u64`.
  rw [henv _ _ parentFee hparentFee (by
    rw [hstored.gasUsed_eq]
    exact hle.trans_lt parentFee.toNat_lt), hstored.gasUsed_eq] at hnext
  have hvalue : fee.toNat =
      BaseFeeParams.ethereum.nextBaseFee 0 parent.header.gasLimit.toNat parentFee.toNat := by
    rw [← Option.some.inj hnext]
    exact UInt64.toNat_ofNat_of_lt' (hle.trans_lt parentFee.toNat_lt)
  have hsucc : out.number.toNat = parent.header.number.toNat + 1 := by
    have hsub := toNat_sub_one h0
    rw [← hnumber] at hsub
    have hpos : out.number.toNat ≠ 0 := fun hz => h0 (UInt64.toNat_inj.1 hz)
    change _ = parent.number.toNat + 1
    omega
  constructor
  · rw [hsucc, Function.iterate_succ_apply', hvalue]
    exact (BaseFeeParams.fallen_mono hlow).trans hfall
  · rw [UInt64.le_iff_toNat_le] at hhigh ⊢
    exact (hvalue.le.trans hle).trans hhigh

theorem executionKeeps_stored (henv : NextBaseFee env) : ExecutionKeeps (Stored env) env := by
  intro t tx header blockData blockDataHash block bundle receipts results h hexec
  have hheader := (executeBlock_ok hexec).2
  exact ⟨rfl, produced_executeBlock hexec, (baseFee_constructHeader hheader).1,
    feeInRange h henv hheader⟩

/-- On every run of the driver, every block in the tables is as execution makes it, and its
    base fee has not fallen under 7 wei. -/
theorem stored_blocks (henv : NextBaseFee env) {s : Following}
    (hs : (following env contract).Reachable s) {text : Text} {block : RecoveredBlock}
    (hblock : s.db.block.lookup text = some block) :
    Stored env text block ∧ ∃ fee, block.header.baseFeePerGas = some fee ∧ 7 ≤ fee := by
  have hstored := allStored (executionKeeps_stored henv) hs text block hblock
  obtain ⟨fee, hfee, hlow, -⟩ := hstored.fee
  exact ⟨hstored, fee, hfee, UInt64.le_iff_toNat_le.2
    ((BaseFeeParams.le_iterate_fallen (by decide) (by decide) _).trans hlow)⟩

/-! ### Two submissions -/

/-- The chain that submits the blocks `0` and `1`. -/
def twoSubmissions : Reth.Chain :=
  chainOf [submission (.ofU64 CHAIN_ID) 0, submission (.ofU64 CHAIN_ID) 1]

/-- The driver once it is told of these, and has taken some actions. -/
def submitting (n : ℕ) : Following :=
  followed transfers submissions
    (.notified (.chainCommitted twoSubmissions) :: List.replicate n .acted)

theorem reachableBy_submitting : (following transfers submissions).ReachableBy
    (fun s e => e = .acted → ∀ a ∈ s.queue.head?, ¬MisreadsTip submissions s.db a)
    (submitting 2) :=
  reachableBy_followed (by decide +kernel)

theorem stored_submitting : ∃ block, (submitting 2).db.block.lookup (numberText 1) = some block ∧
    Stored transfers (numberText 1) block ∧
    ∃ fee, block.header.baseFeePerGas = some fee ∧ 7 ≤ fee :=
  ⟨_, rfl, stored_blocks nextBaseFee_transfers reachableBy_submitting.reachable rfl⟩

end

/-! ## What a hash tells -/

section

variable {env : Environment Tables ω δ} {contract : RollupContract} {t t' : Tables}

/-- The hash of a block does not depend on the transactions submitted with its header. -/
theorem hash_executeBlock {tx tx' : TransactionSigned} {header : BlockHeader}
    {blockData blockData' : Bytes} {blockDataHash blockDataHash' : B256}
    {out out' : RecoveredBlock × BundleState × List Reth.Receipt × List ExecutionResult}
    (h : executeBlock database env t tx header blockData blockDataHash = .ok out)
    (h' : executeBlock database env t tx' header blockData' blockDataHash' = .ok out') :
    out.1.hash = out'.1.hash := by
  have hheader := (executeBlock_ok h).2.symm.trans (executeBlock_ok h').2
  rw [(produced_executeBlock h).hash_eq, (produced_executeBlock h').hash_eq, Except.ok.inj hheader]

/-- Blocks stored under one number that have the same hash have the same header. -/
def CollisionFree (env : Environment Tables ω δ) (t t' : Tables) : Prop :=
  ∀ n block block', t.block.lookup (numberText n) = some block →
    t'.block.lookup (numberText n) = some block' →
    env.hashSlow block.header = env.hashSlow block'.header → block.header = block'.header

/-- A chain whose blocks are linked by the hashes of their headers. -/
structure HashLinked (env : Environment Tables ω δ) (t : Tables) : Prop where
  chain : Linked t
  hash_eq : AllStored (fun _ block => block.hash = env.hashSlow block.header) t

/-- From equal hashes down, the headers of two chains are equal. -/
theorem HashLinked.headers_eq (h : HashLinked env t) (h' : HashLinked env t')
    (hfree : CollisionFree env t t') {n : UInt64} {block block' : RecoveredBlock}
    (hb : t.block.lookup (numberText n) = some block)
    (hb' : t'.block.lookup (numberText n) = some block') (heq : block.hash = block'.hash)
    {m : UInt64} (hm : m ≤ n) :
    ∃ b b', t.block.lookup (numberText m) = some b ∧ t'.block.lookup (numberText m) = some b' ∧
      b.header = b'.header := by
  -- By induction on the number, as the parent hash is part of the header.
  induction hk : n.toNat generalizing n block block' with
  | zero =>
    have hheader := hfree n block block' hb hb' (by
      rw [← h.hash_eq _ _ hb, ← h'.hash_eq _ _ hb', heq])
    rw [UInt64.le_iff_toNat_le] at hm
    obtain rfl : m = n := UInt64.toNat_inj.1 (by omega)
    exact ⟨block, block', hb, hb', hheader⟩
  | succ k ih =>
    have hheader := hfree n block block' hb hb' (by
      rw [← h.hash_eq _ _ hb, ← h'.hash_eq _ _ hb', heq])
    by_cases hmn : m = n
    · exact ⟨block, block', hmn ▸ hb, hmn ▸ hb', hheader⟩
    have h0 : n ≠ 0 := by
      rintro rfl
      cases hk
    have hne : m.toNat ≠ n.toNat := fun he => hmn (UInt64.toNat_inj.1 he)
    have hpred := toNat_sub_one h0
    obtain ⟨parent, hp, hhash⟩ := h.chain.parent n block hb h0
    obtain ⟨parent', hp', hhash'⟩ := h'.chain.parent n block' hb' h0
    rw [UInt64.le_iff_toNat_le] at hm
    exact ih hp hp' (by rw [← hhash, ← hhash', hheader])
      (UInt64.le_iff_toNat_le.2 (by omega)) (by omega)

/-- On runs that do not misread the tip, blocks are linked by the hashes of their headers. -/
theorem hashLinked {s : Following}
    (hs : (following env contract).ReachableBy
      (fun s e => e = .acted → ∀ a ∈ s.queue.head?, ¬MisreadsTip contract s.db a) s) :
    HashLinked env s.db := by
  refine ⟨hs.invariant (I := fun s => Linked s.db) ?_ ?_, allStored ?_ hs.reachable⟩
  · intro s h
    obtain rfl : s = ⟨.empty, []⟩ := h
    exact linked_empty
  · intro s e s' _ h hc hstep
    cases e with
    | notified notification =>
      obtain ⟨-, rfl⟩ := hstep
      exact h
    | acted =>
      obtain rfl : s' = s.act env contract := hstep
      exact h.act (hc rfl)
  · intro t tx header blockData blockDataHash block bundle receipts results _ hexec
    exact (produced_executeBlock hexec).hash_eq

/-- Two runs that do not misread the tip, and store blocks with the same hash under a number,
    store the same headers up to there, unless two headers under one number collide. -/
theorem headers_pinned {s s' : Following}
    (hs : (following env contract).ReachableBy
      (fun s e => e = .acted → ∀ a ∈ s.queue.head?, ¬MisreadsTip contract s.db a) s)
    (hs' : (following env contract).ReachableBy
      (fun s e => e = .acted → ∀ a ∈ s.queue.head?, ¬MisreadsTip contract s.db a) s')
    (hfree : CollisionFree env s.db s'.db) {n : UInt64} {block block' : RecoveredBlock}
    (hb : s.db.block.lookup (numberText n) = some block)
    (hb' : s'.db.block.lookup (numberText n) = some block') (heq : block.hash = block'.hash) :
    ∀ m ≤ n, ∃ b b', s.db.block.lookup (numberText m) = some b ∧
      s'.db.block.lookup (numberText m) = some b' ∧ b.header = b'.header :=
  fun _ hm => (hashLinked hs).headers_eq (hashLinked hs') hfree hb hb' heq hm

/-! ### Two chains -/

/-- The chain that submits block `1` with a transfer. -/
def transferSubmission : Reth.Chain :=
  .new [{ (default : RecoveredBlock) with
      body := ⟨[submissionOf 0x01 (.ofU64 CHAIN_ID) 1], [], none⟩ }]
    { (default : Reth.ExecutionOutcome) with
      receipts := [[{ submissionReceipt with
        logs := [⟨ROLLUP_CONTRACT_ADDRESS,
          ⟨[BLOCK_SUBMITTED, .zero, .zero], (.zero : B256).toVec⟩⟩] }]] }
    default

/-- The driver once block `1` is reverted, and another block `1` committed, with a transfer. -/
def resubmitting : Following :=
  followed transfers submissions
    [.notified (.chainCommitted twoSubmissions), .acted, .acted,
      .notified (.chainReorged (chainOf [submission (.ofU64 CHAIN_ID) 1]) transferSubmission),
      .acted, .acted]

theorem reachableBy_resubmitting : (following transfers submissions).ReachableBy
    (fun s e => e = .acted → ∀ a ∈ s.queue.head?, ¬MisreadsTip submissions s.db a)
    resubmitting :=
  reachableBy_followed (by decide +kernel)

theorem collisionFree_of_entries (h : ∀ e ∈ t.block.entries, ∀ e' ∈ t'.block.entries,
    e.1 = e'.1 → e.2.header = e'.2.header) : CollisionFree env t t' := fun _ _ _ hb hb' _ =>
  h _ (Assoc.mem_entries_iff.2 hb) _ (Assoc.mem_entries_iff.2 hb') rfl

/-- The two blocks `1` have the same hash, so the chains have the same headers, but not the same
    blocks. -/
theorem headers_pinned_resubmitting :
    (∀ m ≤ 1, ∃ b b', (submitting 2).db.block.lookup (numberText m) = some b ∧
      resubmitting.db.block.lookup (numberText m) = some b' ∧ b.header = b'.header) ∧
    (submitting 2).db.block.lookup (numberText 1) ≠
      resubmitting.db.block.lookup (numberText 1) := by
  refine ⟨?_, by decide +kernel⟩
  have hstored : ∃ b ∈ (submitting 2).db.block.lookup (numberText 1),
      ∃ b' ∈ resubmitting.db.block.lookup (numberText 1), b.hash = b'.hash := by
    decide +kernel
  obtain ⟨b, hb, b', hb', heq⟩ := hstored
  exact headers_pinned reachableBy_submitting reachableBy_resubmitting
    (collisionFree_of_entries (by decide +kernel)) hb hb' heq

end

end ExEx.Rollup
