import ExEx.Rollup.Driver
import ExEx.Rollup.Tip

/-!
# Notifications that fail

The driver handles the events of a chain one after another. Each block is
inserted or reverted in a transaction, and each deposit is one statement, but
there is no transaction around a chain: when an event fails, what the events
before it did to the tables stays.

What they did is read off the tables before the chain (`credits`): the balances
that deposits have changed, unless a block was inserted or reverted.

* `forEach_credits`: what a chain makes of the tables, up to the event that fails;
* `atomic_iff`: a chain that fails leaves the tables as they were exactly when no
  block was, and the deposits add up to zero on accounts that were there.
-/

namespace ExEx.Rollup

open Reth (RecoveredBlock)

/-! ## Changes of balances -/

/-- An account with a changed balance. -/
def credited (amount : U256) (account : Option AccountInfo) : AccountInfo :=
  { account.getD default with balance := (account.getD default).balance + amount }

/-- Changes the balance of an account. -/
def credit (t : Tables) (e : Address × U256) : Tables :=
  { t with account := t.account.put e.1 (credited e.2 (getAccount t e.1)) }

/-- All that is added to the balance of an account. -/
def total (a : Address) : List (Address × U256) → U256
  | [] => 0
  | e :: l => if e.1 = a then e.2 + total a l else total a l

/-- The accounts have rows, and what is added to each of them adds up to zero. -/
def Balanced (t : Tables) (l : List (Address × U256)) : Prop :=
  ∀ e ∈ l, (getAccount t e.1).isSome ∧ total e.1 l = 0

instance instDecidableBalanced (t : Tables) (l : List (Address × U256)) :
    Decidable (Balanced t l) := by
  unfold Balanced; infer_instance

theorem credited_credited (x y : U256) (account : Option AccountInfo) :
    credited y (some (credited x account)) = credited (x + y) account := by
  simp [credited, BitVec.add_assoc]

theorem credited_eq_self_iff {x : U256} {account : AccountInfo} :
    credited x (some account) = account ↔ x = 0 := by
  constructor
  · intro h
    have hbalance : account.balance + x = account.balance := congrArg AccountInfo.balance h
    simpa using hbalance
  · rintro rfl
    simp [credited]

theorem getAccount_credit (t : Tables) (e : Address × U256) (a : Address) :
    getAccount (credit t e) a =
      if a = e.1 then some (credited e.2 (getAccount t e.1)) else getAccount t a := by
  rw [credit, getAccount, Assoc.lookup_put]
  rfl

theorem total_of_not_mem {a : Address} {l : List (Address × U256)} (h : a ∉ l.map Prod.fst) :
    total a l = 0 := by
  induction l with
  | nil => rfl
  | cons e l ih =>
    rw [List.map_cons, List.mem_cons, not_or] at h
    rw [total, if_neg (Ne.symm h.1), ih h.2]

/-- The account of each address, once the balances have changed. -/
theorem getAccount_foldl_credit (l : List (Address × U256)) (t : Tables) (a : Address) :
    getAccount (l.foldl credit t) a =
      if a ∈ l.map Prod.fst then some (credited (total a l) (getAccount t a))
      else getAccount t a := by
  induction l generalizing t with
  | nil => rfl
  | cons e l ih =>
    rw [List.foldl_cons, ih, getAccount_credit, total, List.map_cons]
    by_cases hae : a = e.1
    · subst hae
      rw [if_pos rfl, if_pos rfl, if_pos List.mem_cons_self]
      split_ifs with hmem
      · rw [credited_credited]
      · simp [total_of_not_mem hmem]
    · rw [if_neg hae, if_neg (Ne.symm hae)]
      simp only [List.mem_cons, hae, false_or]

/-- Only the accounts change. -/
theorem foldl_credit_frame (l : List (Address × U256)) (t : Tables) :
    l.foldl credit t = { t with account := (l.foldl credit t).account } :=
  foldl_invariant (P := fun t' : Tables => t' = { t with account := t'.account })
    (fun t' e h => by rw [credit, h]) l rfl

theorem keys_foldl_credit {l : List (Address × U256)} {t : Tables}
    (h : ∀ e ∈ l, (getAccount t e.1).isSome) : (l.foldl credit t).account.keys = t.account.keys := by
  induction l generalizing t with
  | nil => rfl
  | cons e l ih =>
    have hkeys : (credit t e).account.keys = t.account.keys :=
      Assoc.keys_put_of_mem (h e List.mem_cons_self) _
    rw [List.foldl_cons, ih fun e' he' => ?_, hkeys]
    rw [getAccount, ← Assoc.mem_keys_iff, hkeys, Assoc.mem_keys_iff]
    exact h e' (List.mem_cons_of_mem _ he')

/-- Changes of balances leave the tables as they were exactly when they are balanced. -/
theorem foldl_credit_eq_iff {l : List (Address × U256)} {t : Tables} :
    l.foldl credit t = t ↔ Balanced t l := by
  constructor
  · intro h e he
    have haccount := getAccount_foldl_credit l t e.1
    rw [h, if_pos (List.mem_map_of_mem he)] at haccount
    rcases hrow : getAccount t e.1 with _ | account <;> rw [hrow] at haccount
    · cases haccount
    · exact ⟨rfl, credited_eq_self_iff.1 (Option.some.inj haccount).symm⟩
  · intro h
    have hkeys := keys_foldl_credit fun e he => (h e he).1
    have haccount : (l.foldl credit t).account = t.account := by
      refine Assoc.eq_of_lookup hkeys fun a => ?_
      have hlookup := getAccount_foldl_credit l t a
      split_ifs at hlookup with hmem
      · obtain ⟨e, he, rfl⟩ := List.mem_map.1 hmem
        obtain ⟨account, haccount⟩ := Option.isSome_iff_exists.1 (h e he).1
        rw [haccount, (h e he).2, credited_eq_self_iff.2 rfl] at hlookup
        exact hlookup.trans haccount.symm
      · exact hlookup
    rw [foldl_credit_frame, haccount]

/-! ## What events do -/

/-- What an event does to the tables it finds. -/
inductive Effect
  /-- It fails, and leaves them as they were. -/
  | fails
  | nothing
  | credits (e : Address × U256)
  /-- A block is inserted or reverted. -/
  | blocks

/-- What has been added to balances when a chain ends or fails, unless a block was
    inserted or reverted before. -/
def credits (effect : Event → Tables → Effect) : List Event → Tables → Option (List (Address × U256))
  | [], _ => some []
  | e :: events, t =>
    match effect e t with
    | .fails => some []
    | .nothing => credits effect events t
    | .credits c => (credits effect events (credit t c)).map (c :: ·)
    | .blocks => none

/-- No block is inserted or reverted, and the changes of balances are balanced. -/
def Harmless (effect : Event → Tables → Effect) (events : List Event) (t : Tables) : Prop :=
  ∃ l, credits effect events t = some l ∧ Balanced t l

section

variable {ω δ : Type} (env : Environment Tables ω δ) (contract : RollupContract)

/-- What committing an event does. -/
def commitEffect (e : Event) (t : Tables) : Effect :=
  match request contract e with
  | .error _ => .fails
  | .ok .nothing => .nothing
  | .ok (.block header blockData blockDataHash) =>
    match executeBlock database env t e.1 header blockData blockDataHash with
    | .error _ => .nothing
    | .ok (block, bundle, _, _) =>
      match insertBlockWithBundle t block bundle with
      | .error _ => .fails
      | .ok _ => .blocks
  | .ok (.account a amount) => .credits (a, amount)

/-- What reverting an event does. -/
def revertEffect (e : Event) (t : Tables) : Effect :=
  match request contract e with
  | .error _ => .fails
  | .ok .nothing => .nothing
  | .ok (.block header _ _) =>
    match revertTipBlock t header.sequence with
    | .error _ => .fails
    | .ok _ => .blocks
  | .ok (.account a amount) => if (getAccount t a).isSome then .credits (a, -amount) else .fails

end

/-- A handler of events does what `effect` says, on tables that meet `I`, and the
    blocks it inserts or reverts count in `count`. -/
structure Does (f : Event → Tables → Except Error Unit × Tables) (effect : Event → Tables → Effect)
    (I : Tables → Prop) (count : Tables → ℤ) : Prop where
  step : ∀ e t, I t →
    match effect e t with
    | .fails => ∃ err, f e t = (.error err, t)
    | .nothing => f e t = (.ok (), t)
    | .credits c => f e t = (.ok (), credit t c)
    | .blocks => ∃ t', f e t = (.ok (), t') ∧ I t' ∧ count t < count t'
  credit : ∀ t c, I t → I (credit t c) ∧ count (credit t c) = count t

namespace Does

variable {f : Event → Tables → Except Error Unit × Tables} {effect : Event → Tables → Effect}
  {I : Tables → Prop} {count : Tables → ℤ}

/-- What a chain makes of the tables: the changes of balances, or more blocks
    counted. -/
theorem forEach_credits (h : Does f effect I count) (events : List Event) {t : Tables} (ht : I t) :
    count t ≤ count (forEach f events t).2 ∧
      match credits effect events t with
      | some l => (forEach f events t).2 = l.foldl Rollup.credit t
      | none => count t < count (forEach f events t).2 := by
  induction events generalizing t with
  | nil => exact ⟨le_rfl, rfl⟩
  | cons e events ih =>
    have hstep := h.step e t ht
    rw [forEach, credits]
    rcases heffect : effect e t with _ | _ | c | _ <;> simp only [heffect] at hstep ⊢
    · obtain ⟨err, hf⟩ := hstep
      rw [hf]
      exact ⟨le_rfl, rfl⟩
    · rw [hstep]
      exact ih ht
    · obtain ⟨hI, hcount⟩ := h.credit t c ht
      obtain ⟨hle, hrest⟩ := ih hI
      rw [hstep, ← hcount]
      refine ⟨hle, ?_⟩
      rcases hcredits : credits effect events (Rollup.credit t c) with _ | l <;>
        rw [hcredits] at hrest
      · exact hrest
      · exact hrest
    · -- The blocks counted are more, and never fewer again.
      obtain ⟨t', hf, hI, hlt⟩ := hstep
      rw [hf]
      have hlt' := hlt.trans_le (ih hI).1
      exact ⟨hlt'.le, hlt'⟩

/-- A chain leaves the tables as they were exactly when it is harmless. -/
theorem forEach_eq_iff (h : Does f effect I count) {events : List Event} {t : Tables} (ht : I t) :
    (forEach f events t).2 = t ↔ Harmless effect events t := by
  have hcredits := (h.forEach_credits events ht).2
  rw [Harmless]
  rcases hl : credits effect events t with _ | l <;> rw [hl] at hcredits
  · constructor
    · intro heq
      rw [heq] at hcredits
      exact absurd hcredits (lt_irrefl _)
    · rintro ⟨l, hl, _⟩
      cases hl
  · rw [hcredits, foldl_credit_eq_iff]
    simp

end Does

section

variable {ω δ : Type} (env : Environment Tables ω δ) (contract : RollupContract)

/-- Committing counts the blocks there are. -/
theorem commitEvent_does :
    Does (commitEvent database env contract) (commitEffect env contract) (fun _ => True)
      fun t => t.block.entries.length where
  step e t _ := by
    rw [commitEvent_eq, commitEffect]
    rcases request contract e with err | _ | ⟨header, blockData, blockDataHash⟩ | ⟨a, amount⟩
    · exact ⟨err, rfl⟩
    · rfl
    · simp only [submitBlock]
      rcases executeBlock database env t e.1 header blockData blockDataHash with
        err | ⟨block, bundle, receipts, results⟩
      · rfl
      · simp only [transaction, database]
        rcases hins : insertBlockWithBundle t block bundle with err | t'
        · exact ⟨err, rfl⟩
        · obtain ⟨hfree, hblock⟩ := block_insertBlockWithBundle hins
          refine ⟨t', rfl, trivial, ?_⟩
          rw [hblock, Assoc.entries_put_of_lookup_none hfree]
          simp
    · rfl
  credit t c _ := ⟨trivial, rfl⟩

/-- A block that is reverted was there. -/
theorem length_revertTipBlock {t t' : Tables} (ht : KeyedByNumber t) {x : U256}
    (h : revertTipBlock t x = .ok t') :
    KeyedByNumber t' ∧ t'.block.entries.length < t.block.entries.length := by
  have hr := reverted h
  obtain ⟨n, hn, rfl, -⟩ := (checkTip_iff ht).1 hr.tip
  obtain ⟨e, he, rfl⟩ := List.mem_map.1 hn
  refine ⟨(ht.erase (U256.ofU64 e.2.number).toText).congr hr.block_eq, ?_⟩
  rw [hr.block_eq, toText_ofU64]
  refine List.length_filter_lt_length_iff_exists.2 ⟨e, he, ?_⟩
  simp [ht e he]

/-- Reverting counts the blocks that are gone. -/
theorem revertEvent_does :
    Does (revertEvent database contract) (revertEffect contract) KeyedByNumber
      fun t => -(t.block.entries.length : ℤ) where
  step e t ht := by
    rw [revertEvent_eq, revertEffect]
    rcases request contract e with err | _ | ⟨header, blockData, blockDataHash⟩ | ⟨a, amount⟩
    · exact ⟨err, rfl⟩
    · rfl
    · simp only [transaction, database]
      rcases hrev : revertTipBlock t header.sequence with err | t'
      · exact ⟨err, rfl⟩
      · obtain ⟨ht', hlt⟩ := length_revertTipBlock ht hrev
        refine ⟨t', rfl, ht', ?_⟩
        omega
    · simp only [transaction, database, upsertAccount, withdraw]
      rcases haccount : getAccount t a with _ | account
      · exact ⟨_, rfl⟩
      · have hcredited : credited (-amount) (getAccount t a) =
            { account with balance := account.balance - amount } := by
          rw [haccount, BitVec.sub_eq_add_neg]
          rfl
        rw [if_pos Option.isSome_some]
        simp only [credit, hcredited]
        rfl
  credit t c ht := ⟨ht, rfl⟩

/-- When a chain fails to be committed or reverted, the tables are as they were
    exactly if, up to the event that fails, no block was inserted or reverted, and
    the deposits add up to zero on accounts that were there. -/
theorem atomic_iff {chain : Reth.Chain} {t : Tables} (ht : KeyedByNumber t) :
    (∀ err t', commit database env contract chain t = (.error err, t') →
      (t' = t ↔
        Harmless (commitEffect env contract) (decodeChainIntoRollupEvents contract chain) t)) ∧
    ∀ err t', revert database contract chain t = (.error err, t') →
      (t' = t ↔
        Harmless (revertEffect contract) (decodeChainIntoRollupEvents contract chain).reverse t) := by
  constructor
  · intro err t' h
    rw [← (commitEvent_does env contract).forEach_eq_iff trivial, ← commit, h]
  · intro err t' h
    rw [← (revertEvent_does contract).forEach_eq_iff ht, ← revert, h]

end

/-! ### A deposit, and a submission through another contract -/

/-- The topic of `Enter`. -/
def ENTER : B256 :=
  ⟨[0xe8, 0xa7, 0xca, 0x81, 0x55, 0xe1, 0x4d, 0x9c, 0xc8, 0xfa, 0xee, 0xce, 0xc5, 0x8a, 0x97, 0x26,
    0x8d, 0xa9, 0x5a, 0x23, 0x27, 0xcc, 0x89, 0x25, 0x93, 0x74, 0x8c, 0xe3, 0x7c, 0xc6, 0x95, 0x3f],
    rfl⟩

/-- The address in a topic. -/
def topicAddress (topic : B256) : Address :=
  ⟨topic.toVec.drop 12, by rw [List.length_drop, topic.length_toVec]⟩

/-- The interface of the contract on deposits and submissions. Calldata of another
    contract is not one of its calls. -/
def deposits : RollupContract where
  decodeRawLog topics data :=
    match topics with
    | [topic, token, rollupRecipient] =>
      if topic = ENTER then
        some (.enter (wordAt data 0) (topicAddress token) (topicAddress rollupRecipient)
          (wordAt data 32))
      else submissions.decodeRawLog topics data
    | _ => none
  abiDecode input :=
    if input.take 4 = SUBMIT_BLOCK then submissions.abiDecode input
    else .error (.eyre "unknown selector")

/-- The receipt of a deposit. -/
def depositReceiptOf (amount : U256) : Reth.Receipt where
  txType := .legacy
  success := true
  cumulativeGasUsed := 0
  logs := [⟨ROLLUP_CONTRACT_ADDRESS,
    ⟨[ENTER, .zero, .ofU256 1],
      (B256.ofU256 (.ofU64 CHAIN_ID)).toVec ++ (B256.ofU256 amount).toVec⟩⟩]

/-- The receipt of a deposit of one wei. -/
def depositReceipt : Reth.Receipt := depositReceiptOf 1

/-- A transaction to another contract. -/
def otherContract : Reth.TransactionSigned where
  transaction := .legacy
    { chainId := some 17000
      nonce := 0
      gasPrice := 0
      gasLimit := 1000000
      «to» := .call .zero
      value := 1
      input := [] }
  signature := ⟨0, 0, false⟩
  hash := .zero

/-- The chain of one block with transactions to other contracts, which call the rollup
    contract. -/
def chainOfReceipts (receipts : List Reth.Receipt) : Reth.Chain :=
  .new [{ (default : RecoveredBlock) with body := ⟨receipts.map fun _ => otherContract, [], none⟩ }]
    { (default : Reth.ExecutionOutcome) with receipts := [receipts] } default

/-- What becomes of empty tables. -/
def committed (receipts : List Reth.Receipt) : Except Error Unit × Tables :=
  commit database (emptyBlocks Tables) deposits (chainOfReceipts receipts) .empty

/-- The deposit of a chain that fails stays. -/
theorem deposit_stays :
    ¬∀ chain t err t', commit database (emptyBlocks Tables) deposits chain t = (.error err, t') →
      t' = t := by
  intro h
  have hfails : (committed [depositReceipt, submissionReceipt]).1 =
      .error (.eyre "unknown selector") := by
    decide +kernel
  have haccount : (getAccount (committed [depositReceipt, submissionReceipt]).2
      (topicAddress (.ofU256 1))).isSome := by
    decide +kernel
  have hempty : (committed [depositReceipt, submissionReceipt]).2 = .empty :=
    h _ _ _ _ (Prod.ext hfails rfl)
  rw [hempty] at haccount
  cases haccount

/-- Tables with a block, and the account that the deposits are for. -/
def funded : Tables :=
  { Tables.empty with
    block := .ofList [(numberText 0, default)]
    account := .ofList [(topicAddress (.ofU256 1), { (default : AccountInfo) with balance := 5 })] }

/-- Two deposits that come to nothing, and a submission through another contract. -/
def cancelling : List Reth.Receipt :=
  [depositReceiptOf 1, depositReceiptOf (-1), submissionReceipt]

/-- A chain that fails at its submission, behind two deposits that come to nothing, leaves the
    tables as they were, whether it is committed or, its events last first, reverted. -/
theorem submission_fails :
    (∃ err, commit database (emptyBlocks Tables) deposits (chainOfReceipts cancelling) funded =
      (.error err, funded)) ∧
    ∃ err, revert database deposits (chainOfReceipts cancelling.reverse) funded =
      (.error err, funded) := by
  have hkeyed : KeyedByNumber funded := by decide
  constructor
  · have hfails : (commit database (emptyBlocks Tables) deposits (chainOfReceipts cancelling)
        funded).1 = .error (.eyre "unknown selector") := by
      decide +kernel
    have hcredits : credits (commitEffect (emptyBlocks Tables) deposits)
        (decodeChainIntoRollupEvents deposits (chainOfReceipts cancelling)) funded =
          some [(topicAddress (.ofU256 1), 1), (topicAddress (.ofU256 1), -1)] := by
      decide +kernel
    exact ⟨_, Prod.ext hfails (((atomic_iff (emptyBlocks Tables) deposits hkeyed).1 _ _
      (Prod.ext hfails rfl)).2 ⟨_, hcredits, by decide +kernel⟩)⟩
  · have hfails : (revert database deposits (chainOfReceipts cancelling.reverse) funded).1 =
        .error (.eyre "unknown selector") := by
      decide +kernel
    have hcredits : credits (revertEffect deposits) (decodeChainIntoRollupEvents deposits
        (chainOfReceipts cancelling.reverse)).reverse funded =
          some [(topicAddress (.ofU256 1), -1), (topicAddress (.ofU256 1), 1)] := by
      decide +kernel
    exact ⟨_, Prod.ext hfails (((atomic_iff (emptyBlocks Tables) deposits hkeyed).2 _ _
      (Prod.ext hfails rfl)).2 ⟨_, hcredits, by decide +kernel⟩)⟩

end ExEx.Rollup
