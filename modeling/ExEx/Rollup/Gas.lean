import ExEx.Rollup.Execution
import Mathlib.Data.UInt

/-!
# The gas of a block

The transactions of a block are executed as long as the gas left in the block covers
their gas limits, and invalid ones are skipped. With an EVM that charges a transaction at
most its gas limit and is left alone by an invalid one (`Environment.Metered`), the gas
used so far stays within the gas limit of the block, so nothing wraps around
(`InRange`), and what is put out fits together (`Accounted`).

Skipped transactions can be left out (`withoutSkipped`): the output is the same, and so
is the EVM unless none is left. An input without transactions is not merged, one whose
transactions are all skipped is.
-/

namespace ExEx.Rollup

open Reth (TransactionSigned Header Receipt)

variable {σ ω δ : Type}

/-- The gas used by a transaction is within its gas limit, and an invalid one leaves the EVM
    as it is. -/
structure Environment.Metered (env : Environment σ ω δ) : Prop where
  gasUsed_le : ∀ evm transaction result state evm',
    env.transact evm transaction = (.ok (result, state), evm') →
      result.gasUsed ≤ transaction.inner.gasLimit
  skipped : ∀ evm transaction evm',
    env.transact evm transaction = (.error .transaction, evm') → evm' = evm

/-- The gas used by all the results together. -/
def totalGas (results : List ExecutionResult) : ℕ :=
  (results.map fun result => result.gasUsed.toNat).sum

theorem totalGas_concat (results : List ExecutionResult) (result : ExecutionResult) :
    totalGas (results ++ [result]) = totalGas results + result.gasUsed.toNat := by
  rw [totalGas, List.map_append, List.sum_append, List.map_singleton, List.sum_singleton, totalGas]

/-- What is put out so far: each executed transaction has its receipt and its result, and
    each receipt the gas of the results up to its own. -/
structure Accounted (header : Header) (p : Progress ω) : Prop where
  le_gasLimit : p.cumulativeGasUsed ≤ header.gasLimit
  cumulativeGasUsed : p.cumulativeGasUsed.toNat = totalGas p.results
  length_executedTxs : p.executedTxs.length = p.results.length
  length_receipts : p.receipts.length = p.results.length
  receipts : ∀ i (hi : i < p.receipts.length),
    p.receipts[i].cumulativeGasUsed.toNat = totalGas (p.results.take (i + 1))
  receipts_le : ∀ receipt ∈ p.receipts, receipt.cumulativeGasUsed ≤ header.gasLimit

/-- The arithmetic of a transaction stays in `u64`: there is no less gas in the block than
    used so far, and the gas it uses can be added. -/
structure InRange (env : Environment σ ω δ) (header : Header) (p : Progress ω)
    (transaction : Recovered) : Prop where
  sub : p.cumulativeGasUsed ≤ header.gasLimit
  add : ∀ result state evm q, env.transact p.evm transaction = (.ok (result, state), evm) →
    executeTransaction env header p transaction = .ok q →
      p.cumulativeGasUsed.toNat + result.gasUsed.toNat < UInt64.size

section

variable {env : Environment σ ω δ} {header : Header} {transactions : List Recovered}
  {transaction : Recovered} {evm : ω} {p q : Progress ω}

/-! ## One transaction -/

/-- The gas used by a transaction fits into what is left in the block. -/
theorem Environment.Metered.add_le (henv : env.Metered) (hp : p.cumulativeGasUsed ≤ header.gasLimit)
    {result : ExecutionResult} {state : δ}
    (hgas : transaction.inner.gasLimit ≤ header.gasLimit - p.cumulativeGasUsed)
    (htransact : env.transact p.evm transaction = (.ok (result, state), evm)) :
    p.cumulativeGasUsed.toNat + result.gasUsed.toNat ≤ header.gasLimit.toNat := by
  have hused := henv.gasUsed_le _ _ _ _ _ htransact
  rw [UInt64.le_iff_toNat_le] at hp hgas hused
  rw [UInt64.toNat_sub_of_le _ _ (UInt64.le_iff_toNat_le.2 hp)] at hgas
  omega

theorem InRange.of_le (henv : env.Metered) (hp : p.cumulativeGasUsed ≤ header.gasLimit) :
    InRange env header p transaction where
  sub := hp
  add _ _ _ _ htransact hq :=
    (henv.add_le hp (executeTransaction_ok hq).1 htransact).trans_lt header.gasLimit.toNat_lt

theorem Accounted.start (header : Header) (evm : ω) : Accounted header ⟨evm, 0, [], [], []⟩ where
  le_gasLimit := UInt64.zero_le
  cumulativeGasUsed := rfl
  length_executedTxs := rfl
  length_receipts := rfl
  receipts i hi := absurd hi (Nat.not_lt_zero i)
  receipts_le _ hreceipt := absurd hreceipt List.not_mem_nil

theorem Accounted.step (henv : env.Metered) (h : Accounted header p)
    (hq : executeTransaction env header p transaction = .ok q) :
    Accounted header q := by
  obtain ⟨hgas, ⟨evm, -, rfl⟩ | ⟨result, state, evm, htransact, rfl⟩⟩ := executeTransaction_ok hq
  · exact { h with }
  have hle := henv.add_le h.le_gasLimit hgas htransact
  have hadd : (p.cumulativeGasUsed + result.gasUsed).toNat =
      p.cumulativeGasUsed.toNat + result.gasUsed.toNat := by
    rw [UInt64.toNat_add, Nat.mod_eq_of_lt (hle.trans_lt header.gasLimit.toNat_lt)]
  have hsum : (p.cumulativeGasUsed + result.gasUsed).toNat = totalGas (p.results ++ [result]) := by
    rw [hadd, totalGas_concat, h.cumulativeGasUsed]
  have hlimit : p.cumulativeGasUsed + result.gasUsed ≤ header.gasLimit := by
    rw [UInt64.le_iff_toNat_le, hadd]
    exact hle
  refine ⟨hlimit, hsum, ?_, ?_, ?_, ?_⟩
  · rw [List.length_append, List.length_append, h.length_executedTxs]
    rfl
  · rw [List.length_append, List.length_append, h.length_receipts]
    rfl
  · intro i hi
    rw [List.length_append, List.length_singleton, Nat.lt_succ_iff_lt_or_eq] at hi
    rcases hi with hi | rfl
    · -- The receipts so far, and the results they add up, are as before.
      rw [List.getElem_append_left hi, h.receipts i hi,
        List.take_append_of_le_length (h.length_receipts ▸ hi)]
    · rw [List.getElem_concat_length rfl, List.take_of_length_le, ← hsum]
      rw [List.length_append, h.length_receipts]
      rfl
  · intro receipt hreceipt
    rcases List.mem_append.1 hreceipt with hreceipt | hreceipt
    · exact h.receipts_le receipt hreceipt
    · obtain rfl := List.mem_singleton.1 hreceipt
      exact hlimit

/-! ## All transactions -/

theorem Accounted.foldlM (henv : env.Metered)
    (hp : transactions.foldlM (executeTransaction env header) ⟨evm, 0, [], [], []⟩ = .ok p) :
    Accounted header p :=
  foldlM_invariant (P := Accounted header) (fun _ _ _ h hq => h.step henv hq) (.start header evm) hp

theorem Accounted.executeTransactions (henv : env.Metered)
    (hp : executeTransactions env evm header transactions = .ok p) :
    Accounted header p := by
  obtain ⟨p', hp', h⟩ := bind_eq_ok.1 hp
  have hacc := Accounted.foldlM henv hp'
  obtain rfl := Except.ok.inj h
  split_ifs
  · exact hacc
  · exact { hacc with }

/-- At each transaction the loop gets to, the arithmetic is in range. -/
theorem inRange (henv : env.Metered) (evm : ω) (header : Header) (transactions : List Recovered) :
    AtEach (fun before transaction => ∀ p,
      before.foldlM (executeTransaction env header) ⟨evm, 0, [], [], []⟩ = .ok p →
        InRange env header p transaction) transactions :=
  fun _ _ _ _ _ hp => .of_le henv (Accounted.foldlM henv hp).le_gasLimit

/-! ## Without the skipped transactions -/

variable (env header) in
/-- The transactions without those that are skipped. -/
def withoutSkipped (p : Progress ω) : List Recovered → List Recovered
  | [] => []
  | transaction :: transactions =>
    match executeTransaction env header p transaction with
    | .error _ => transaction :: transactions
    | .ok q =>
      match env.transact p.evm transaction with
      | (.error .transaction, _) => withoutSkipped q transactions
      | _ => transaction :: withoutSkipped q transactions

theorem withoutSkipped_cons_of_error {e : Error}
    (hq : executeTransaction env header p transaction = .error e) :
    withoutSkipped env header p (transaction :: transactions) = transaction :: transactions := by
  rw [withoutSkipped, hq]

theorem withoutSkipped_cons_of_skipped (hq : executeTransaction env header p transaction = .ok q)
    (htransact : env.transact p.evm transaction = (.error .transaction, evm)) :
    withoutSkipped env header p (transaction :: transactions) =
      withoutSkipped env header q transactions := by
  rw [withoutSkipped, hq, htransact]

theorem withoutSkipped_cons_of_ok (hq : executeTransaction env header p transaction = .ok q)
    {r : ExecutionResult × δ} (htransact : env.transact p.evm transaction = (.ok r, evm)) :
    withoutSkipped env header p (transaction :: transactions) =
      transaction :: withoutSkipped env header q transactions := by
  rw [withoutSkipped, hq, htransact]

theorem withoutSkipped_sublist :
    (withoutSkipped env header p transactions).Sublist transactions := by
  induction transactions generalizing p with
  | nil => exact .slnil
  | cons transaction transactions ih =>
    rcases hq : executeTransaction env header p transaction with _ | q
    · rw [withoutSkipped_cons_of_error hq]
    obtain ⟨-, ⟨evm, htransact, -⟩ | ⟨result, state, evm, htransact, -⟩⟩ := executeTransaction_ok hq
    · rw [withoutSkipped_cons_of_skipped hq htransact]
      exact ih.cons transaction
    · rw [withoutSkipped_cons_of_ok hq htransact]
      exact ih.cons_cons transaction

/-- What is executed is what is not skipped. -/
theorem executedTxs_foldlM (hq : transactions.foldlM (executeTransaction env header) p = .ok q) :
    q.executedTxs =
      p.executedTxs ++ (withoutSkipped env header p transactions).map Recovered.inner := by
  induction transactions generalizing p with
  | nil =>
    obtain rfl := Except.ok.inj hq
    exact (List.append_nil _).symm
  | cons transaction transactions ih =>
    rw [List.foldlM_cons] at hq
    obtain ⟨p', hp', hq⟩ := bind_eq_ok.1 hq
    obtain ⟨-, ⟨evm, htransact, rfl⟩ | ⟨result, state, evm, htransact, rfl⟩⟩ :=
      executeTransaction_ok hp'
    · rw [ih hq, withoutSkipped_cons_of_skipped hp' htransact]
    · rw [ih hq, withoutSkipped_cons_of_ok hp' htransact, List.map_cons, List.append_assoc,
        List.singleton_append]

/-- The skipped transactions make no difference to the others. -/
theorem foldlM_withoutSkipped (henv : env.Metered) (header : Header)
    (transactions : List Recovered) (p : Progress ω) :
    (withoutSkipped env header p transactions).foldlM (executeTransaction env header) p =
      transactions.foldlM (executeTransaction env header) p := by
  induction transactions generalizing p with
  | nil => rfl
  | cons transaction transactions ih =>
    rcases hq : executeTransaction env header p transaction with _ | q
    · rw [withoutSkipped_cons_of_error hq]
    obtain ⟨-, ⟨evm, htransact, rfl⟩ | ⟨result, state, evm, htransact, -⟩⟩ :=
      executeTransaction_ok hq
    · obtain rfl := henv.skipped _ _ _ htransact
      rw [withoutSkipped_cons_of_skipped hq htransact, List.foldlM_cons, hq]
      exact ih _
    · rw [withoutSkipped_cons_of_ok hq htransact, List.foldlM_cons, List.foldlM_cons, hq]
      exact ih q

end

/-! ## What execution keeps -/

/-- What is put out at the end. -/
def Progress.output (p : Progress ω) :
    List TransactionSigned × List Receipt × List ExecutionResult :=
  (p.executedTxs, p.receipts, p.results)

/-- Execution puts out the same for the transactions `kept` of a block, and leaves the same
    EVM unless none is kept: then nothing is executed, and what is left of an input with
    transactions is merged once. -/
structure SameWithout (env : Environment σ ω δ) (evm : ω) (header : Header)
    (transactions kept : List Recovered) : Prop where
  output : (executeTransactions env evm header kept).map Progress.output =
    (executeTransactions env evm header transactions).map Progress.output
  same : (kept = [] → transactions = []) →
    executeTransactions env evm header kept = executeTransactions env evm header transactions
  merged : kept = [] → transactions ≠ [] →
    executeTransactions env evm header kept = .ok ⟨evm, 0, [], [], []⟩ ∧
      executeTransactions env evm header transactions =
        .ok ⟨env.mergeTransitions evm, 0, [], [], []⟩

theorem sameWithout {env : Environment σ ω δ} (henv : env.Metered) (evm : ω) (header : Header)
    (transactions : List Recovered) :
    SameWithout env evm header transactions
      (withoutSkipped env header ⟨evm, 0, [], [], []⟩ transactions) := by
  have hsub : (withoutSkipped env header ⟨evm, 0, [], [], []⟩ transactions).Sublist transactions :=
    withoutSkipped_sublist
  have hfold := foldlM_withoutSkipped henv header transactions ⟨evm, 0, [], [], []⟩
  generalize withoutSkipped env header ⟨evm, 0, [], [], []⟩ transactions = kept at hsub hfold ⊢
  have hsame (h : kept = [] → transactions = []) : executeTransactions env evm header kept =
      executeTransactions env evm header transactions := by
    have hempty : kept.isEmpty = transactions.isEmpty := by
      rw [Bool.eq_iff_iff, List.isEmpty_iff, List.isEmpty_iff]
      exact ⟨h, fun hnil => List.sublist_nil.1 (hnil ▸ hsub)⟩
    rw [executeTransactions, executeTransactions, hfold, hempty]
  have hmerged (hkept : kept = []) (hne : transactions ≠ []) :
      executeTransactions env evm header transactions =
        .ok ⟨env.mergeTransitions evm, 0, [], [], []⟩ := by
    obtain rfl := hkept
    rw [executeTransactions, ← hfold, List.foldlM_nil, pure_bind,
      if_neg fun hempty => hne (List.isEmpty_iff.1 hempty)]
  refine ⟨?_, hsame, fun hkept hne => ⟨?_, hmerged hkept hne⟩⟩
  · by_cases h : kept = [] → transactions = []
    · rw [hsame h]
    · obtain ⟨hkept, hne⟩ := Classical.not_imp.1 h
      rw [hmerged hkept hne, hkept]
      rfl
  · rw [hkept]
    rfl

theorem executedTxs_sublist {env : Environment σ ω δ} {evm : ω} {header : Header}
    {transactions : List Recovered} {p : Progress ω}
    (hp : executeTransactions env evm header transactions = .ok p) :
    p.executedTxs.Sublist (transactions.map Recovered.inner) := by
  obtain ⟨p', hp', h⟩ := bind_eq_ok.1 hp
  have hexecuted : p'.executedTxs.Sublist (transactions.map Recovered.inner) := by
    rw [executedTxs_foldlM hp', List.nil_append]
    exact withoutSkipped_sublist.map Recovered.inner
  obtain rfl := Except.ok.inj h
  split_ifs <;> exact hexecuted

/-- Nothing wraps around at any transaction that is got to, what is put out fits together,
    and the skipped transactions make no difference to it. -/
theorem execution_accounted {env : Environment σ ω δ} (henv : env.Metered) (evm : ω)
    (header : Header) (transactions : List Recovered) :
    AtEach (fun before transaction => ∀ p,
        before.foldlM (executeTransaction env header) ⟨evm, 0, [], [], []⟩ = .ok p →
          InRange env header p transaction) transactions ∧
      (∀ p, executeTransactions env evm header transactions = .ok p →
        Accounted header p ∧ p.executedTxs.Sublist (transactions.map Recovered.inner)) ∧
      SameWithout env evm header transactions
        (withoutSkipped env header ⟨evm, 0, [], [], []⟩ transactions) :=
  ⟨inRange henv evm header transactions,
    fun _ hp => ⟨.executeTransactions henv hp, executedTxs_sublist hp⟩,
    sameWithout henv evm header transactions⟩

/-! ### A block of which nothing is left -/

/-- An EVM that counts the transactions committed since the last merge, and keeps the count
    of each merge. A transaction uses `21000` gas, and is invalid with a lower gas limit. -/
def counting : Environment Unit (ℕ × List ℕ) Unit :=
  { emptyBlocks Unit with
    evmForBlock := fun _ _ => .ok (0, [])
    transact := fun evm transaction =>
      (if transaction.inner.gasLimit < 21000 then .error .transaction
        else .ok (⟨21000, true, []⟩, ()), evm)
    commit := fun evm _ => (evm.1 + 1, evm.2)
    mergeTransitions := fun evm => (0, evm.2 ++ [evm.1])
    takeBundle := fun _ => ⟨⟨[], [], []⟩, ⟨[], []⟩⟩ }

theorem metered_counting : counting.Metered where
  gasUsed_le evm transaction result state evm' h := by
    obtain ⟨h, -⟩ := Prod.mk.inj h
    split_ifs at h with hgas
    obtain ⟨rfl, -⟩ := Prod.mk.inj (Except.ok.inj h)
    exact UInt64.not_lt.1 hgas
  skipped _ _ _ h := (Prod.mk.inj h).2.symm

/-- A transaction with a gas limit. -/
def limited (gasLimit : UInt64) : Recovered where
  inner :=
    { transaction := .legacy
        { chainId := some CHAIN_ID
          nonce := 0
          gasPrice := 1000000000
          gasLimit := gasLimit
          «to» := .call .zero
          value := 1
          input := [] }
      signature := ⟨0, 0, false⟩
      hash := .zero }
  signer := .zero

/-- The header of a block with gas for one transaction and a half. -/
def limitedHeader : Header := { (default : Header) with gasLimit := 31500 }

/-- An input whose only transaction is skipped is merged, that without it is not. -/
theorem skipped_merged : counting.Metered ∧ ∃ p q,
    executeTransactions counting (0, []) limitedHeader [limited 20000] = .ok p ∧
    withoutSkipped counting limitedHeader ⟨(0, []), 0, [], [], []⟩ [limited 20000] = [] ∧
    executeTransactions counting (0, []) limitedHeader [] = .ok q ∧ p.evm ≠ q.evm :=
  ⟨metered_counting, _, _, rfl, rfl, rfl, by decide⟩

theorem execution_accounted_limited :
    AtEach (fun before transaction => ∀ p,
        before.foldlM (executeTransaction counting limitedHeader) ⟨(0, []), 0, [], [], []⟩ = .ok p →
          InRange counting limitedHeader p transaction) [limited 21000, limited 10000] ∧
      (∀ p, executeTransactions counting (0, []) limitedHeader [limited 21000, limited 10000] =
          .ok p → Accounted limitedHeader p ∧
        p.executedTxs.Sublist ([limited 21000, limited 10000].map Recovered.inner)) ∧
      SameWithout counting (0, []) limitedHeader [limited 21000, limited 10000]
        (withoutSkipped counting limitedHeader ⟨(0, []), 0, [], [], []⟩
          [limited 21000, limited 10000]) :=
  execution_accounted metered_counting (0, []) limitedHeader [limited 21000, limited 10000]

end ExEx.Rollup
