import ExEx.Rollup.Driver
import ExEx.Rollup.Insert

/-!
# The driver over an ideal store

The driver on its own, over a store that keeps every block with the world before
it: reverting the tip puts that world back. Then reverting a chain undoes
committing it, up to accounts that come back empty instead of absent, exactly if
the commit skipped no submitted block (`revert_commit_iff`): reverting takes a
block off for every submission, whether it was executed or not.

* `revertEvent_undoes`, `revert_undoes`: when every submission was executed,
  events are undone one by one, in reverse;
* `length_commitEvents`, `length_revertEvents`: the number of blocks tells how
  many were.
-/

namespace ExEx.Rollup

open Reth (RecoveredBlock TransactionSigned Chain)
open Assoc (lastWrite)

/-- Accounts and slots. -/
structure World where
  account : Address → Option AccountInfo
  slot : Address → B256 → U256

/-- The world after a block. -/
def World.apply (w : World) (b : BundleState) : World where
  account a := (lastWrite b.changeset.accounts a).getD (w.account a)
  slot a k := (b.written a k).getD (if b.wipes a then 0 else w.slot a k)

/-- The world, and the blocks from the tip down, each with the world before it. -/
structure IdealStore where
  world : World
  blocks : List (RecoveredBlock × World)

/-- A store in which blocks are stacked. -/
def idealStore : BlockStore IdealStore where
  getBlock s number := (s.blocks.find? fun b => U256.ofU64 b.1.number = number).map Prod.fst
  insertBlockWithBundle s block bundle :=
    if s.blocks.any fun b => b.1.number = block.number then .error .uniqueConstraint
    else .ok ⟨s.world.apply bundle, (block, s.world) :: s.blocks⟩
  revertTipBlock s blockNumber :=
    match s.blocks with
    | [] => .error .queryReturnedNoRows
    | (block, world) :: blocks =>
      if blockNumber ≠ .ofU64 block.number then .error (.notTip blockNumber (.ofU64 block.number))
      else .ok ⟨world, blocks⟩
  upsertAccount s address f := do
    let account ← f (s.world.account address)
    .ok { s with world := { s.world with
      account := Function.update s.world.account address (some account) } }

/-- The stored blocks, the slots and the accounts are the same, an absent account
    counting as the empty one. -/
structure Restored (s t : IdealStore) : Prop where
  blocks : t.blocks.map Prod.fst = s.blocks.map Prod.fst
  slot : t.world.slot = s.world.slot
  account : ∀ a, (t.world.account a).getD default = (s.world.account a).getD default

section

variable {ω δ : Type} (env : Environment IdealStore ω δ) (contract : RollupContract)

/-- An event, if it submits a block, submits one that executes. -/
def Executes (s : IdealStore) (e : Event) : Prop :=
  ∀ blockDataHash header blockData, e.2 = .blockSubmitted blockDataHash →
    contract.abiDecode e.1.input = .ok (.submitBlock header blockData) →
    ∃ out, executeBlock idealStore env s e.1 header blockData blockDataHash = .ok out

/-- Every block submitted executes on the store it finds: none is skipped. -/
def ExecutesAll : List Event → IdealStore → Prop
  | [], _ => True
  | e :: l, s => Executes env contract s e ∧ ExecutesAll l (commitEvent idealStore env contract e s).2

variable {env contract}

/-! ## Undoing -/

/-- `t` is `s`, but for accounts absent in `s` that are empty in `t`. -/
structure Undone (s t : IdealStore) : Prop where
  blocks : t.blocks = s.blocks
  slot : t.world.slot = s.world.slot
  account : ∀ a, t.world.account a = s.world.account a ∨
    s.world.account a = none ∧ t.world.account a = some default

theorem Undone.refl (s : IdealStore) : Undone s s := ⟨rfl, rfl, fun _ => .inl rfl⟩

theorem Undone.restored {s t : IdealStore} (h : Undone s t) : Restored s t :=
  ⟨by rw [h.blocks], h.slot, fun a => by
    obtain ha | ⟨hs, ht⟩ := h.account a
    · rw [ha]
    · rw [hs, ht]; rfl⟩

theorem executes_iff {s : IdealStore} {e : Event} :
    Executes env contract s e ↔ ∀ header blockData blockDataHash,
      request contract e = .ok (.block header blockData blockDataHash) →
      ∃ out, executeBlock idealStore env s e.1 header blockData blockDataHash = .ok out := by
  constructor
  · intro h header blockData blockDataHash hreq
    obtain ⟨he, hcall⟩ := (request_eq_block_iff contract).1 hreq
    exact h blockDataHash header blockData he hcall
  · intro h blockDataHash header blockData he hcall
    exact h header blockData blockDataHash ((request_eq_block_iff contract).2 ⟨he, hcall⟩)

/-- Inserting a block stacks it on the world before it. -/
theorem insertBlockWithBundle_eq_ok {s s' : IdealStore} {block : RecoveredBlock} {bundle : BundleState}
    (h : idealStore.insertBlockWithBundle s block bundle = .ok s') :
    s' = ⟨s.world.apply bundle, (block, s.world) :: s.blocks⟩ := by
  simp only [idealStore] at h
  split_ifs at h
  exact (Except.ok.inj h).symm

/-- A deposit is undone by the withdrawal of the same amount. -/
theorem withdraw_deposit {a : Address} {amount : U256} {s s' t : IdealStore}
    (h : idealStore.upsertAccount s a (deposit amount) = .ok s') (ht : Undone s' t) :
    ∃ t', idealStore.upsertAccount t a (withdraw amount) = .ok t' ∧ Undone s t' := by
  obtain rfl := Except.ok.inj h
  -- The account is there after the deposit, so it is not one that only counts as empty.
  have ha : t.world.account a = some { (s.world.account a).getD default with
      balance := ((s.world.account a).getD default).balance + amount } := by
    obtain h | ⟨h, -⟩ := ht.account a
    · exact h.trans (Function.update_self _ _ _)
    · exact absurd h (by simp)
  have hupsert : idealStore.upsertAccount t a (withdraw amount) = .ok { t with world :=
      { t.world with account :=
        Function.update t.world.account a (some ((s.world.account a).getD default)) } } := by
    simp only [idealStore, ha, withdraw, BitVec.add_sub_cancel]
    rfl
  refine ⟨_, hupsert, ht.blocks, ht.slot, ?_⟩
  intro a'
  simp only
  -- The account itself may be empty now and was absent before; others are as in `t`.
  by_cases haa : a' = a
  · subst haa
    rw [Function.update_self]
    cases s.world.account a' with
    | none => exact .inr ⟨rfl, rfl⟩
    | some account => exact .inl rfl
  · rw [Function.update_of_ne haa]
    have h := ht.account a'
    simp only [Function.update_of_ne haa] at h
    exact h

/-- Reverting an event undoes committing it, if its block was not skipped. -/
theorem revertEvent_undoes {e : Event} {s s' t : IdealStore} (hx : Executes env contract s e)
    (h : commitEvent idealStore env contract e s = (.ok (), s')) (ht : Undone s' t) :
    ∃ t', revertEvent idealStore contract e t = (.ok (), t') ∧ Undone s t' := by
  rw [commitEvent_eq] at h
  rw [revertEvent_eq]
  rcases hreq : request contract e with err | _ | ⟨header, blockData, blockDataHash⟩ | ⟨a, amount⟩ <;>
    simp only [hreq] at h ⊢
  · cases h
  · obtain rfl := (Prod.mk.inj h).2
    exact ⟨t, rfl, ht⟩
  · obtain ⟨⟨block, bundle, receipts, results⟩, hout⟩ := executes_iff.1 hx _ _ _ hreq
    have hseq := (constructHeader_ok (executeBlock_ok hout).2).1
    rw [submitBlock, hout] at h
    obtain rfl := insertBlockWithBundle_eq_ok (transaction_eq_ok.1 h)
    -- The block is the tip, and the world below it is the one it was executed on.
    refine ⟨⟨s.world, s.blocks⟩, transaction_eq_ok.2 ?_, .refl s⟩
    simp only [idealStore, ht.blocks]
    rw [hseq, if_neg (not_not.2 rfl)]
  · obtain ⟨t', ht', hu⟩ := withdraw_deposit (transaction_eq_ok.1 h) ht
    exact ⟨t', transaction_eq_ok.2 ht', hu⟩

/-- Reverting events in reverse undoes committing them, if no block was skipped. -/
theorem revert_undoes {l : List Event} {s s' t : IdealStore} (hx : ExecutesAll env contract l s)
    (h : forEach (commitEvent idealStore env contract) l s = (.ok (), s')) (ht : Undone s' t) :
    ∃ t', forEach (revertEvent idealStore contract) l.reverse t = (.ok (), t') ∧ Undone s t' := by
  induction l generalizing s with
  | nil => cases h; exact ⟨t, rfl, ht⟩
  | cons e l ih =>
    obtain ⟨s₁, h₁, h⟩ := forEach_cons_eq_ok.1 h
    rw [ExecutesAll, h₁] at hx
    obtain ⟨t₁, hr, ht₁⟩ := ih hx.2 h
    obtain ⟨t', hr', ht'⟩ := revertEvent_undoes hx.1 h₁ ht₁
    refine ⟨t', ?_, ht'⟩
    rw [List.reverse_cons, forEach_append_eq_ok]
    exact ⟨t₁, hr, forEach_cons_eq_ok.2 ⟨t', hr', rfl⟩⟩

/-! ## Counting -/

/-- How many blocks an event submits. -/
def submits (contract : RollupContract) (e : Event) : ℕ :=
  match e.2 with
  | .blockSubmitted _ =>
    match contract.abiDecode e.1.input with
    | .ok (.submitBlock _ _) => 1
    | _ => 0
  | _ => 0

theorem submits_eq (e : Event) :
    submits contract e =
      match request contract e with
      | .ok (.block _ _ _) => 1
      | _ => 0 := by
  obtain ⟨tx, event⟩ := e
  rw [submits, request]
  rcases event with blockDataHash | ⟨id, token, a, amount⟩ | _
  · simp only
    rcases contract.abiDecode tx.input with err | ⟨header, blockData⟩ | _ <;> rfl
  · simp only
    split_ifs <;> rfl
  · rfl

theorem blocks_upsertAccount {s s' : IdealStore} {a : Address}
    {f : Option AccountInfo → Except Error AccountInfo}
    (h : idealStore.upsertAccount s a f = .ok s') : s'.blocks = s.blocks := by
  obtain ⟨account, -, hs⟩ := bind_eq_ok.1 h
  rw [← Except.ok.inj hs]

/-- Committing an event stacks the blocks it submits, unless they are skipped. -/
theorem length_commitEvent {e : Event} {s s' : IdealStore}
    (h : commitEvent idealStore env contract e s = (.ok (), s')) :
    s'.blocks.length ≤ s.blocks.length + submits contract e ∧
      (s'.blocks.length = s.blocks.length + submits contract e → Executes env contract s e) := by
  rw [commitEvent_eq] at h
  rw [submits_eq, executes_iff]
  rcases hreq : request contract e with err | _ | ⟨header, blockData, blockDataHash⟩ | ⟨a, amount⟩ <;>
    simp only [hreq] at h ⊢
  · cases h
  · obtain rfl := (Prod.mk.inj h).2
    exact ⟨le_rfl, fun _ _ _ _ hreq => by cases hreq⟩
  · rw [submitBlock] at h
    rcases hout : executeBlock idealStore env s e.1 header blockData blockDataHash with
      err | ⟨block, bundle, receipts, results⟩ <;> rw [hout] at h
    · -- The block is skipped, and there is one less than submitted.
      obtain rfl := (Prod.mk.inj h).2
      exact ⟨Nat.le_succ _, fun hlen => absurd hlen (Nat.succ_ne_self _).symm⟩
    · obtain rfl := insertBlockWithBundle_eq_ok (transaction_eq_ok.1 h)
      refine ⟨le_rfl, ?_⟩
      intro _ header' blockData' hash' hreq
      obtain ⟨rfl, rfl, rfl⟩ := Request.block.inj (Except.ok.inj hreq)
      exact ⟨_, hout⟩
  · rw [blocks_upsertAccount (transaction_eq_ok.1 h)]
    exact ⟨le_rfl, fun _ _ _ _ hreq => by cases hreq⟩

theorem length_commitEvents {l : List Event} {s s' : IdealStore}
    (h : forEach (commitEvent idealStore env contract) l s = (.ok (), s')) :
    s'.blocks.length ≤ s.blocks.length + (l.map (submits contract)).sum ∧
      (s'.blocks.length = s.blocks.length + (l.map (submits contract)).sum →
        ExecutesAll env contract l s) := by
  induction l generalizing s with
  | nil => cases h; exact ⟨le_rfl, fun _ => trivial⟩
  | cons e l ih =>
    obtain ⟨s₁, h₁, h⟩ := forEach_cons_eq_ok.1 h
    obtain ⟨hle₁, heq₁⟩ := length_commitEvent h₁
    obtain ⟨hle, heq⟩ := ih h
    rw [List.map_cons, List.sum_cons]
    refine ⟨by omega, ?_⟩
    intro hlen
    rw [ExecutesAll, h₁]
    exact ⟨heq₁ (by omega), heq (by omega)⟩

/-- Reverting an event takes off as many blocks as it submits. -/
theorem length_revertEvent {e : Event} {s s' : IdealStore}
    (h : revertEvent idealStore contract e s = (.ok (), s')) :
    s.blocks.length = s'.blocks.length + submits contract e := by
  rw [revertEvent_eq] at h
  rw [submits_eq]
  rcases hreq : request contract e with err | _ | ⟨header, blockData, blockDataHash⟩ | ⟨a, amount⟩ <;>
    simp only [hreq] at h ⊢
  · cases h
  · rw [(Prod.mk.inj h).2, add_zero]
  · simp only [transaction_eq_ok, idealStore] at h
    split at h
    · cases h
    · next block world blocks hblocks =>
      split_ifs at h
      obtain rfl := Except.ok.inj h
      rw [hblocks, List.length_cons]
  · rw [blocks_upsertAccount (transaction_eq_ok.1 h), add_zero]

theorem length_revertEvents {l : List Event} {s s' : IdealStore}
    (h : forEach (revertEvent idealStore contract) l s = (.ok (), s')) :
    s.blocks.length = s'.blocks.length + (l.map (submits contract)).sum := by
  induction l generalizing s with
  | nil => cases h; rfl
  | cons e l ih =>
    obtain ⟨s₁, h₁, h⟩ := forEach_cons_eq_ok.1 h
    rw [length_revertEvent h₁, ih h, List.map_cons, List.sum_cons]
    omega

/-! ## Reverting a commit -/

/-- After a successful commit of a chain, reverting the chain succeeds and gives
    the store back exactly if the commit skipped no submitted block. -/
theorem revert_commit_iff {chain : Chain} {s s' : IdealStore}
    (h : commit idealStore env contract chain s = (.ok (), s')) :
    (∃ t, revert idealStore contract chain s' = (.ok (), t) ∧ Restored s t) ↔
      ExecutesAll env contract (decodeChainIntoRollupEvents contract chain) s := by
  constructor
  · rintro ⟨t, hrev, ht⟩
    -- As many blocks were taken off as are submitted, so as many were stacked.
    have hlen : t.blocks.length = s.blocks.length := by
      rw [← List.length_map (f := Prod.fst), ht.blocks, List.length_map]
    have hrevlen := length_revertEvents hrev
    rw [List.map_reverse, List.sum_reverse, hlen] at hrevlen
    exact (length_commitEvents h).2 hrevlen
  · intro hx
    obtain ⟨t, hrev, ht⟩ := revert_undoes hx h (.refl s')
    exact ⟨t, hrev, ht.restored⟩

end

/-! ### A block for another rollup -/

/-- A store without blocks. -/
def emptyStore : IdealStore := ⟨⟨fun _ => none, fun _ _ => 0⟩, []⟩

/-- A block submitted for another rollup is skipped, and cannot be reverted. -/
theorem skipped_block_reverted :
    commit idealStore (emptyBlocks _) submissions (chainOf [submission 1 0]) emptyStore =
        (.ok (), emptyStore) ∧
      ¬∃ t, revert idealStore submissions (chainOf [submission 1 0]) emptyStore = (.ok (), t) ∧
        Restored emptyStore t :=
  ⟨rfl, fun ⟨_, h, _⟩ => by cases h⟩

theorem revert_commit_submission : ∃ s',
    commit idealStore (emptyBlocks _) submissions firstSubmission emptyStore = (.ok (), s') ∧
      s'.blocks.length = 1 ∧
      ((∃ t, revert idealStore submissions firstSubmission s' = (.ok (), t) ∧
          Restored emptyStore t) ↔
        ExecutesAll (emptyBlocks _) submissions
          (decodeChainIntoRollupEvents submissions firstSubmission) emptyStore) :=
  ⟨_, rfl, rfl, revert_commit_iff rfl⟩

end ExEx.Rollup
