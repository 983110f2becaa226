import ExEx.Lib.System
import ExEx.Rollup.Driver
import ExEx.Rollup.Reuse
import ExEx.Rollup.Tip

/-!
# The stored chain

The blocks the driver stores have the numbers `0` to `k - 1`, and each but the
first has its predecessor as its parent (`Linked`):

* an executed block has a stored parent, and its number is free, so that its
  number is `k`;
* a reverted block is the tip, whose text is last: its number is `k - 1` unless
  the last text is not that of the greatest number (`MisreadsTip`).

`linked` is about every state of the database on runs of the driver whose steps
do not misread the tip, whatever notifications it is given. The states are
those between two events: `reachable_handle` finds among them the ones that
`handle` leaves.
-/

namespace ExEx.Rollup

open Reth (RecoveredBlock TransactionSigned Chain ExExNotification)

/-! ## Runs of the driver -/

/-- An event to commit or to revert. -/
inductive Action
  | commit (e : Event)
  | revert (e : Event)

/-- The database, and what is left to do for the current notification. -/
structure Following where
  db : Tables
  queue : List Action

/-- A notification arrives, or the next action is taken. -/
inductive Step
  | notified (notification : ExExNotification)
  | acted

section

variable {ω δ : Type} (env : Environment Tables ω δ) (contract : RollupContract)

def Action.run (a : Action) (t : Tables) : Except Error Unit × Tables :=
  match a with
  | .commit e => commitEvent database env contract e t
  | .revert e => revertEvent database contract e t

/-- The events a chain has the driver revert, last first. -/
def revertActions (chain : Option Chain) : List Action :=
  match chain with
  | some chain => (decodeChainIntoRollupEvents contract chain).reverse.map .revert
  | none => []

/-- The events a chain has the driver commit. -/
def commitActions (chain : Option Chain) : List Action :=
  match chain with
  | some chain => (decodeChainIntoRollupEvents contract chain).map .commit
  | none => []

/-- What a notification has the driver do. -/
def actions (notification : ExExNotification) : List Action :=
  revertActions contract notification.revertedChain ++
    commitActions contract notification.committedChain

/-- The state after the first action of the queue. An error ends the work on a
    notification. -/
def Following.act (s : Following) : Following :=
  match s.queue with
  | [] => s
  | a :: queue =>
    match a.run env contract s.db with
    | (.ok (), db) => ⟨db, queue⟩
    | (.error _, db) => ⟨db, []⟩

/-- The driver on a database that starts out empty. -/
def following : System Following Step where
  init s := s = ⟨.empty, []⟩
  step s e s' :=
    match e with
    | .notified notification => s.queue = [] ∧ s' = ⟨s.db, actions contract notification⟩
    | .acted => s' = s.act env contract

variable {env contract}

/-! ## What the driver leaves is reached -/

theorem reachable_queue {l : List Action} {t : Tables}
    (h : (following env contract).Reachable ⟨t, l⟩) :
    (following env contract).Reachable ⟨(forEach (Action.run env contract) l t).2, []⟩ := by
  induction l generalizing t with
  | nil => exact h
  | cons a l ih =>
    have hact : (following env contract).Reachable (Following.act env contract ⟨t, a :: l⟩) :=
      h.step (e := .acted) trivial rfl
    rw [Following.act] at hact
    rw [forEach]
    rcases ha : a.run env contract t with ⟨e | ⟨⟨⟩⟩, t'⟩ <;> simp only [ha] at hact ⊢
    · exact hact
    · exact ih hact

theorem handleReverted_eq (notification : ExExNotification) (t : Tables) :
    handleReverted database contract notification t =
      forEach (Action.run env contract) (revertActions contract notification.revertedChain) t := by
  rw [handleReverted]
  cases notification.revertedChain with
  | none => rfl
  | some chain =>
    simp only [revertActions]
    rw [forEach_map]
    rfl

theorem handleCommitted_db (notification : ExExNotification) (r : RollupState Tables) :
    (handleCommitted database env contract notification r).2.db =
      (forEach (Action.run env contract) (commitActions contract notification.committedChain)
        r.db).2 := by
  rw [handleCommitted]
  cases notification.committedChain with
  | none => rfl
  | some chain =>
    simp only [commitActions]
    rw [forEach_map]
    change _ = (commit database env contract chain r.db).2
    rcases commit database env contract chain r.db with ⟨_ | ⟨⟨⟩⟩, t⟩
    · rfl
    · simp only
      cases chain.tip <;> rfl

/-- Handling a notification leaves a reached database. -/
theorem reachable_handle {notification : ExExNotification} {r : RollupState Tables}
    (h : (following env contract).Reachable ⟨r.db, []⟩) :
    (following env contract).Reachable
      ⟨(handle database env contract notification r).2.db, []⟩ := by
  have hq := reachable_queue (h.step (e := .notified notification) trivial ⟨rfl, rfl⟩)
  suffices heq : (handle database env contract notification r).2.db =
      (forEach (Action.run env contract) (actions contract notification) r.db).2 by
    rwa [heq]
  rw [handle, @handleReverted_eq _ _ env, actions, forEach_append]
  rcases forEach (Action.run env contract) (revertActions contract notification.revertedChain) r.db
    with ⟨_ | ⟨⟨⟩⟩, t⟩
  · rfl
  · exact handleCommitted_db notification { r with db := t }

/-- So does handling notifications one after the other. -/
theorem reachable_start {notifications : List ExExNotification} {r : RollupState Tables}
    (h : (following env contract).Reachable ⟨r.db, []⟩) :
    (following env contract).Reachable
      ⟨(start database env contract notifications r).2.db, []⟩ :=
  forEach_invariant (P := fun r : RollupState Tables => (following env contract).Reachable ⟨r.db, []⟩)
    (fun _ _ _ hr => reachable_handle hr) h

end

/-! ## Linked chains -/

/-- The numbers stored are `0` to `k - 1`, and the parent of each block but the
    first is the one stored before it. -/
structure Linked (t : Tables) : Prop where
  keyed : KeyedByNumber t
  contiguous : ∃ k : ℕ, ∀ n : UInt64, n ∈ storedNumbers t ↔ n.toNat < k
  parent : ∀ n block, t.block.lookup (numberText n) = some block → n ≠ 0 →
    ∃ parent, t.block.lookup (numberText (n - 1)) = some parent ∧
      block.header.parentHash = parent.hash

/-- The text of a stored number is last, and the number is not the greatest. -/
def LastTextNotGreatest (t : Tables) (x : U256) : Prop :=
  ∃ n ∈ storedNumbers t, x = .ofU64 n ∧ (∀ m ∈ storedNumbers t, numberText m ≤ numberText n) ∧
    ∃ m ∈ storedNumbers t, n < m

/-- An action is to revert the block of such a number. -/
def MisreadsTip (contract : RollupContract) (t : Tables) : Action → Prop
  | .revert (tx, .blockSubmitted _) => ∃ header blockData,
      contract.abiDecode tx.input = .ok (.submitBlock header blockData) ∧
        LastTextNotGreatest t header.sequence
  | _ => False

theorem Linked.congr {t t' : Tables} (h : Linked t) (hb : t'.block = t.block) : Linked t' := by
  obtain ⟨hk, hc, hp⟩ := h
  refine ⟨?_, ?_, ?_⟩
  · exact hk.congr hb
  · rw [storedNumbers, hb]; exact hc
  · rw [hb]; exact hp

theorem linked_empty : Linked .empty :=
  ⟨by decide, ⟨0, fun n => ⟨fun h => absurd h List.not_mem_nil, fun h => absurd h n.toNat.not_lt_zero⟩⟩,
    fun _ _ h => by cases h⟩

/-- A free number whose predecessor is stored is the next one. -/
theorem Linked.put {t : Tables} (h : Linked t) {block : RecoveredBlock}
    (hfree : t.block.lookup (numberText block.number) = none)
    (hparent : block.number ≠ 0 → ∃ parent,
      t.block.lookup (numberText (block.number - 1)) = some parent ∧
        block.header.parentHash = parent.hash) :
    Linked { t with block := t.block.put (numberText block.number) block } := by
  obtain ⟨k, hk⟩ := h.contiguous
  have hkeyed := h.keyed.put block
  have hnotlt : ¬block.number.toNat < k := by
    rw [← hk, mem_storedNumbers_iff h.keyed, hfree]
    exact Bool.false_ne_true
  -- Not one of the numbers below `k`, but its predecessor is, if it has one.
  have hnext : block.number.toNat = k := by
    by_cases h0 : block.number = 0
    · rw [h0] at hnotlt ⊢
      exact (Nat.le_zero.1 (not_lt.1 hnotlt)).symm
    · obtain ⟨parent, hp, -⟩ := hparent h0
      have hlt : (block.number - 1).toNat < k := by
        rw [← hk, mem_storedNumbers_iff h.keyed, hp]; rfl
      rw [toNat_sub_one h0] at hlt
      omega
  refine ⟨hkeyed, ⟨k + 1, ?_⟩, ?_⟩
  · intro n
    rw [mem_storedNumbers_iff hkeyed, Assoc.lookup_put]
    split_ifs with hn
    · rw [numberText_injective hn, hnext]
      simp
    · have hne : n.toNat ≠ block.number.toNat := fun he => hn (congrArg numberText (UInt64.toNat_inj.1 he))
      rw [← mem_storedNumbers_iff h.keyed, hk]
      omega
  · intro n b hb hn
    have hkeep {m : UInt64} {p : RecoveredBlock} (hp : t.block.lookup (numberText m) = some p) :
        (t.block.put (numberText block.number) block).lookup (numberText m) = some p := by
      rw [Assoc.lookup_put, if_neg, hp]
      rintro heq
      rw [heq, hfree] at hp
      cases hp
    rw [Assoc.lookup_put] at hb
    split_ifs at hb with htext
    · obtain rfl := Option.some.inj hb
      obtain rfl := numberText_injective htext
      obtain ⟨parent, hp, hhash⟩ := hparent hn
      exact ⟨parent, hkeep hp, hhash⟩
    · obtain ⟨parent, hp, hhash⟩ := h.parent n b hb hn
      exact ⟨parent, hkeep hp, hhash⟩

/-- The greatest number can go. -/
theorem Linked.erase {t : Tables} (h : Linked t) {n : UInt64} (hn : n ∈ storedNumbers t)
    (hmax : ∀ m ∈ storedNumbers t, m ≤ n) :
    Linked { t with block := t.block.erase (numberText n) } := by
  obtain ⟨k, hk⟩ := h.contiguous
  have hkeyed := h.keyed.erase (numberText n)
  refine ⟨hkeyed, ⟨n.toNat, ?_⟩, ?_⟩
  · intro m
    rw [mem_storedNumbers_iff hkeyed, Assoc.lookup_erase]
    split_ifs with hmn
    · rw [numberText_injective hmn]
      simp
    · have hne : m.toNat ≠ n.toNat := fun he => hmn (congrArg numberText (UInt64.toNat_inj.1 he))
      rw [← mem_storedNumbers_iff h.keyed]
      constructor
      · intro hm
        have := UInt64.le_iff_toNat_le.1 (hmax m hm)
        omega
      · intro hm
        exact (hk m).2 (hm.trans ((hk n).1 hn))
  · intro m b hb hm
    rw [Assoc.lookup_erase] at hb
    split_ifs at hb with htext
    obtain ⟨parent, hp, hhash⟩ := h.parent m b hb hm
    -- The predecessor of a number that is not above `n` is below `n`.
    have hmem : m ∈ storedNumbers t := (mem_storedNumbers_iff h.keyed).2 (by rw [hb]; rfl)
    have hle := UInt64.le_iff_toNat_le.1 (hmax m hmem)
    have hne : numberText (m - 1) ≠ numberText n := fun heq => by
      have h0 : m.toNat ≠ 0 := fun h' => hm (UInt64.toNat_inj.1 h')
      have := congrArg UInt64.toNat (numberText_injective heq)
      rw [toNat_sub_one hm] at this
      omega
    exact ⟨parent, by rw [Assoc.lookup_erase, if_neg hne, hp], hhash⟩

/-! ## Steps -/

section

variable {ω δ : Type} {env : Environment Tables ω δ} {contract : RollupContract}

/-- An executed block has its parent in the tables. -/
theorem Linked.insert {t t' : Tables} (h : Linked t) {tx : TransactionSigned} {header : BlockHeader}
    {blockData : Bytes} {blockDataHash : B256} {block : RecoveredBlock} {bundle : BundleState}
    {receipts : List Reth.Receipt} {results : List ExecutionResult}
    (hexec : executeBlock database env t tx header blockData blockDataHash =
      .ok (block, bundle, receipts, results))
    (hins : insertBlockWithBundle t block bundle = .ok t') : Linked t' := by
  obtain ⟨hseq, hparent⟩ := constructHeader_ok (executeBlock_ok hexec).2
  obtain ⟨hfree, hblock⟩ := block_insertBlockWithBundle hins
  have hstored : block.number ≠ 0 → ∃ parent,
      t.block.lookup (numberText (block.number - 1)) = some parent ∧
        block.header.parentHash = parent.hash := fun h0 => by
    obtain ⟨parent, hp, hhash⟩ := hparent h0
    refine ⟨parent, ?_, hhash⟩
    rw [hseq, ofU64_sub_one h0] at hp
    rw [← toText_ofU64]
    exact hp
  exact (h.put hfree hstored).congr hblock

/-- The block reverted is the tip, unless the tip is misread. -/
theorem Linked.revertTipBlock {t t' : Tables} (h : Linked t) {x : U256}
    (hx : ¬LastTextNotGreatest t x) (hrev : revertTipBlock t x = .ok t') : Linked t' := by
  have hr := reverted hrev
  obtain ⟨n, hn, rfl, hlast⟩ := (checkTip_iff h.keyed).1 hr.tip
  -- Were there a greater number, the text of `n` would be last all the same.
  have hmax : ∀ m ∈ storedNumbers t, m ≤ n := fun m hm =>
    not_lt.1 fun hlt => hx ⟨n, hn, rfl, hlast, m, hm, hlt⟩
  exact (h.erase hn hmax).congr (by rw [hr.block_eq, toText_ofU64])

/-- A call keeps the chain linked if it does when it succeeds. -/
theorem Linked.transaction {t : Tables} (h : Linked t) {call : Tables → Except Error Tables}
    (hcall : ∀ t', call t = .ok t' → Linked t') : Linked (transaction call t).2 := by
  rw [Rollup.transaction]
  rcases hc : call t with e | t'
  · exact h
  · exact hcall t' hc

theorem Linked.upsertAccount {t t' : Tables} (h : Linked t) {a : Address}
    {f : Option AccountInfo → Except Error AccountInfo} (hok : upsertAccount t a f = .ok t') :
    Linked t' := by
  obtain ⟨account, -, hok⟩ := bind_eq_ok.1 hok
  obtain rfl := Except.ok.inj hok
  exact h.congr rfl

theorem Linked.commitEvent {t : Tables} (h : Linked t) (e : Event) :
    Linked (commitEvent database env contract e t).2 := by
  rw [commitEvent_eq]
  rcases request contract e with err | _ | ⟨header, blockData, blockDataHash⟩ | ⟨a, amount⟩
  · exact h
  · exact h
  · simp only [submitBlock]
    rcases hexec : executeBlock database env t e.1 header blockData blockDataHash with
      err | ⟨block, bundle, receipts, results⟩
    · exact h
    · exact h.transaction fun t' hins => h.insert hexec hins
  · exact h.transaction fun t' hok => h.upsertAccount hok

theorem Linked.revertEvent {t : Tables} (h : Linked t) {e : Event}
    (he : ¬MisreadsTip contract t (.revert e)) : Linked (revertEvent database contract e t).2 := by
  rw [revertEvent_eq]
  rcases hreq : request contract e with err | _ | ⟨header, blockData, blockDataHash⟩ | ⟨a, amount⟩
  · exact h
  · exact h
  · refine h.transaction fun t' hrev => h.revertTipBlock (fun hx => he ?_) hrev
    obtain ⟨tx, event⟩ := e
    obtain ⟨rfl, hcall⟩ := (request_eq_block_iff contract).1 hreq
    exact ⟨header, blockData, hcall, hx⟩
  · exact h.transaction fun t' hok => h.upsertAccount hok

theorem Linked.act {s : Following} (h : Linked s.db)
    (hs : ∀ a ∈ s.queue.head?, ¬MisreadsTip contract s.db a) :
    Linked (s.act env contract).db := by
  obtain ⟨t, queue⟩ := s
  rw [Following.act]
  -- Whether the action fails or not, the database is what it leaves.
  cases queue with
  | nil => exact h
  | cons a queue =>
    have ha : Linked (a.run env contract t).2 := by
      cases a with
      | commit e => exact h.commitEvent e
      | revert e => exact h.revertEvent (hs _ rfl)
    simp only
    rcases hrun : a.run env contract t with ⟨e | ⟨⟨⟩⟩, t'⟩ <;> rw [hrun] at ha <;> exact ha

/-- On every run of the driver whose reverts do not misread the tip, the stored
    chain is contiguous and linked in every state of the database. -/
theorem linked {s : Following}
    (hs : (following env contract).ReachableBy
      (fun s e => e = .acted → ∀ a ∈ s.queue.head?, ¬MisreadsTip contract s.db a) s) :
    Linked s.db := by
  refine hs.invariant (I := fun s => Linked s.db) ?_ ?_
  · intro s h
    obtain rfl : s = ⟨.empty, []⟩ := h
    exact linked_empty
  intro s e s' _ h hc hstep
  cases e with
  | notified notification =>
    obtain ⟨-, rfl⟩ := hstep
    exact h
  | acted =>
    obtain rfl : s' = s.act env contract := hstep
    exact h.act (hc rfl)

end

/-! ### Runs -/

section

variable {ω δ : Type} {env : Environment Tables ω δ} {contract : RollupContract}

-- By going through the stored numbers, of which there are a few, and not through all `u64`.
instance instDecidableLastTextNotGreatest (t : Tables) (x : U256) :
    Decidable (LastTextNotGreatest t x) :=
  letI (n : UInt64) : Decidable (∀ m ∈ storedNumbers t, numberText m ≤ numberText n) :=
    List.decidableBAll _ _
  letI (n : UInt64) : Decidable (∃ m ∈ storedNumbers t, n < m) := List.decidableBEx _ _
  List.decidableBEx _ _

instance instDecidableMisreadsTip (t : Tables) (a : Action) :
    Decidable (MisreadsTip contract t a) :=
  match a with
  | .revert (tx, .blockSubmitted _) =>
    match hcall : contract.abiDecode tx.input with
    | .ok (.submitBlock header blockData) =>
      decidable_of_iff (LastTextNotGreatest t header.sequence)
        ⟨fun h => ⟨header, blockData, hcall, h⟩, fun ⟨header', blockData', hcall', h⟩ => by
          obtain ⟨rfl, -⟩ :=
            RollupContractCalls.submitBlock.inj (Except.ok.inj (hcall.symm.trans hcall'))
          exact h⟩
    | .ok .other => .isFalse fun ⟨_, _, hcall', _⟩ => by cases hcall.symm.trans hcall'
    | .error _ => .isFalse fun ⟨_, _, hcall', _⟩ => by cases hcall.symm.trans hcall'
  | .revert (_, .enter _ _ _ _) => .isFalse id
  | .revert (_, .other) => .isFalse id
  | .commit _ => .isFalse id

variable (env contract)

/-- The state after a step. -/
def Following.next (s : Following) : Step → Following
  | .notified notification => ⟨s.db, actions contract notification⟩
  | .acted => s.act env contract

/-- Whether a step can be taken, and does not misread the tip. -/
def Following.reads (s : Following) : Step → Bool
  | .notified _ => s.queue.isEmpty
  | .acted => s.queue.head?.all fun a => !decide (MisreadsTip contract s.db a)

/-- The driver after some steps. -/
def followed (steps : List Step) : Following := steps.foldl (Following.next env contract) ⟨.empty, []⟩

variable {env contract}

theorem reachableBy_followed {steps : List Step}
    (h : System.passes (Following.next env contract) (Following.reads contract) steps
      ⟨.empty, []⟩ = true) :
    (following env contract).ReachableBy
      (fun s e => e = .acted → ∀ a ∈ s.queue.head?, ¬MisreadsTip contract s.db a)
      (followed env contract steps) := by
  refine System.ReachableBy.run (Following.reads contract) ?_ (.init rfl) h
  intro s e hreads
  cases e with
  | notified notification =>
    exact ⟨fun he => (by cases he), List.isEmpty_iff.1 hreads, rfl⟩
  | acted =>
    refine ⟨fun _ a ha => ?_, rfl⟩
    have hall := (Option.all_eq_true _ _).1 hreads a ha
    simpa using hall

end

/-- The chain that submits the blocks `0` to `2`. -/
def threeSubmissions : Chain :=
  chainOf [submission (.ofU64 CHAIN_ID) 0, submission (.ofU64 CHAIN_ID) 1,
    submission (.ofU64 CHAIN_ID) 2]

/-- The driver after it has committed these, and reverted block `2`. -/
def tipReverted : Following :=
  followed (emptyBlocks _) submissions
    [.notified (.chainCommitted threeSubmissions), .acted, .acted, .acted,
      .notified (.chainReverted (chainOf [submission (.ofU64 CHAIN_ID) 2])), .acted]

theorem linked_tipReverted : storedNumbers tipReverted.db = [0, 1] ∧ Linked tipReverted.db :=
  ⟨by decide +kernel, linked (reachableBy_followed (by decide +kernel))⟩

/-! ### Block nine, reverted below block ten -/

/-- The chain that submits the blocks `0` to `10`. -/
def elevenSubmissions : Chain :=
  chainOf ((List.range 11).map fun i => submission (.ofU64 CHAIN_ID) (BitVec.ofNat 256 i))

/-- The chain that submits block `9`. -/
def ninthSubmission : Chain := chainOf [submission (.ofU64 CHAIN_ID) 9]

/-- The state of the driver after these are committed and block `9` is reverted. -/
def ninthReverted : Except Error Unit × RollupState Tables :=
  start database (emptyBlocks _) submissions
    [.chainCommitted elevenSubmissions, .chainReverted ninthSubmission] ⟨.empty, []⟩

/-- Once the blocks `0` to `10` are stored, reverting block `9` leaves block `10`. -/
theorem ninth_block_removed :
    ∃ t, (following (emptyBlocks _) submissions).Reachable ⟨t, []⟩ ∧
      storedNumbers t = [0, 1, 2, 3, 4, 5, 6, 7, 8, 10] ∧
      ¬∃ k : ℕ, ∀ n : UInt64, n ∈ storedNumbers t ↔ n.toNat < k := by
  have hnumbers : storedNumbers ninthReverted.2.db = [0, 1, 2, 3, 4, 5, 6, 7, 8, 10] := by
    decide +kernel
  refine ⟨ninthReverted.2.db, reachable_start (.init rfl), hnumbers, ?_⟩
  rintro ⟨k, hk⟩
  rw [hnumbers] at hk
  have h10 : (10 : UInt64).toNat < k := (hk 10).1 (by decide)
  exact absurd ((hk 9).2 (Nat.lt_of_succ_lt h10)) (by decide)

end ExEx.Rollup
