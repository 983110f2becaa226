import ExEx.Lib.System
import ExEx.Reth.Outcome
import Mathlib.Data.List.Induction

/-!
# State in memory

An extension that keeps the execution outcome of the canonical chain in memory,
and the same loop in the oracle. A committed chain extends the outcome. Before
that, a reorged or reverted chain is dropped by reverting the outcome to the
block before its first one. The outcome starts out empty, with `firstBlock`
zero, and no step changes `firstBlock`.

The notifications are those of a chain that evolves from a block `start` on
(`Evolves`). The outcome is to hold the blocks of this chain (`Follows`). A
revert keeps as many blocks as the *number* of the first block dropped, and
panics if this is block `0`: arithmetic is that of a build which checks for
overflows. So `follows` holds for runs whose reverts are of chains that start at
block `0` and not of the first block itself; any other revert loses the chain or
ends the loop.
-/

namespace ExEx

open Reth (RecoveredBlock ExecutionOutcome Chain ExExNotification Bundles Held)

/-! ## The loops -/

/-- An extension that keeps an outcome: what it holds, and the heights it has
    announced as finished. -/
structure OutcomeExEx where
  executionOutcome : ExecutionOutcome
  finishedHeights : List (UInt64 × B256)

/-- The extension as created. -/
def OutcomeExEx.new : OutcomeExEx := ⟨default, []⟩

/-- The number of the block before another one. Below block `0` the subtraction
    overflows, which panics: `none`. -/
def blockBefore (number : UInt64) : Option UInt64 :=
  if number = 0 then none else some (number - 1)

/-- Reverts an outcome to the block before a chain. Reading the first block of a
    chain without blocks panics. -/
def revertBefore (B : Bundles) (chain : Chain) (o : ExecutionOutcome) : Option ExecutionOutcome := do
  let first ← chain.first
  let number ← blockBefore first.number
  some (o.revertTo B number).1

/-- Drops the blocks a notification takes away. -/
def dropReverted (B : Bundles) (notification : ExExNotification) (o : ExecutionOutcome) :
    Option ExecutionOutcome :=
  match notification with
  | .chainCommitted _ => some o
  -- The chain that comes in starts where the one that goes out does.
  | .chainReorged _ new => revertBefore B new o
  | .chainReverted old => revertBefore B old o

/-- Adds the blocks a notification brings, and announces the last one. -/
def addCommitted (B : Bundles) (notification : ExExNotification) (s : OutcomeExEx) :
    Option OutcomeExEx :=
  match notification.committedChain with
  | none => some s
  | some chain => chain.tip.map fun tip =>
    ⟨s.executionOutcome.extend B chain.executionOutcome,
      s.finishedHeights ++ [(tip.number, tip.hash)]⟩

/-- What the loop of such an extension does with a notification. -/
def processNotification (B : Bundles) (notification : ExExNotification) (s : OutcomeExEx) :
    Option OutcomeExEx := do
  let o ← dropReverted B notification s.executionOutcome
  -- The notification is logged.
  let _ ← notification.ranges
  addCommitted B notification { s with executionOutcome := o }

/-- The loop of the in-memory extension. -/
def InMemoryStateExEx.process : Bundles → ExExNotification → OutcomeExEx → Option OutcomeExEx :=
  processNotification

/-- The loop of the oracle's extension. -/
def OracleExEx.process : Bundles → ExExNotification → OutcomeExEx → Option OutcomeExEx :=
  processNotification

/-- The two extensions with such a loop. -/
inductive Follower
  | inMemoryState
  | oracle

def Follower.process : Follower → Bundles → ExExNotification → OutcomeExEx → Option OutcomeExEx
  | .inMemoryState => InMemoryStateExEx.process
  | .oracle => OracleExEx.process

/-! ## Evolving chains -/

/-- A block with the outcome of executing it. -/
structure ExecutedBlock where
  block : RecoveredBlock
  outcome : ExecutionOutcome
  /-- The outcome holds one block. -/
  isFor_one : outcome.held.IsFor 1

/-- The entries of some blocks. -/
def heldBlocks : List ExecutedBlock → Held
  | [] => ⟨[], [], []⟩
  | b :: l => b.outcome.held.append (heldBlocks l)

/-- A chain is made of some blocks and holds their outcomes. -/
structure MadeOf (chain : Chain) (blocks : List ExecutedBlock) : Prop where
  blocks_eq : chain.blocksIter = blocks.map ExecutedBlock.block
  held_eq : chain.executionOutcome.held = heldBlocks blocks
  ne_nil : blocks ≠ []

/-- Blocks are numbered from `start` on. -/
def NumberedFrom (start : UInt64) (blocks : List ExecutedBlock) : Prop :=
  ∀ i b, blocks[i]? = some b → b.block.number.toNat = start.toNat + i

/-- How a canonical chain that starts at block `start` changes with a
    notification. -/
inductive Evolves (start : UInt64) :
    List ExecutedBlock → ExExNotification → List ExecutedBlock → Prop
  | committed {kept added : List ExecutedBlock} {new : Chain} :
      MadeOf new added → NumberedFrom start (kept ++ added) →
      Evolves start kept (.chainCommitted new) (kept ++ added)
  | reorged {kept dropped added : List ExecutedBlock} {old new : Chain} :
      MadeOf old dropped → MadeOf new added → NumberedFrom start (kept ++ added) →
      Evolves start (kept ++ dropped) (.chainReorged old new) (kept ++ added)
  | reverted {kept dropped : List ExecutedBlock} {old : Chain} :
      MadeOf old dropped → Evolves start (kept ++ dropped) (.chainReverted old) kept

/-- The outcome of a chain: those of its blocks, one after the other. -/
def outcomeOf (B : Bundles) (blocks : List ExecutedBlock) : ExecutionOutcome :=
  blocks.foldl (fun o b => o.extend B b.outcome) default

/-- The canonical chain, and an extension. -/
structure Mirror where
  canonical : List ExecutedBlock
  exex : OutcomeExEx

/-- The extension holds the entries of the blocks of the canonical chain. -/
structure Follows (B : Bundles) (s : Mirror) : Prop where
  held : s.exex.executionOutcome.held = (outcomeOf B s.canonical).held
  firstBlock : s.exex.executionOutcome.firstBlock = (outcomeOf B s.canonical).firstBlock

/-- Runs of an extension on the notifications of an evolving chain. -/
def mirroring (follower : Follower) (B : Bundles) (start : UInt64) :
    System Mirror ExExNotification where
  init s := s = ⟨[], .new⟩
  step s notification s' :=
    Evolves start s.canonical notification s'.canonical ∧
      follower.process B notification s.exex = some s'.exex

/-- If a notification drops blocks, the chain starts at block `0` and the first
    block dropped is not block `0`. -/
def KeepsFirst (start : UInt64) (notification : ExExNotification) : Prop :=
  ∀ old ∈ notification.revertedChain, start = 0 ∧ ∀ block ∈ old.first, block.number ≠ 0

section

variable {B : Bundles} {start : UInt64}

/-! ## Held blocks -/

theorem heldBlocks_append (l l' : List ExecutedBlock) :
    heldBlocks (l ++ l') = (heldBlocks l).append (heldBlocks l') := by
  induction l with
  | nil => rfl
  | cons b l ih =>
    rw [List.cons_append, heldBlocks, heldBlocks, ih]
    ext1 <;> exact (List.append_assoc _ _ _).symm

theorem isFor_heldBlocks (l : List ExecutedBlock) : (heldBlocks l).IsFor l.length := by
  induction l with
  | nil => exact ⟨rfl, rfl, rfl⟩
  | cons b l ih =>
    rw [List.length_cons, Nat.add_comm]
    exact b.isFor_one.append ih

theorem outcomeOf_append (l : List ExecutedBlock) (b : ExecutedBlock) :
    outcomeOf B (l ++ [b]) = (outcomeOf B l).extend B b.outcome := by
  rw [outcomeOf, List.foldl_append]
  rfl

/-- The outcome of a chain holds the entries of its blocks. -/
theorem held_outcomeOf (l : List ExecutedBlock) : (outcomeOf B l).held = heldBlocks l := by
  induction l using List.reverseRecOn with
  | nil => rfl
  | append_singleton l b ih =>
    rw [outcomeOf_append, Reth.held_extend, ih, heldBlocks_append]
    congr 1
    ext1 <;> exact (List.append_nil _).symm

theorem firstBlock_outcomeOf (l : List ExecutedBlock) : (outcomeOf B l).firstBlock = 0 := by
  induction l using List.reverseRecOn with
  | nil => rfl
  | append_singleton l b ih => rw [outcomeOf_append]; exact ih

theorem follows_iff {s : Mirror} : Follows B s ↔
    s.exex.executionOutcome.held = heldBlocks s.canonical ∧
      s.exex.executionOutcome.firstBlock = 0 := by
  rw [← held_outcomeOf (B := B) s.canonical, ← firstBlock_outcomeOf (B := B) s.canonical]
  exact ⟨fun h => ⟨h.held, h.firstBlock⟩, fun h => ⟨h.1, h.2⟩⟩

/-! ## Steps -/

/-- The first block of a chain after some others has the number after them. -/
theorem MadeOf.first {chain : Chain} {kept blocks : List ExecutedBlock} (h : MadeOf chain blocks)
    (hn : NumberedFrom start (kept ++ blocks)) :
    ∃ block, chain.first = some block ∧ block.number.toNat = start.toNat + kept.length := by
  obtain ⟨b, l, rfl⟩ := List.exists_cons_of_ne_nil h.ne_nil
  refine ⟨b.block, ?_, hn kept.length b ?_⟩
  · rw [Chain.first, h.blocks_eq]; rfl
  · rw [List.getElem?_append_right le_rfl, Nat.sub_self]; rfl

theorem MadeOf.blocksIter_ne_nil {chain : Chain} {blocks : List ExecutedBlock}
    (h : MadeOf chain blocks) : chain.blocksIter ≠ [] := fun hnil =>
  h.ne_nil (List.map_eq_nil_iff.1 (h.blocks_eq ▸ hnil))

theorem MadeOf.tip {chain : Chain} {blocks : List ExecutedBlock} (h : MadeOf chain blocks) :
    ∃ block, chain.tip = some block :=
  Option.ne_none_iff_exists'.1 fun htip => h.blocksIter_ne_nil (Chain.tip_eq_none_iff.1 htip)

/-- The chains of an evolution have blocks, so it is logged. -/
theorem Evolves.ranges {bs bs' : List ExecutedBlock} {notification : ExExNotification}
    (h : Evolves start bs notification bs') : ∃ ranges, notification.ranges = some ranges := by
  refine Option.ne_none_iff_exists'.1 fun hranges => ?_
  have hblockless := ExExNotification.ranges_eq_none_iff.1 hranges
  cases h with
  | committed hnew _ => exact hnew.blocksIter_ne_nil hblockless
  | reorged hold hnew _ =>
    exact hblockless.elim hold.blocksIter_ne_nil hnew.blocksIter_ne_nil
  | reverted hold => exact hold.blocksIter_ne_nil hblockless

/-- Numbers are `u64`, so there are at most `2 ^ 64` blocks. -/
theorem NumberedFrom.length_le {blocks : List ExecutedBlock} (h : NumberedFrom start blocks) :
    blocks.length ≤ 2 ^ 64 := by
  by_contra hlt
  have hb := h (2 ^ 64) blocks[2 ^ 64] (List.getElem?_eq_getElem (not_le.1 hlt))
  have := blocks[2 ^ 64].block.number.toNat_lt
  omega

theorem numberedFrom_nil : NumberedFrom start [] := fun i b hb => by
  rw [List.getElem?_nil] at hb
  cases hb

theorem NumberedFrom.of_append {kept blocks : List ExecutedBlock}
    (h : NumberedFrom start (kept ++ blocks)) : NumberedFrom start kept := fun i b hb => by
  refine h i b ?_
  rw [List.getElem?_append_left (List.getElem?_eq_some_iff.1 hb).1, hb]

/-- Reverting to the block before a chain panics if it starts at block `0`. -/
theorem revertBefore_of_zero {chain : Chain} {block : RecoveredBlock} {o : ExecutionOutcome}
    (hblock : chain.first = some block) (hzero : block.number = 0) :
    revertBefore B chain o = none := by
  rw [revertBefore, hblock, Option.bind_eq_bind, Option.bind_some, blockBefore, if_pos hzero]
  rfl

/-- Reverting to the block before the first of the `dropped` ones leaves some
    number of blocks, unless this is block `0`. This is the right one, and they are
    the right ones, iff the chain starts at block `0`. -/
theorem held_revertBefore {o : ExecutionOutcome} {kept dropped : List ExecutedBlock}
    {chain : Chain} {block : RecoveredBlock} (ho : o.held = heldBlocks (kept ++ dropped))
    (h0 : o.firstBlock = 0) (hne : dropped ≠ []) (hblock : chain.first = some block)
    (hnumber : block.number.toNat = start.toNat + kept.length) (hnonzero : block.number ≠ 0) :
    ∃ o' n, revertBefore B chain o = some o' ∧ o'.firstBlock = 0 ∧ o'.held.IsFor n ∧
      (n = kept.length → start = 0) ∧ (start = 0 → o'.held = heldBlocks kept) := by
  have hfor := isFor_heldBlocks (kept ++ dropped)
  have hpos := List.length_pos_of_ne_nil hne
  rw [List.length_append] at hfor
  have hpred : (block.number - 1).toNat + 1 = start.toNat + kept.length := by
    have h1 : (1 : UInt64) ≤ block.number := UInt64.le_iff_toNat_le.2
      (Nat.one_le_iff_ne_zero.2 fun h => hnonzero (UInt64.toNat_inj.1 h))
    have hle : 1 ≤ block.number.toNat := UInt64.le_iff_toNat_le.1 h1
    rw [UInt64.toNat_sub_of_le _ _ h1]
    change block.number.toNat - 1 + 1 = _
    omega
  have hrevert : revertBefore B chain o = some (o.revertTo B (block.number - 1)).1 := by
    rw [revertBefore, hblock, Option.bind_eq_bind, Option.bind_some, blockBefore, if_neg hnonzero]
    rfl
  have hheld : (o.revertTo B (block.number - 1)).1.held =
      (heldBlocks (kept ++ dropped)).take (start.toNat + kept.length) := by
    rw [Reth.held_revertTo B (ho ▸ hfor) h0, ho, hpred]
  have hfirst := (Reth.firstBlock_revertTo B o (block.number - 1)).trans h0
  refine ⟨_, _, hrevert, hfirst, hheld ▸ hfor.take _, fun h => ?_, ?_⟩
  · exact UInt64.toNat_inj.1 (by change start.toNat = 0; omega)
  · rintro rfl
    rw [hheld]
    change (heldBlocks (kept ++ dropped)).take (0 + kept.length) = _
    rw [Nat.zero_add, heldBlocks_append, (isFor_heldBlocks kept).take_append]

/-- What the loop does is determined by the parts it takes. -/
theorem processNotification_of_some {notification : ExExNotification} {s : OutcomeExEx}
    {o : ExecutionOutcome} {ranges : List (UInt64 × UInt64)}
    (hranges : notification.ranges = some ranges)
    (h : dropReverted B notification s.executionOutcome = some o) :
    processNotification B notification s =
      addCommitted B notification { s with executionOutcome := o } := by
  rw [processNotification, h, hranges]
  rfl

theorem processNotification_of_none {notification : ExExNotification} {s : OutcomeExEx}
    (h : dropReverted B notification s.executionOutcome = none) :
    processNotification B notification s = none := by
  rw [processNotification, h]
  rfl

theorem addCommitted_of_tip {notification : ExExNotification} {chain : Chain} {tip : RecoveredBlock}
    {s : OutcomeExEx} (hchain : notification.committedChain = some chain)
    (htip : chain.tip = some tip) :
    addCommitted B notification s = some ⟨s.executionOutcome.extend B chain.executionOutcome,
      s.finishedHeights ++ [(tip.number, tip.hash)]⟩ := by
  rw [addCommitted, hchain]
  change chain.tip.map _ = _
  rw [htip]
  rfl

/-- A notification keeps the numbering. It is processed, and the outcome then holds
    the blocks of the new chain, iff what it drops, if anything, can be dropped. -/
theorem held_processNotification {bs bs' : List ExecutedBlock} {notification : ExExNotification}
    {x : OutcomeExEx} (hev : Evolves start bs notification bs') (hn : NumberedFrom start bs)
    (hheld : x.executionOutcome.held = heldBlocks bs) (hfirst : x.executionOutcome.firstBlock = 0) :
    NumberedFrom start bs' ∧
      ((∃ x', processNotification B notification x = some x' ∧
        x'.executionOutcome.held = heldBlocks bs' ∧ x'.executionOutcome.firstBlock = 0) ↔
          KeepsFirst start notification) := by
  obtain ⟨ranges, hranges⟩ := hev.ranges
  cases hev with
  | @committed _ added new hnew hn' =>
    obtain ⟨tip, htip⟩ := hnew.tip
    have hkeeps : KeepsFirst start (.chainCommitted new) := fun _ h => by cases h
    refine ⟨hn', iff_of_true ?_ hkeeps⟩
    rw [processNotification_of_some hranges rfl, addCommitted_of_tip rfl htip]
    refine ⟨_, rfl, ?_, hfirst⟩
    rw [Reth.held_extend, hnew.held_eq, heldBlocks_append, hheld]
  | @reorged kept dropped added old new hold hnew hn' =>
    -- Both chains start at the same number, and it is that of the new one that is read.
    obtain ⟨first, hf, hnum⟩ := hold.first hn
    obtain ⟨first', hf', hnum'⟩ := hnew.first hn'
    obtain ⟨tip, htip⟩ := hnew.tip
    have hsame : first'.number = first.number := UInt64.toNat_inj.1 (hnum'.trans hnum.symm)
    have hkeeps : KeepsFirst start (.chainReorged old new) ↔ start = 0 ∧ first'.number ≠ 0 := by
      simp [KeepsFirst, ExExNotification.revertedChain, hf, hsame]
    refine ⟨hn', ?_⟩
    rw [hkeeps]
    by_cases hzero : first'.number = 0
    · have hdrop : dropReverted B (.chainReorged old new) x.executionOutcome = none :=
        revertBefore_of_zero hf' hzero
      rw [processNotification_of_none hdrop]
      exact iff_of_false (fun ⟨_, h, _⟩ => by cases h) fun h => h.2 hzero
    · obtain ⟨o, n, ho, hfirst', hfor, hlen, heq⟩ :=
        held_revertBefore (B := B) hheld hfirst hold.ne_nil hf' hnum' hzero
      rw [processNotification_of_some hranges ho, addCommitted_of_tip rfl htip,
        and_iff_left hzero]
      constructor
      · rintro ⟨_, hadd, hboth, -⟩
        obtain rfl := Option.some.inj hadd
        -- There are as many entries as blocks only if the right number was kept.
        rw [Reth.held_extend, hnew.held_eq, heldBlocks_append] at hboth
        have hadded := hboth ▸ hfor.append (isFor_heldBlocks added)
        have := hadded.eq ((isFor_heldBlocks kept).append (isFor_heldBlocks added))
        exact hlen (by omega)
      · intro hstart
        refine ⟨_, rfl, ?_, hfirst'⟩
        rw [Reth.held_extend, hnew.held_eq, heldBlocks_append, heq hstart]
  | @reverted _ dropped old hold =>
    obtain ⟨first, hf, hnum⟩ := hold.first hn
    have hkeeps : KeepsFirst start (.chainReverted old) ↔ start = 0 ∧ first.number ≠ 0 := by
      simp [KeepsFirst, ExExNotification.revertedChain, hf]
    refine ⟨hn.of_append, ?_⟩
    rw [hkeeps]
    by_cases hzero : first.number = 0
    · have hdrop : dropReverted B (.chainReverted old) x.executionOutcome = none :=
        revertBefore_of_zero hf hzero
      rw [processNotification_of_none hdrop]
      exact iff_of_false (fun ⟨_, h, _⟩ => by cases h) fun h => h.2 hzero
    · obtain ⟨o, n, ho, hfirst', hfor, hlen, heq⟩ :=
        held_revertBefore (B := B) hheld hfirst hold.ne_nil hf hnum hzero
      rw [processNotification_of_some hranges ho, and_iff_left hzero]
      constructor
      · rintro ⟨_, hadd, hkept, -⟩
        obtain rfl := Option.some.inj hadd
        exact hlen ((hkept ▸ hfor).eq (isFor_heldBlocks _))
      · exact fun hstart => ⟨_, rfl, heq hstart, hfirst'⟩

/-! ## Runs -/

theorem process_eq (follower : Follower) : follower.process = processNotification := by
  cases follower <;> rfl

/-- A notification keeps the numbering. The extension goes on and follows the chain iff
    what the notification drops, if anything, can be dropped. -/
theorem follows_evolves {follower : Follower} {s : Mirror} {notification : ExExNotification}
    {canonical : List ExecutedBlock} (hn : NumberedFrom start s.canonical) (hs : Follows B s)
    (hev : Evolves start s.canonical notification canonical) :
    NumberedFrom start canonical ∧
      ((∃ exex, follower.process B notification s.exex = some exex ∧
        Follows B ⟨canonical, exex⟩) ↔ KeepsFirst start notification) := by
  obtain ⟨hheld, hfirst⟩ := follows_iff.1 hs
  simp only [process_eq, follows_iff]
  exact held_processNotification hev hn hheld hfirst

/-- On runs whose notifications drop only what can be dropped, the outcome
    follows the canonical chain in every state. In such a state a notification is
    processed so that it does so after it too, iff the notification drops only that. -/
theorem follows {follower : Follower} {s : Mirror}
    (hs : (mirroring follower B start).ReachableBy (fun _ => KeepsFirst start) s) :
    Follows B s ∧ ∀ notification canonical, Evolves start s.canonical notification canonical →
      ((∃ exex, follower.process B notification s.exex = some exex ∧
        Follows B ⟨canonical, exex⟩) ↔ KeepsFirst start notification) := by
  have hinv : NumberedFrom start s.canonical ∧ Follows B s := by
    refine hs.invariant (I := fun s => NumberedFrom start s.canonical ∧ Follows B s) ?_ ?_
    · intro s h
      obtain rfl : s = ⟨[], .new⟩ := h
      exact ⟨numberedFrom_nil, ⟨rfl, rfl⟩⟩
    · intro s notification s' _ ⟨hn, hf⟩ hkeeps ⟨hev, hproc⟩
      obtain ⟨hn', exex, hexex, hf'⟩ := (follows_evolves hn hf hev).imp_right (·.2 hkeeps)
      obtain rfl := Option.some.inj (hproc.symm.trans hexex)
      exact ⟨hn', hf'⟩
  exact ⟨hinv.2, fun _ _ hev => (follows_evolves hinv.1 hinv.2 hev).2⟩

end

/-! ### Two blocks, and one reverted -/

/-- A block without transactions. -/
def emptyBlock (number : UInt64) : ExecutedBlock where
  block := { (default : RecoveredBlock) with header := { (default : Reth.Header) with number := number } }
  outcome := ⟨{ (default : Reth.BundleState) with reverts := [[]] }, [[]], number, [[]]⟩
  isFor_one := ⟨rfl, rfl, rfl⟩

theorem number_emptyBlock (number : UInt64) : (emptyBlock number).block.number = number := rfl

/-- The chain of a block and the next one. -/
def twoBlocks (number : UInt64) : Chain :=
  .new [(emptyBlock number).block, (emptyBlock (number + 1)).block]
    ⟨{ (default : Reth.BundleState) with reverts := [[], []] }, [[], []], number, [[], []]⟩ default

/-- The chain of one block. -/
def oneBlock (number : UInt64) : Chain :=
  .new [(emptyBlock number).block] (emptyBlock number).outcome default

theorem numberedFrom_twoBlocks {number : UInt64}
    (h : (number + 1).toNat = number.toNat + 1) :
    NumberedFrom number [emptyBlock number, emptyBlock (number + 1)] := fun i b hb => by
  match i with
  | 0 =>
    obtain rfl := Option.some.inj hb
    rw [number_emptyBlock, Nat.add_zero]
  | 1 =>
    obtain rfl := Option.some.inj hb
    rw [number_emptyBlock, h]
  | _ + 2 => cases hb

/-- The state once two blocks are committed. -/
def twoCommitted (follower : Follower) (number : UInt64) : Mirror where
  canonical := [emptyBlock number, emptyBlock (number + 1)]
  exex := (follower.process default (.chainCommitted (twoBlocks number)) .new).getD .new

/-- The state once the second one is reverted. -/
def secondReverted (follower : Follower) (number : UInt64) : Mirror where
  canonical := [emptyBlock number]
  exex := (follower.process default (.chainReverted (oneBlock (number + 1)))
    (twoCommitted follower number).exex).getD .new

theorem evolves_twoBlocks {number : UInt64} (h : (number + 1).toNat = number.toNat + 1)
    (hblocks : (twoBlocks number).blocksIter =
      [(emptyBlock number).block, (emptyBlock (number + 1)).block]) :
    Evolves number [] (.chainCommitted (twoBlocks number))
      [emptyBlock number, emptyBlock (number + 1)] :=
  @Evolves.committed number [] _ _ ⟨hblocks, rfl, List.cons_ne_nil _ _⟩ (numberedFrom_twoBlocks h)

theorem evolves_oneBlock (number : UInt64) :
    Evolves number [emptyBlock number, emptyBlock (number + 1)]
      (.chainReverted (oneBlock (number + 1))) [emptyBlock number] :=
  @Evolves.reverted number [emptyBlock number] [emptyBlock (number + 1)] _
    ⟨rfl, rfl, List.cons_ne_nil _ _⟩

/-- Starting at block `1`, the outcome keeps the reverted block `2`. -/
theorem second_block_kept :
    (∀ follower, (mirroring follower default 1).Reachable (secondReverted follower 1)) ∧
      ∀ follower, (secondReverted follower 1).exex.executionOutcome.receipts = [[], []] ∧
        ¬Follows default (secondReverted follower 1) := by
  refine ⟨fun follower => ?_, fun follower => ⟨by cases follower <;> rfl, fun h => ?_⟩⟩
  · have hcommit : (mirroring follower default 1).Reachable (twoCommitted follower 1) :=
      .step (.init rfl) trivial ⟨evolves_twoBlocks rfl rfl, by cases follower <;> rfl⟩
    exact .step hcommit trivial ⟨evolves_oneBlock 1, by cases follower <;> rfl⟩
  · have hlen := congrArg (fun h : Held => h.receipts.length) h.held
    cases follower <;> exact absurd hlen (by decide)

/-- Starting at block `0`, it does not. -/
theorem follows_secondReverted :
    Follows default (secondReverted .inMemoryState 0) ∧
      ∀ notification canonical,
        Evolves 0 (secondReverted .inMemoryState 0).canonical notification canonical →
          ((∃ exex, Follower.inMemoryState.process default notification
              (secondReverted .inMemoryState 0).exex = some exex ∧
            Follows default ⟨canonical, exex⟩) ↔ KeepsFirst 0 notification) := by
  have hcommit : (mirroring .inMemoryState default 0).ReachableBy (fun _ => KeepsFirst 0)
      (twoCommitted .inMemoryState 0) :=
    .step (.init rfl) (fun _ h => by cases h) ⟨evolves_twoBlocks rfl rfl, rfl⟩
  refine follows (.step hcommit (e := .chainReverted (oneBlock 1)) (fun old hold => ?_)
    ⟨evolves_oneBlock 0, rfl⟩)
  obtain rfl := Option.some.inj hold
  refine ⟨rfl, fun block hblock => ?_⟩
  obtain rfl := Option.some.inj hblock
  decide

end ExEx
