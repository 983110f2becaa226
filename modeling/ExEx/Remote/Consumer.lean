import ExEx.Remote.Integrity
import ExEx.Remote.Subscribe

/-!
# What consumers get

The codec loses what the schema has no place for, and nothing else: every notification is
encoded, and decoded as `receivedNotification`. It is what was sent exactly if there was
nothing to lose (`notification_received`).

So the numbers of the blocks come through. Between the channel of a subscriber and its
consumer there is gRPC, of which it is assumed that it keeps the order (`Carries`): it may hold
messages back, and it may fail. A consumer logs the commits, reorgs and reverts of the node
from its subscription on, in their order and without gaps, and it fails only as the transport
does (`consumer_sees`). Its stream ends if the consumer goes, if the extension and the server
have ended and it has everything, or if it falls behind, and for no other reason: no task fails
to encode what it has received.
-/

namespace ExEx.Remote

/-! ## Received notifications -/

def receivedInfo (info : Reth.AccountInfo) : Reth.AccountInfo := { info with accountId := none }

def receivedAccount (account : Reth.BundleAccount) : Reth.BundleAccount :=
  { account with
    info := account.info.map receivedInfo
    originalInfo := account.originalInfo.map receivedInfo }

def receivedInfoRevert : Reth.AccountInfoRevert → Reth.AccountInfoRevert
  | .revertTo info => .revertTo (receivedInfo info)
  | revert => revert

def receivedRevert (e : Address × Reth.AccountRevert) : Address × Reth.AccountRevert :=
  (e.1, { e.2 with account := receivedInfoRevert e.2.account })

def receivedBundle (bundle : Reth.BundleState) : Reth.BundleState :=
  { bundle with
    state := bundle.state.mapValues receivedAccount
    reverts := bundle.reverts.map (List.map receivedRevert) }

/-- A chain as it is received: its blocks are collected by their own numbers. -/
def receivedChain (chain : Reth.Chain) : Reth.Chain :=
  .new (chain.blocksIter.map received)
    { chain.executionOutcome with
      bundle := receivedBundle chain.executionOutcome.bundle
      requests := [] } .empty

def receivedNotification : Reth.ExExNotification → Reth.ExExNotification
  | .chainCommitted new => .chainCommitted (receivedChain new)
  | .chainReorged old new => .chainReorged (receivedChain old) (receivedChain new)
  | .chainReverted old => .chainReverted (receivedChain old)

/-! ### What is sent is what is received of it -/

theorem mapM_receivedInfo (info : Option Reth.AccountInfo) :
    (info.map receivedInfo).mapM Proto.AccountInfo.tryFrom =
      info.mapM Proto.AccountInfo.tryFrom := by
  cases info <;> rfl

theorem tryFrom_receivedAccount (e : Address × Reth.BundleAccount) :
    Proto.BundleAccount.tryFrom (e.1, receivedAccount e.2) = Proto.BundleAccount.tryFrom e := by
  rw [Proto.BundleAccount.tryFrom, Proto.BundleAccount.tryFrom]
  simp only [receivedAccount, mapM_receivedInfo]

theorem tryFrom_receivedRevert (e : Address × Reth.AccountRevert) :
    Proto.Revert.tryFrom (receivedRevert e) = Proto.Revert.tryFrom e := by
  obtain ⟨address, ⟨_ | _ | info, storage, status, wipeStorage⟩⟩ := e <;> rfl

theorem tryFrom_receivedBundle (bundle : Reth.BundleState) :
    Proto.BundleState.tryFrom (receivedBundle bundle) = Proto.BundleState.tryFrom bundle := by
  have haccount : (Proto.BundleAccount.tryFrom ∘ fun e => (e.1, receivedAccount e.2)) =
      Proto.BundleAccount.tryFrom := funext tryFrom_receivedAccount
  have hrevert : Proto.Revert.tryFrom ∘ receivedRevert = Proto.Revert.tryFrom :=
    funext tryFrom_receivedRevert
  have hblock : Proto.BlockReverts.tryFrom ∘ List.map receivedRevert =
      Proto.BlockReverts.tryFrom := by
    funext reverts
    rw [Function.comp_apply, Proto.BlockReverts.tryFrom, List.mapM_map, hrevert]
    rfl
  rw [Proto.BundleState.tryFrom, Proto.BundleState.tryFrom]
  simp only [receivedBundle, Assoc.mapValues, List.mapM_map, haccount, hblock]

theorem accountId_receivedBundle (bundle : Reth.BundleState) :
    ∀ info ∈ infos (receivedBundle bundle), info.accountId = none := by
  intro info hinfo
  rcases List.mem_append.1 hinfo with hstate | hrevert
  · obtain ⟨e, he, hinfo⟩ := List.mem_flatMap.1 hstate
    obtain ⟨e, -, rfl⟩ := List.mem_map.1 he
    rcases List.mem_append.1 hinfo with hinfo | hinfo <;>
      obtain ⟨info, -, rfl⟩ := Option.map_eq_some_iff.1 (Option.mem_toList.1 hinfo) <;> rfl
  · obtain ⟨e, he, hinfo⟩ := List.mem_filterMap.1 hrevert
    obtain ⟨reverts, hreverts, he⟩ := List.mem_flatten.1 he
    obtain ⟨reverts, -, rfl⟩ := List.mem_map.1 hreverts
    obtain ⟨⟨address, ⟨_ | _ | info, _, _, _⟩⟩, -, rfl⟩ := List.mem_map.1 he <;> cases hinfo
    rfl

theorem receives_bundle (bundle : Reth.BundleState) :
    ∃ message, Proto.BundleState.tryFrom bundle = .ok message ∧
      BundleState.tryFrom message = .ok (receivedBundle bundle) := by
  rw [← tryFrom_receivedBundle]
  exact roundTrips_bundleState (accountId_receivedBundle bundle)

theorem receives_blocks (blocks : List Reth.RecoveredBlock) :
    ∃ messages, blocks.mapM Proto.Block.tryFrom = .ok messages ∧
      messages.mapM RecoveredBlock.tryFrom = .ok (blocks.map received) := by
  have hsame : Proto.Block.tryFrom ∘ received = Proto.Block.tryFrom := funext tryFrom_received
  obtain ⟨messages, hm, hm'⟩ := RoundTrips.mapM (l := blocks.map received) fun block hmem => by
    obtain ⟨block, -, rfl⟩ := List.mem_map.1 hmem
    exact roundTrips_recoveredBlock (blockCarried_received block)
  rw [List.mapM_map, hsame] at hm
  exact ⟨messages, hm, hm'⟩

theorem receives_chain (chain : Reth.Chain) :
    ∃ message, Proto.Chain.tryFrom chain = .ok message ∧
      Chain.tryFrom message = .ok (receivedChain chain) := by
  obtain ⟨blocks, hb, hb'⟩ := receives_blocks chain.blocksIter
  obtain ⟨bundle, hs, hs'⟩ := receives_bundle chain.executionOutcome.bundle
  obtain ⟨receipts, hr, hr'⟩ := RoundTrips.mapM (l := chain.executionOutcome.receipts)
    fun blockReceipts _ => roundTrips_blockReceipts blockReceipts
  refine ⟨_, by rw [Proto.Chain.tryFrom, hb, ok_bind, hs, ok_bind, hr]; rfl, ?_⟩
  simp [Chain.tryFrom, hb', hs', hr', receivedChain]

/-- A notification is always encoded, and decoded as what is received of it. -/
theorem receives_notification (notification : Reth.ExExNotification) :
    ∃ message, Proto.ExExNotification.tryFrom notification = .ok message ∧
      ExExNotification.tryFrom message = .ok (receivedNotification notification) := by
  rcases notification with new | ⟨old, new⟩ | old
  · obtain ⟨message, hm, hm'⟩ := receives_chain new
    refine ⟨_, by rw [Proto.ExExNotification.tryFrom, hm]; rfl, ?_⟩
    simp [ExExNotification.tryFrom, hm', receivedNotification]
  · obtain ⟨message, ho, ho'⟩ := receives_chain old
    obtain ⟨message', hn, hn'⟩ := receives_chain new
    refine ⟨_, by rw [Proto.ExExNotification.tryFrom, ho, ok_bind, hn]; rfl, ?_⟩
    simp [ExExNotification.tryFrom, ho', hn', receivedNotification]
  · obtain ⟨message, hm, hm'⟩ := receives_chain old
    refine ⟨_, by rw [Proto.ExExNotification.tryFrom, hm]; rfl, ?_⟩
    simp [ExExNotification.tryFrom, hm', receivedNotification]

theorem receivedChain_eq_self_iff {chain : Reth.Chain} :
    receivedChain chain = chain ↔ Carried chain := by
  constructor
  · intro h
    have hblocks : ∀ e ∈ chain.blocks.entries, ∃ block, e = (block.number, received block) := by
      intro e he
      rw [← h] at he
      obtain ⟨_, hblock, rfl⟩ := List.mem_map.1 (SortedMap.mem_ofList he)
      obtain ⟨block, -, rfl⟩ := List.mem_map.1 hblock
      exact ⟨block, rfl⟩
    refine ⟨fun e he => ?_, fun block hblock => ?_, ?_, ?_, ?_⟩
    · obtain ⟨block, rfl⟩ := hblocks e he
      rfl
    · obtain ⟨e, he, rfl⟩ := List.mem_map.1 hblock
      obtain ⟨block, rfl⟩ := hblocks e he
      exact blockCarried_received block
    · rw [← h]
      rfl
    · rw [← h]
      exact accountId_receivedBundle _
    · rw [← h]
      rfl
  · intro h
    obtain ⟨message, hm, hm'⟩ := receives_chain chain
    obtain ⟨message', hs, hs'⟩ := roundTrips_chain h
    obtain rfl := Except.ok.inj (hm.symm.trans hs)
    exact Except.ok.inj (hm'.symm.trans hs')

/-- Every notification is encoded and decoded. What is lost is what the schema leaves out:
    the notification is the same iff its chains have nothing of that. -/
theorem notification_received (notification : Reth.ExExNotification) :
    ∃ message, Proto.ExExNotification.tryFrom notification = .ok message ∧
      ExExNotification.tryFrom message = .ok (receivedNotification notification) ∧
      (receivedNotification notification = notification ↔
        ∀ chain ∈ chains notification, Carried chain) := by
  obtain ⟨message, hm, hm'⟩ := receives_notification notification
  refine ⟨message, hm, hm', ?_⟩
  rcases notification with new | ⟨old, new⟩ | old <;>
    simp [receivedNotification, chains, receivedChain_eq_self_iff]

/-! ## The consumer -/

/-- What a consumer logs. -/
inductive Line
  | receivedCommit (committedChain : UInt64 × UInt64)
  | receivedReorg (fromChain toChain : UInt64 × UInt64)
  | receivedRevert (revertedChain : UInt64 × UInt64)
  deriving DecidableEq

def lineOf : Reth.ExExNotification → Option Line
  | .chainCommitted new => new.range.map .receivedCommit
  | .chainReorged old new => do
    let fromChain ← old.range
    let toChain ← new.range
    some (.receivedReorg fromChain toChain)
  | .chainReverted old => old.range.map .receivedRevert

/-- An iteration of the loop of a consumer. -/
def handle (message : Proto.ExExNotification) : Except Error Line := do
  let notification ← ExExNotification.tryFrom message
  unwrap (lineOf notification)

/-- Why a consumer fails. -/
inductive Failure (ε : Type)
  /-- The stream gives an error in place of a message. -/
  | transport (status : ε)
  | handling (e : Error)

section

variable {ε μ : Type}

/-- What a consumer logs of what its stream gives, and why it fails, if it does. -/
def consume : List (Except ε Proto.ExExNotification) → List Line × Option (Failure ε)
  | [] => ([], none)
  | .error status :: _ => ([], some (.transport status))
  | .ok message :: messages =>
    match handle message with
    | .error e => ([], some (.handling e))
    | .ok line => (line :: (consume messages).1, (consume messages).2)

/-- What the transport has given of what it took from a channel: the first of it, in the same
    order. It may have failed then, and gives nothing more. -/
inductive Carries (taken : List μ) : List (Except ε μ) → Prop
  | ok {l : List μ} : l <+: taken → Carries taken (l.map .ok)
  | failed {l : List μ} (status : ε) : l <+: taken → Carries taken (l.map .ok ++ [.error status])

/-- How many messages a stream has given. -/
def given (got : List (Except ε μ)) : ℕ := got.countP Except.isOk

end

/-- A chain as the node makes them: its blocks are under their numbers, and there is one. -/
structure Made (chain : Reth.Chain) : Prop where
  number : ∀ e ∈ chain.blocks.entries, e.1 = e.2.number
  ne_nil : chain.blocksIter ≠ []

section

variable {chain : Reth.Chain} {notification : Reth.ExExNotification}

theorem Made.blocksIter_received (h : Made chain) :
    (receivedChain chain).blocksIter = chain.blocksIter.map received := by
  let blocks : SortedMap UInt64 Reth.RecoveredBlock :=
    ⟨chain.blocks.entries.map fun e => (e.1, received e.2), List.pairwise_map.2 chain.blocks.sorted⟩
  have hentries : (chain.blocksIter.map received).map (fun block => (block.number, block)) =
      blocks.entries := by
    rw [Reth.Chain.blocksIter, SortedMap.values, List.map_map, List.map_map]
    refine List.map_congr_left fun e he => Prod.ext ?_ rfl
    exact (h.number e he).symm
  have hblocks : (receivedChain chain).blocks = blocks := by
    rw [receivedChain, Reth.Chain.new, hentries, SortedMap.ofList_entries]
  rw [Reth.Chain.blocksIter, hblocks, Reth.Chain.blocksIter, SortedMap.values, SortedMap.values,
    List.map_map, List.map_map]
  rfl

theorem Made.range_received (h : Made chain) : (receivedChain chain).range = chain.range := by
  rw [Reth.Chain.range, Reth.Chain.range, Reth.Chain.first, Reth.Chain.tip, Reth.Chain.first,
    Reth.Chain.tip, h.blocksIter_received, List.head?_map, List.getLast?_map]
  cases chain.blocksIter.head? <;> cases chain.blocksIter.getLast? <;> rfl

theorem lineOf_received (h : ∀ chain ∈ chains notification, Made chain) :
    lineOf (receivedNotification notification) = lineOf notification := by
  rcases notification with new | ⟨old, new⟩ | old
  · simp only [lineOf, receivedNotification, (h new (by simp [chains])).range_received]
  · simp only [lineOf, receivedNotification, (h old (by simp [chains])).range_received,
      (h new (by simp [chains])).range_received]
  · simp only [lineOf, receivedNotification, (h old (by simp [chains])).range_received]

theorem exists_lineOf (h : ∀ chain ∈ chains notification, Made chain) :
    ∃ line, lineOf notification = some line := by
  rcases notification with new | ⟨old, new⟩ | old
  · obtain ⟨range, hrange⟩ := Reth.Chain.exists_range (h new (by simp [chains])).ne_nil
    exact ⟨.receivedCommit range, by simp [lineOf, hrange]⟩
  · obtain ⟨fromChain, hold⟩ := Reth.Chain.exists_range (h old (by simp [chains])).ne_nil
    obtain ⟨toChain, hnew⟩ := Reth.Chain.exists_range (h new (by simp [chains])).ne_nil
    exact ⟨.receivedReorg fromChain toChain, by simp [lineOf, hold, hnew]⟩
  · obtain ⟨range, hrange⟩ := Reth.Chain.exists_range (h old (by simp [chains])).ne_nil
    exact ⟨.receivedRevert range, by simp [lineOf, hrange]⟩

/-- A notification is logged as it would be by the node. -/
theorem handle_encoded {message : Proto.ExExNotification}
    (h : ∀ chain ∈ chains notification, Made chain)
    (hmessage : Proto.ExExNotification.tryFrom notification = .ok message) :
    ∃ line, handle message = .ok line ∧ lineOf notification = some line := by
  obtain ⟨message', hm, hm'⟩ := receives_notification notification
  obtain rfl := Except.ok.inj (hm.symm.trans hmessage)
  obtain ⟨line, hline⟩ := exists_lineOf h
  refine ⟨line, ?_, hline⟩
  rw [handle, hm', ok_bind, lineOf_received h, hline, unwrap_some]

/-- Encoded notifications are logged, before what comes after them. -/
theorem consume_encoded {ε : Type} {segment : List Reth.ExExNotification}
    {messages : List Proto.ExExNotification} (rest : List (Except ε Proto.ExExNotification))
    (h : ∀ notification ∈ segment, ∀ chain ∈ chains notification, Made chain)
    (hmessages : segment.map Proto.ExExNotification.tryFrom = messages.map .ok) :
    ∃ lines, consume (messages.map .ok ++ rest) = (lines ++ (consume rest).1, (consume rest).2) ∧
      segment.map lineOf = lines.map some := by
  induction segment generalizing messages with
  | nil =>
    rw [List.map_nil, eq_comm, List.map_eq_nil_iff] at hmessages
    subst hmessages
    exact ⟨[], rfl, rfl⟩
  | cons notification segment ih =>
    rcases messages with _ | ⟨message, messages⟩
    · cases hmessages
    obtain ⟨hmessage, hmessages⟩ := List.cons.inj hmessages
    obtain ⟨line, hhandle, hline⟩ := handle_encoded (h notification List.mem_cons_self) hmessage
    obtain ⟨lines, hlines, hsegment⟩ :=
      ih (fun n hn => h n (List.mem_cons_of_mem _ hn)) hmessages
    refine ⟨line :: lines, ?_, ?_⟩
    · simp only [List.map_cons, List.cons_append, consume, hhandle, hlines]
    · rw [List.map_cons, List.map_cons, hline, hsegment]

end

/-! ## What ends a stream -/

/-- A task that ended did so as its client was gone, as the channel was closed and nothing was
    left in it, or as it was behind. -/
structure Subscriber.EndsFor (closed : Bool) (notifications : List Reth.ExExNotification)
    (first : ℕ) (sub : Subscriber) : Prop where
  forwards : sub.Forwards notifications first
  queue : sub.queue.length ≤ 1
  ended : sub.task = .ended → sub.gone = true ∨
    (closed = true ∧ notifications.length ≤ first + sub.put.length) ∨
    Broadcast.Overwritten 1 notifications (first + sub.put.length)

section

variable {notifications : List Reth.ExExNotification} {closed : Bool} {first : ℕ}
  {sub sub' : Subscriber} {action : Action}

/-- The channel is closed. -/
theorem Subscriber.EndsFor.close (h : sub.EndsFor closed notifications first) {closed' : Bool}
    (hclosed : closed = true → closed' = true) : sub.EndsFor closed' notifications first where
  forwards := h.forwards
  queue := h.queue
  ended hended := (h.ended hended).imp_right (Or.imp_left (And.imp_left hclosed))

/-- More is broadcast, which is only while the channel is open. -/
theorem Subscriber.EndsFor.append (h : sub.EndsFor false notifications first)
    (more : List Reth.ExExNotification) : sub.EndsFor false (notifications ++ more) first where
  forwards := h.forwards.append more
  queue := h.queue
  ended hended := by
    rcases h.ended hended with hgone | ⟨hclosed, -⟩ | hover
    · exact .inl hgone
    · cases hclosed
    · exact .inr (.inr (hover.append more))

/-- The next notification is the one after those put on the stream. -/
theorem Subscriber.Forwards.next_eq (h : sub.Forwards notifications first)
    (hended : sub.task ≠ .ended) : sub.next = first + (sub.put ++ sub.pending).length := by
  obtain ⟨segment, -, hmap, hnext⟩ := h.segment
  have hlength := congrArg List.length hmap
  rw [List.length_map, List.length_map] at hlength
  rw [hnext hended, hlength]

/-- Nothing is received only if the channel is closed at its end, or the receiver is behind. -/
theorem closed_of_recv {next next' : ℕ} {e : Broadcast.RecvError}
    (h : Broadcast.recv 1 notifications closed next = some (.error e, next')) :
    (closed = true ∧ notifications.length ≤ next) ∨
      Broadcast.Overwritten 1 notifications next := by
  rw [Broadcast.recv] at h
  by_cases hover : Broadcast.Overwritten 1 notifications next
  · exact .inr hover
  · rw [if_neg hover] at h
    rcases hnext : notifications[next]? with _ | notification <;> rw [hnext] at h
    · cases closed
      · cases h
      · exact .inl ⟨rfl, List.getElem?_eq_none_iff.1 hnext⟩
    · cases h

theorem Subscriber.EndsFor.act (h : sub.EndsFor closed notifications first)
    (hact : sub.act notifications closed action = some sub') :
    sub'.EndsFor closed notifications first := by
  have hforwards := h.forwards.moves (Subscriber.moves_of_act hact)
  cases action with
  | recv =>
    rw [Subscriber.act] at hact
    rcases htask : sub.task with _ | message | _ <;> rw [htask] at hact
    · have hnext := h.forwards.next_eq (by rw [htask]; intro hended; cases hended)
      rw [Subscriber.pending, htask, List.append_nil] at hnext
      dsimp only at hact
      rcases hrecv : Broadcast.recv 1 notifications closed sub.next with
        _ | ⟨e | notification, next⟩ <;> rw [hrecv] at hact
      · cases hact
      · obtain rfl := Option.some.inj hact
        exact ⟨hforwards, h.queue, fun _ => .inr (hnext ▸ closed_of_recv hrecv)⟩
      · -- It is always encoded.
        obtain ⟨message, hmessage, -⟩ := receives_notification notification
        simp only [hmessage, Option.some.injEq] at hact
        subst hact
        exact ⟨hforwards, h.queue, fun hended => by cases hended⟩
    · cases hact
    · cases hact
  | send =>
    rw [Subscriber.act] at hact
    rcases htask : sub.task with _ | message | _ <;> rw [htask] at hact
    · cases hact
    · dsimp only at hact
      split_ifs at hact with hgone hroom
      · obtain rfl := Option.some.inj hact
        exact ⟨hforwards, h.queue, fun _ => .inl hgone⟩
      · obtain rfl := Option.some.inj hact
        refine ⟨hforwards, ?_, fun hended => by cases hended⟩
        rw [List.length_append]
        exact Nat.succ_le_of_lt hroom
    · cases hact
  | take =>
    rw [Subscriber.act] at hact
    rcases hqueue : sub.queue with _ | ⟨message, queue⟩ <;> rw [hqueue] at hact
    · cases hact
    · obtain rfl := Option.some.inj hact
      have hle := h.queue
      rw [hqueue] at hle
      exact ⟨hforwards, (Nat.le_succ _).trans hle, h.ended⟩
  | drop =>
    obtain rfl := Option.some.inj hact
    exact ⟨hforwards, Nat.zero_le _, fun _ => .inl rfl⟩

end

/-- A subscriber, as long as the service goes on. -/
def Service.Streams (i first : ℕ) (s : Service) : Prop :=
  ∃ sub, s.subscribers[i]? = some sub ∧ sub.EndsFor s.closed s.notifications first

theorem Service.closed_eq_false {s : Service} (h : s.running = true) : s.closed = false := by
  rw [Service.closed, h, Bool.not_true, Bool.false_and]

theorem Service.Streams.step {i first : ℕ} {s s' : Service} {e : Event} (h : s.Streams i first)
    (hstep : s.next e = some s') : s'.Streams i first := by
  obtain ⟨sub, hsub, h⟩ := h
  have hi : i < s.subscribers.length := (List.getElem?_eq_some_iff.1 hsub).1
  cases e with
  | notification notification accepted =>
    rw [Service.next] at hstep
    split_ifs at hstep with hrunning
    obtain rfl := Option.some.inj hstep
    obtain ⟨hsubscribers, more, hmore⟩ := exex_eq notification accepted s
    refine ⟨sub, by rw [hsubscribers, hsub], ?_⟩
    rw [Service.closed_eq_false hrunning] at h
    rw [hmore]
    exact (h.append more).close fun hclosed => by cases hclosed
  | exexEnds =>
    obtain rfl := Option.some.inj hstep
    exact ⟨sub, hsub, h.close fun hclosed => (Bool.and_eq_true_iff.1 hclosed).2⟩
  | serverEnds =>
    obtain rfl := Option.some.inj hstep
    refine ⟨sub, hsub, h.close fun hclosed => ?_⟩
    simp only [Service.closed, Bool.not_false, Bool.and_true]
    exact (Bool.and_eq_true_iff.1 hclosed).1
  | subscribe =>
    rw [Service.next] at hstep
    split_ifs at hstep
    obtain rfl := Option.some.inj hstep
    exact ⟨sub, by rw [List.getElem?_append_left hi, hsub], h⟩
  | subscriber j action =>
    rw [Service.next] at hstep
    rcases hj : s.subscribers[j]? with _ | subj <;> rw [hj] at hstep
    · cases hstep
    · dsimp only at hstep
      rcases hact : subj.act s.notifications s.closed action with _ | subj' <;> rw [hact] at hstep
      · cases hstep
      · obtain rfl := Option.some.inj hstep
        rcases eq_or_ne j i with rfl | hne
        · obtain rfl := Option.some.inj (hj.symm.trans hsub)
          exact ⟨subj', List.getElem?_set_self hi, h.act hact⟩
        · exact ⟨sub, by rw [List.getElem?_set_ne hne, hsub], h⟩

/-- What a consumer sees of the notifications from a position on, when its stream has given
    what it has got. -/
structure Sees {ε : Type} (s : Service) (first : ℕ) (sub : Subscriber)
    (got : List (Except ε Proto.ExExNotification)) : Prop where
  /-- It logs some of them, in their order and without gaps: one for each message. -/
  lines : ∃ segment, segment <+: s.notifications.drop first ∧
    segment.map lineOf = (consume got).1.map some ∧ segment.length = given got
  /-- It fails only as the transport does. -/
  failure : ∀ failure ∈ (consume got).2, ∃ status, failure = .transport status ∧ .error status ∈ got
  /-- But for what is on the way, it is at most three behind, unless its stream is about to
      end: what is in its channel, what its task is about to send, and what is broadcast. -/
  behind : sub.task ≠ .ended → sub.gone = false →
    Broadcast.Overwritten 1 s.notifications sub.next ∨
      s.notifications.length ≤ first + given got + (sub.taken.length - given got) + 3
  /-- Its stream ends only for these reasons. -/
  ended : sub.task = .ended → sub.gone = true ∨
    (s.closed = true ∧ s.notifications.length ≤ first + sub.put.length) ∨
    Broadcast.Overwritten 1 s.notifications (first + sub.put.length)

theorem Subscriber.EndsFor.behind {closed : Bool} {notifications : List Reth.ExExNotification}
    {first : ℕ} {sub : Subscriber} (h : sub.EndsFor closed notifications first)
    (hended : sub.task ≠ .ended) (hgone : sub.gone = false) :
    Broadcast.Overwritten 1 notifications sub.next ∨
      notifications.length ≤ first + sub.taken.length + 3 := by
  have hnext := h.forwards.next_eq hended
  have hclient := congrArg List.length (h.forwards.client_eq hgone)
  have hqueue := h.queue
  have hpending : sub.pending.length ≤ 1 := by
    rw [Subscriber.pending]
    split <;> simp
  rw [List.length_append] at hnext hclient
  rw [Broadcast.Overwritten]
  omega

/-- A consumer logs what the transport has given. -/
theorem Subscriber.EndsFor.consumes {ε : Type} {closed : Bool}
    {notifications : List Reth.ExExNotification} {first : ℕ} {sub : Subscriber}
    {got : List (Except ε Proto.ExExNotification)} (h : sub.EndsFor closed notifications first)
    (hmade : ∀ notification ∈ notifications, ∀ chain ∈ chains notification, Made chain)
    (hgot : Carries sub.taken got) :
    (∃ segment, segment <+: notifications.drop first ∧
      segment.map lineOf = (consume got).1.map some ∧ segment.length = given got) ∧
    (∀ failure ∈ (consume got).2, ∃ status, failure = .transport status ∧ .error status ∈ got) ∧
    given got ≤ sub.taken.length := by
  obtain ⟨put, hput, hmap⟩ := h.forwards.contiguous
  -- What was given is the start of what was put on the stream.
  have hstart {l : List Proto.ExExNotification} (hl : l <+: sub.taken)
      (rest : List (Except ε Proto.ExExNotification)) :
      ∃ segment lines, segment <+: notifications.drop first ∧ segment.length = l.length ∧
        segment.map lineOf = lines.map some ∧
        consume (l.map .ok ++ rest) = (lines ++ (consume rest).1, (consume rest).2) := by
    have hle : l <+: sub.put := hl.trans ((List.prefix_append _ _).trans h.forwards.client)
    have hsegment : (put.take l.length).map Proto.ExExNotification.tryFrom = l.map .ok := by
      rw [List.map_take, hmap, ← List.map_take, ← List.prefix_iff_eq_take.1 hle]
    have hfirst := (List.take_prefix l.length put).trans hput
    obtain ⟨lines, hlines, hlineOf⟩ := consume_encoded rest
      (fun n hn => hmade n (List.mem_of_mem_drop (List.IsPrefix.subset hfirst hn))) hsegment
    have hlength := congrArg List.length hsegment
    rw [List.length_map, List.length_map] at hlength
    exact ⟨_, lines, hfirst, hlength, hlineOf, hlines⟩
  have hgiven (l : List Proto.ExExNotification) :
      (l.map (.ok : _ → Except ε _)).countP Except.isOk = l.length := by
    rw [List.countP_map, List.countP_eq_length]
    exact fun _ _ => rfl
  cases hgot with
  | @ok l hl =>
    obtain ⟨segment, lines, hfirst, hlength, hlineOf, hlines⟩ := hstart hl []
    rw [List.append_nil, consume, List.append_nil] at hlines
    rw [hlines, given, hgiven]
    exact ⟨⟨segment, hfirst, hlineOf, hlength⟩, (fun _ hnone => by cases hnone), hl.length_le⟩
  | @failed l status hl =>
    obtain ⟨segment, lines, hfirst, hlength, hlineOf, hlines⟩ := hstart hl [.error status]
    rw [consume, List.append_nil] at hlines
    rw [hlines, given, List.countP_append, hgiven]
    refine ⟨⟨segment, hfirst, hlineOf, hlength⟩, fun failure hfailure => ⟨status, ?_, ?_⟩,
      hl.length_le⟩
    · exact (Option.some.inj hfailure).symm
    · exact List.mem_append_right _ (List.mem_singleton_self _)

/-- From a subscription on, there is a stream. -/
theorem streams_of_subscribe {s s₁ s₂ : Service} (hsubscribe : remote.step s .subscribe s₁)
    (hrun : remote.Leads s₁ s₂) :
    s₂.Streams s.subscribers.length s.notifications.length := by
  refine hrun.invariant (fun _ _ _ h hstep => h.step hstep) ?_
  replace hsubscribe : s.next .subscribe = some s₁ := hsubscribe
  rw [Service.next] at hsubscribe
  split_ifs at hsubscribe
  obtain rfl := Option.some.inj hsubscribe
  exact ⟨_, List.getElem?_concat_length, .new _, Nat.zero_le _, fun hended => by cases hended⟩

/-- From a subscription on, a consumer logs what the node logs, as long as its stream goes
    on, and the stream does not end without a reason. -/
theorem consumer_sees {s s₁ s₂ : Service} (hsubscribe : remote.step s .subscribe s₁)
    (hrun : remote.Leads s₁ s₂)
    (hmade : ∀ notification ∈ s₂.notifications, ∀ chain ∈ chains notification, Made chain) :
    ∃ sub, s₂.subscribers[s.subscribers.length]? = some sub ∧
      ∀ {ε : Type} (got : List (Except ε Proto.ExExNotification)), Carries sub.taken got →
        Sees s₂ s.notifications.length sub got := by
  obtain ⟨sub, hsub, h⟩ := streams_of_subscribe hsubscribe hrun
  refine ⟨sub, hsub, fun got hgot => ?_⟩
  obtain ⟨hlines, hfailure, hle⟩ := h.consumes hmade hgot
  refine ⟨hlines, hfailure, fun hended hgone => ?_, h.ended⟩
  refine (h.behind hended hgone).imp_right fun hbehind => ?_
  omega

/-! ### A consumer -/

/-- A consumer takes one notification, its task holds another, and a third one is broadcast. -/
def oneTaken : List Event :=
  [.notification (revertOf 3) true, .subscriber 0 .recv, .subscriber 0 .send, .subscriber 0 .take,
    .notification (revertOf 2) true, .subscriber 0 .recv, .notification (revertOf 1) true]

theorem made_revertOf (number : UInt64) : ∀ chain ∈ chains (revertOf number), Made chain := by
  intro chain hchain
  obtain rfl := List.mem_singleton.1 hchain
  refine ⟨fun e he => ?_, List.cons_ne_nil _ _⟩
  obtain rfl := List.mem_singleton.1 he
  rfl

/-- The service after it, and its subscriber. -/
theorem exists_oneTaken : ∃ s₁ s₂ sub, remote.step .start .subscribe s₁ ∧ remote.Leads s₁ s₂ ∧
    s₂.notifications = [revertOf 3, revertOf 2, revertOf 1] ∧ s₂.subscribers[0]? = some sub ∧
    sub.taken.length = 1 ∧ (sub.put ++ sub.pending).length = 2 ∧ sub.gone = false := by
  let s₁ : Service := { Service.start with subscribers := [.new []] }
  obtain ⟨s₂, sub, hfold, hresult⟩ :
      ∃ s₂ sub, oneTaken.foldlM Service.next s₁ = some s₂ ∧
        s₂.notifications = [revertOf 3, revertOf 2, revertOf 1] ∧
        s₂.subscribers[0]? = some sub ∧ sub.taken.length = 1 ∧
        (sub.put ++ sub.pending).length = 2 ∧ sub.gone = false :=
    ⟨_, _, rfl, rfl, rfl, rfl, rfl, rfl⟩
  exact ⟨s₁, s₂, sub, rfl, System.Leads.foldlM (fun _ _ _ h => h) hfold, hresult⟩

theorem made_oneTaken : ∀ notification ∈ [revertOf 3, revertOf 2, revertOf 1],
    ∀ chain ∈ chains notification, Made chain := by
  intro notification hnotification
  simp only [List.mem_cons, List.not_mem_nil, or_false] at hnotification
  rcases hnotification with rfl | rfl | rfl <;> exact made_revertOf _

/-- What was taken comes through, and then the transport fails. -/
theorem sees_oneTaken : ∃ s₁ s₂ sub, remote.step .start .subscribe s₁ ∧ remote.Leads s₁ s₂ ∧
    s₂.notifications.length = 3 ∧ s₂.subscribers[0]? = some sub ∧ sub.taken.length = 1 ∧
    Sees s₂ 0 sub (sub.taken.map .ok ++ [.error ()]) := by
  obtain ⟨s₁, s₂, sub, hsubscribe, hrun, hnotifications, hsub, htaken, -, -⟩ := exists_oneTaken
  obtain ⟨sub', hsub', hsees⟩ :=
    consumer_sees hsubscribe hrun (hnotifications ▸ made_oneTaken)
  obtain rfl := Option.some.inj (hsub.symm.trans hsub')
  exact ⟨s₁, s₂, sub, hsubscribe, hrun, by rw [hnotifications]; rfl, hsub, htaken,
    hsees _ (.failed () (List.prefix_refl _))⟩

end ExEx.Remote
