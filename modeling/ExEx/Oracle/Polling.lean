import ExEx.InMemoryState
import ExEx.Lib.Except
import ExEx.Lib.Iteration
import ExEx.Oracle.Connection

/-!
# Polls of the oracle

The tasks of the oracle take what there is off a channel until it is empty. They are
done when the channel is closed as well, and fail when an item cannot be handled. These
loops always end (`endsWith_drain`).

A task that is done is done again whenever it is polled, at once. But the tasks around
these poll them until they are pending: such a loop does not end when the task is done
(`ends_untilPending`). So a poll of the network ends iff the channel of the discovery is
open or a discovered node is refused (`OracleNetwork.ends_poll_iff`), and the loop over
the extension ends iff its notifications may go on or one of them fails
(`ends_pollExEx_iff`).
-/

namespace ExEx.Oracle

open Reth (Bundles Chain ExExNotification)

/-! ## Tasks -/

/-- An error, by its text. -/
abbrev Error := String

/-- The error of a channel whose receiver is gone. -/
def sendError : Error := "channel closed"

/-- How a task fails. -/
inductive Failure
  | error (e : Error)
  | panic

/-- What a task answers when it is polled. -/
inductive TaskPoll
  | pending
  /-- The task is done. -/
  | ready
  | failed (failure : Failure)

section

variable {α σ : Type}

/-- A turn of the loop of a task: it takes the next item of its channel and handles it,
    up to the first that cannot be handled. `atEnd` is the answer when the channel is
    closed. -/
def drainTurn (atEnd : TaskPoll) (handle : σ → α → Except (Failure × σ) σ) :
    Channel α × σ → Turn (Channel α × σ) (TaskPoll × Channel α × σ)
  | (c, s) =>
    match c.pollNext with
    | (.pending, c) => .stop (.pending, c, s)
    | (.ready none, c) => .stop (atEnd, c, s)
    | (.ready (some a), c) =>
      match handle s a with
      | .ok s => .again (c, s)
      | .error (failure, s) => .stop (.failed failure, c, s)

/-- What that loop does with the items of a channel: it ends (`endsWith_drain`). -/
def drainItems (atEnd : TaskPoll) (handle : σ → α → Except (Failure × σ) σ) :
    List α → Channel α → σ → TaskPoll × Channel α × σ
  | [], c, s => if c.closed then (atEnd, c, s) else (.pending, { c with waker := true }, s)
  | a :: queue, c, s =>
    match handle s a with
    | .ok s => drainItems atEnd handle queue ⟨queue, c.closed, false⟩ s
    | .error (failure, s) => (.failed failure, ⟨queue, c.closed, false⟩, s)

def drain (atEnd : TaskPoll) (handle : σ → α → Except (Failure × σ) σ) (c : Channel α) (s : σ) :
    TaskPoll × Channel α × σ :=
  drainItems atEnd handle c.queue c s

/-- A turn of a loop that polls a task until it is pending, or fails. -/
def untilPending (poll : σ → TaskPoll × σ) (s : σ) : Turn σ (TaskPoll × σ) :=
  match poll s with
  | (.ready, s) => .again s
  | (answer, s) => .stop (answer, s)

end

/-! ## The network -/

/-- What the discovery reports. -/
inductive DiscoveryEvent (ν : Type)
  | discovered (enr : ν)
  | sessionEstablished (enr : ν)
  | other

/-- A discovery: the table of its nodes, and its events. -/
structure Discovery (ν τ : Type) where
  inner : τ
  events : Channel (DiscoveryEvent ν)

/-- The events of the protocol. -/
inductive ProtocolEvent
  | established

structure OracleNetwork (ν τ : Type) where
  discovery : Discovery ν τ
  protoEvents : Channel ProtocolEvent

section

variable {ν τ : Type} (addNode : τ → ν → Except Error τ)

namespace Discovery

/-- The table after an event. A node that it refuses is an error. -/
def handleEvent (inner : τ) : DiscoveryEvent ν → Except (Failure × τ) τ
  | .discovered enr =>
    match addNode inner enr with
    | .ok inner => .ok inner
    | .error e => .error (.error e, inner)
  | .sessionEstablished _ => .ok inner
  | .other => .ok inner

def poll (d : Discovery ν τ) : TaskPoll × Discovery ν τ :=
  let r := drain .ready (handleEvent addNode) d.events d.inner
  (r.1, ⟨r.2.2, r.2.1⟩)

/-- A node that was discovered is refused by the table that those before it leave. -/
def Refuses (d : Discovery ν τ) : Prop :=
  ∃ l₁ enr l₂ inner, d.events.queue = l₁ ++ .discovered enr :: l₂ ∧
    l₁.foldlM (handleEvent addNode) d.inner = .ok inner ∧ ¬Succeeds (addNode inner enr)

end Discovery

namespace OracleNetwork

/-- The events of the protocol are only logged. -/
def logEvent (_ : Unit) (_ : ProtocolEvent) : Except (Failure × Unit) Unit := .ok ()

/-- Polls the discovery until it is pending, then takes the events of the protocol. -/
def poll (s : OracleNetwork ν τ) (fuel : ℕ) : Option (TaskPoll × OracleNetwork ν τ) :=
  (iterate (untilPending (Discovery.poll addNode)) s.discovery fuel).map fun
    | (.pending, discovery) =>
      let r := drain .pending logEvent s.protoEvents ()
      (r.1, ⟨discovery, r.2.1⟩)
    | (answer, discovery) => (answer, { s with discovery := discovery })

end OracleNetwork

end

/-! ## The extension -/

/-- The extension, with its notifications and whether the node takes no more events. -/
structure OracleExEx where
  notifications : Channel (Except Error ExExNotification)
  eventsClosed : Bool
  exex : OutcomeExEx

section

variable (B : Bundles)

namespace OracleExEx

/-- Handles a notification. When it cannot be announced that its chain is finished, the
    chain has been added already. -/
def handleNotification (eventsClosed : Bool) (x : OutcomeExEx) :
    Except Error ExExNotification → Except (Failure × OutcomeExEx) OutcomeExEx
  | .error e => .error (.error e, x)
  | .ok notification =>
    match OracleExEx.process B notification x with
    | none => .error (.panic, x)
    | some x' =>
      if eventsClosed = true ∧ notification.committedChain.isSome = true then
        .error (.error sendError, { x' with finishedHeights := x.finishedHeights })
      else .ok x'

def poll (s : OracleExEx) : TaskPoll × OracleExEx :=
  let r := drain .ready (handleNotification B s.eventsClosed) s.notifications s.exex
  (r.1, { s with notifications := r.2.1, exex := r.2.2 })

end OracleExEx

/-- The loop of the oracle that polls its extension. -/
def pollExEx : OracleExEx → ℕ → Option (TaskPoll × OracleExEx) :=
  iterate (untilPending (OracleExEx.poll B))

end

/-- The chain before which the outcome is reverted starts at block `0`. -/
def BeforeZero : ExExNotification → Prop
  | .chainCommitted _ => False
  | .chainReorged _ new => ∃ first ∈ new.first, first.number = 0
  | .chainReverted old => ∃ first ∈ old.first, first.number = 0

/-- A notification ends a poll: it is an error, a chain of it has no blocks, the outcome is
    reverted to before block `0`, or its chain is to be announced as finished when the node
    takes no more events. -/
def OracleExEx.Fails (eventsClosed : Bool) : Except Error ExExNotification → Prop
  | .error _ => True
  | .ok notification =>
    notification.Blockless ∨ BeforeZero notification ∨
      (eventsClosed = true ∧ notification.committedChain.isSome = true)

/-! ## Tasks until they are pending -/

section

variable {α σ : Type} {atEnd : TaskPoll} {handle : σ → α → Except (Failure × σ) σ}

/-- The loop of a task ends on every channel, open or closed: each turn that goes on has
    taken an item. -/
theorem endsWith_drain (c : Channel α) (s : σ) :
    EndsWith (iterate (drainTurn atEnd handle) (c, s)) (drain atEnd handle c s) := by
  rw [drain]
  induction hqueue : c.queue generalizing c s with
  | nil =>
    rw [drainItems]
    refine (endsWith_stop ?_).2 rfl
    by_cases hclosed : c.closed = true
    · rw [drainTurn, Channel.pollNext_of_closed hqueue hclosed, if_pos hclosed]
    · rw [drainTurn, Channel.pollNext_of_open hqueue (Bool.not_eq_true _ ▸ hclosed),
        if_neg hclosed]
  | cons a queue ih =>
    have hturn : drainTurn atEnd handle (c, s) =
        match handle s a with
        | .ok s => .again (⟨queue, c.closed, false⟩, s)
        | .error (failure, s) => .stop (.failed failure, ⟨queue, c.closed, false⟩, s) := by
      rw [drainTurn, Channel.pollNext_of_cons hqueue]
    rw [drainItems]
    rcases ha : handle s a with ⟨failure, s₁⟩ | s₁ <;> rw [ha] at hturn
    · exact (endsWith_stop hturn).2 rfl
    · exact (endsWith_again hturn).2 (ih ⟨queue, c.closed, false⟩ s₁ rfl)

variable (atEnd) in
/-- When every item can be handled, the channel is empty then, and the answer is that of
    its end if it is closed. -/
theorem drain_of_ok {c : Channel α} {s s' : σ} (h : c.queue.foldlM handle s = .ok s') :
    ∃ c', c'.queue = [] ∧ c'.closed = c.closed ∧
      drain atEnd handle c s = (if c.closed then atEnd else .pending, c', s') := by
  rw [drain]
  induction hqueue : c.queue generalizing c s with
  | nil =>
    rw [hqueue] at h
    obtain rfl := Except.ok.inj h
    rw [drainItems]
    split_ifs
    · exact ⟨c, hqueue, rfl, rfl⟩
    · exact ⟨{ c with waker := true }, hqueue, rfl, rfl⟩
  | cons a queue ih =>
    rw [hqueue, List.foldlM_cons] at h
    rcases ha : handle s a with e | s₁ <;> rw [ha] at h
    · cases h
    · rw [drainItems, ha]
      exact ih (c := ⟨queue, c.closed, false⟩) h rfl

/-- An item that cannot be handled is the answer. -/
theorem drain_of_error {c : Channel α} {s s' : σ} {failure : Failure}
    (h : c.queue.foldlM handle s = .error (failure, s')) :
    (drain atEnd handle c s).1 = .failed failure := by
  rw [drain]
  induction hqueue : c.queue generalizing c s with
  | nil => rw [hqueue] at h; cases h
  | cons a queue ih =>
    rw [hqueue, List.foldlM_cons] at h
    rcases ha : handle s a with e | s₁ <;> rw [ha] at h
    · obtain rfl := Except.error.inj h
      rw [drainItems, ha]
    · rw [drainItems, ha]
      exact ih (c := ⟨queue, c.closed, false⟩) h rfl

/-- A task is done iff its channel is closed and every item of it can be handled. -/
theorem drain_eq_ready_iff {c : Channel α} {s : σ} :
    (drain .ready handle c s).1 = .ready ↔
      c.closed = true ∧ Succeeds (c.queue.foldlM handle s) := by
  rcases h : c.queue.foldlM handle s with ⟨failure, s'⟩ | s'
  · rw [drain_of_error h]
    refine iff_of_false (fun hready => by cases hready) ?_
    rintro ⟨-, _, hok⟩
    cases hok
  · obtain ⟨c', -, -, hdrain⟩ := drain_of_ok .ready h
    rw [hdrain, and_iff_left ⟨s', rfl⟩]
    rcases c.closed
    · exact iff_of_false (fun hready => by cases hready) Bool.false_ne_true
    · exact iff_of_true rfl rfl

/-- A task that is done is done again when it is polled. -/
theorem drain_ready {c : Channel α} {s : σ} (h : (drain .ready handle c s).1 = .ready) :
    (drain .ready handle (drain .ready handle c s).2.1
      (drain .ready handle c s).2.2).1 = .ready := by
  obtain ⟨hclosed, s', hs'⟩ := drain_eq_ready_iff.1 h
  obtain ⟨c', hqueue, hc', hdrain⟩ := drain_of_ok .ready hs'
  rw [hdrain]
  refine drain_eq_ready_iff.2 ⟨hc'.trans hclosed, s', ?_⟩
  rw [hqueue]
  rfl

section

variable (poll : σ → TaskPoll × σ)
  (hready : ∀ s, (poll s).1 = .ready → (poll (poll s).2).1 = .ready)
include hready

/-- A loop until a task is pending does not go on after the first poll, unless the task
    is done: it stays so. -/
theorem endsWith_untilPending {s : σ} {r : TaskPoll × σ} :
    EndsWith (iterate (untilPending poll) s) r ↔ (poll s).1 ≠ .ready ∧ r = poll s := by
  by_cases hs : (poll s).1 = .ready
  · refine iff_of_false (fun hends => ?_) fun h => h.1 hs
    refine not_ends_of_invariant (I := fun s => (poll s).1 = .ready) (fun s h => ?_) hs
      (ends_iff.2 ⟨r, hends⟩)
    refine ⟨(poll s).2, ?_, hready s h⟩
    rw [untilPending]
    rcases hpoll : poll s with ⟨answer, s'⟩
    rw [hpoll] at h
    obtain rfl : answer = .ready := h
    rfl
  · rw [and_iff_right hs]
    refine endsWith_stop ?_
    rw [untilPending]
    rcases hpoll : poll s with ⟨_ | _ | failure, s'⟩
    · rfl
    · exact absurd (congrArg Prod.fst hpoll) hs
    · rfl

theorem ends_untilPending {s : σ} :
    Ends (iterate (untilPending poll) s) ↔ (poll s).1 ≠ .ready := by
  simp only [ends_iff, endsWith_untilPending poll hready, exists_and_left, exists_eq, and_true]

end

end

/-! ## The polls of the oracle -/

section

variable {ν τ : Type} {addNode : τ → ν → Except Error τ}

theorem Discovery.not_succeeds_handleEvent {inner : τ} {event : DiscoveryEvent ν} :
    ¬Succeeds (handleEvent addNode inner event) ↔
      ∃ enr, event = .discovered enr ∧ ¬Succeeds (addNode inner enr) := by
  cases event with
  | discovered enr =>
    rw [handleEvent]
    rcases h : addNode inner enr with e | inner' <;> simp [h]
  | sessionEstablished enr => simp [handleEvent]
  | other => simp [handleEvent]

theorem Discovery.refuses_iff {d : Discovery ν τ} :
    d.Refuses addNode ↔ ¬Succeeds (d.events.queue.foldlM (handleEvent addNode) d.inner) := by
  rw [not_succeeds_foldlM]
  constructor
  · rintro ⟨l₁, enr, l₂, inner, hqueue, hl₁, hfail⟩
    exact ⟨l₁, .discovered enr, l₂, inner, hqueue, hl₁,
      not_succeeds_handleEvent.2 ⟨enr, rfl, hfail⟩⟩
  · rintro ⟨l₁, event, l₂, inner, hqueue, hl₁, hfail⟩
    obtain ⟨enr, rfl, hrefused⟩ := not_succeeds_handleEvent.1 hfail
    exact ⟨l₁, enr, l₂, inner, hqueue, hl₁, hrefused⟩

/-- A poll of the network ends iff the channel of the discovery is open, or a node that
    was discovered is refused. -/
theorem OracleNetwork.ends_poll_iff {s : OracleNetwork ν τ} :
    Ends (s.poll addNode) ↔
      s.discovery.events.closed = false ∨ s.discovery.Refuses addNode := by
  have hloop : Ends (s.poll addNode) ↔
      Ends (iterate (untilPending (Discovery.poll addNode)) s.discovery) := ends_map
  have hready : (s.discovery.poll addNode).1 = .ready ↔ _ := drain_eq_ready_iff
  rw [hloop, ends_untilPending (Discovery.poll addNode) fun _ => drain_ready, ne_eq, hready,
    not_and_or, Bool.not_eq_true, Discovery.refuses_iff]

end

section

variable {B : Bundles}

/-- Reverting to the block before a chain panics iff the chain has no blocks, or starts at
    block `0`. -/
theorem revertBefore_eq_none_iff {chain : Chain} {o : Reth.ExecutionOutcome} :
    revertBefore B chain o = none ↔
      chain.blocksIter = [] ∨ ∃ first ∈ chain.first, first.number = 0 := by
  rw [← Chain.first_eq_none_iff, revertBefore]
  rcases chain.first with _ | first
  · simp
  · by_cases hzero : first.number = 0 <;> simp [blockBefore, hzero]

/-- Dropping blocks panics iff the chain they are of has none, or starts at block `0`. -/
theorem dropReverted_eq_none {notification : ExExNotification} {o : Reth.ExecutionOutcome}
    (h : dropReverted B notification o = none) :
    notification.Blockless ∨ BeforeZero notification := by
  cases notification with
  | chainCommitted new => cases h
  | chainReorged old new => exact (revertBefore_eq_none_iff.1 h).imp_left .inr
  | chainReverted old => exact revertBefore_eq_none_iff.1 h

theorem BeforeZero.dropReverted {notification : ExExNotification} (h : BeforeZero notification)
    (o : Reth.ExecutionOutcome) : dropReverted B notification o = none := by
  cases notification with
  | chainCommitted new => cases h
  | chainReorged old new => exact revertBefore_eq_none_iff.2 (.inr h)
  | chainReverted old => exact revertBefore_eq_none_iff.2 (.inr h)

/-- A chain that is added has been logged, so it has a last block. -/
theorem addCommitted_ne_none {notification : ExExNotification} {x : OutcomeExEx}
    (h : ¬notification.Blockless) : addCommitted B notification x ≠ none := by
  rw [addCommitted]
  rcases hchain : notification.committedChain with _ | chain
  · exact Option.some_ne_none x
  · have htip : chain.tip ≠ none := fun htip =>
      h (ExExNotification.blockless_of_committedChain hchain (Chain.tip_eq_none_iff.1 htip))
    simpa using htip

/-- Handling a notification panics iff a chain of it has no blocks, or the outcome is
    reverted to before block `0`. -/
theorem process_eq_none_iff {notification : ExExNotification} {x : OutcomeExEx} :
    OracleExEx.process B notification x = none ↔
      notification.Blockless ∨ BeforeZero notification := by
  rw [OracleExEx.process]
  rcases hdrop : dropReverted B notification x.executionOutcome with _ | o
  · exact iff_of_true (processNotification_of_none hdrop) (dropReverted_eq_none hdrop)
  · have hzero : ¬BeforeZero notification := fun h => by
      rw [h.dropReverted] at hdrop
      cases hdrop
    rw [or_iff_left hzero, ← ExExNotification.ranges_eq_none_iff]
    rcases hranges : notification.ranges with _ | ranges
    · simp [processNotification, hdrop, hranges]
    · rw [processNotification_of_some hranges hdrop]
      refine iff_of_false (addCommitted_ne_none fun hblockless => ?_) (Option.some_ne_none ranges)
      rw [ExExNotification.ranges_eq_none_iff.2 hblockless] at hranges
      cases hranges

theorem OracleExEx.succeeds_handleNotification {eventsClosed : Bool} {x : OutcomeExEx}
    {item : Except Error ExExNotification} :
    Succeeds (handleNotification B eventsClosed x item) ↔ ¬Fails eventsClosed item := by
  rcases item with e | notification
  · simp [handleNotification, Fails]
  · rw [handleNotification, Fails, ← or_assoc, ← process_eq_none_iff (B := B) (x := x)]
    rcases OracleExEx.process B notification x with _ | x'
    · simp
    · by_cases h : eventsClosed = true ∧ notification.committedChain.isSome = true
      · simp [h]
      · simp [h]

/-- The loop over the extension ends iff its notifications may go on, or one of them
    fails. -/
theorem ends_pollExEx_iff {s : OracleExEx} :
    Ends (pollExEx B s) ↔ s.notifications.closed = false ∨
      ∃ item ∈ s.notifications.queue, OracleExEx.Fails s.eventsClosed item := by
  have hready : (s.poll B).1 = .ready ↔ _ := drain_eq_ready_iff
  have hhandle (x : OutcomeExEx) (item : Except Error ExExNotification) :
      Succeeds (OracleExEx.handleNotification B s.eventsClosed x item) ↔ _ :=
    OracleExEx.succeeds_handleNotification
  rw [pollExEx, ends_untilPending (OracleExEx.poll B) fun _ => drain_ready, ne_eq, hready,
    succeeds_foldlM_iff hhandle, not_and_or, Bool.not_eq_true]
  push Not
  rfl

end

end ExEx.Oracle
