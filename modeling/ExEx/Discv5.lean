import ExEx.Oracle.Polling

/-!
# Polls of the discovery extension

The extension `exex-discv5` polls its discovery until it is pending, and then handles
notifications as they come. Neither loop ends by itself: the first goes on when the
discovery is done, the second when there are no more notifications
(`ExexDiscv5.ends_poll_iff`).

So the polls of the three tasks that drain channels end iff these may go on or an item
of them fails (`polls_end_iff`), and with every channel closed and empty none of them
ends (`polls_hang`).
-/

namespace ExEx.Discv5

open Oracle (Channel DiscoveryEvent Error Failure TaskPoll drain untilPending)
open Reth (Chain ExExNotification)

/-- The discovery, at its events. -/
structure DiscV5ExEx (ν : Type) where
  events : Channel (DiscoveryEvent ν)

/-- The extension, with what it has announced and whether the node takes no more events. -/
structure ExexDiscv5 (ν : Type) where
  discV5 : DiscV5ExEx ν
  notifications : Channel (Except Error ExExNotification)
  eventsClosed : Bool
  finishedHeights : List (UInt64 × B256)

section

variable {ν : Type}

/-- The events are only logged. -/
def DiscV5ExEx.logEvent (_ : Unit) (_ : DiscoveryEvent ν) : Except (Failure × Unit) Unit := .ok ()

def DiscV5ExEx.poll (d : DiscV5ExEx ν) : TaskPoll × DiscV5ExEx ν :=
  let r := drain .ready logEvent d.events ()
  (r.1, ⟨r.2.1⟩)

namespace ExexDiscv5

/-- Handles a notification: it is logged, and its chain, if it brings one, is announced as
    finished. -/
def handleNotification (eventsClosed : Bool) (finishedHeights : List (UInt64 × B256)) :
    Except Error ExExNotification → Except Failure (List (UInt64 × B256))
  | .error e => .error (.error e)
  | .ok notification =>
    match notification.ranges, notification.committedChain with
    | none, _ => .error .panic
    | some _, none => .ok finishedHeights
    | some _, some chain =>
      match chain.tip with
      | none => .error .panic
      | some tip =>
        if eventsClosed then .error (.error Oracle.sendError)
        else .ok (finishedHeights ++ [(tip.number, tip.hash)])

/-- A turn of the loop over the notifications. -/
def notificationTurn (s : ExexDiscv5 ν) : Turn (ExexDiscv5 ν) (TaskPoll × ExexDiscv5 ν) :=
  match s.notifications.pollNext with
  | (.pending, notifications) => .stop (.pending, { s with notifications := notifications })
  | (.ready (some item), notifications) =>
    match handleNotification s.eventsClosed s.finishedHeights item with
    | .ok heights => .again { s with notifications := notifications, finishedHeights := heights }
    | .error failure => .stop (.failed failure, { s with notifications := notifications })
  -- The end of the notifications is not told apart from a handled one.
  | (.ready none, notifications) => .again { s with notifications := notifications }

/-- The rest of a poll, unless the discovery has failed. -/
def pollNotifications (s : ExexDiscv5 ν) :
    TaskPoll × DiscV5ExEx ν → ℕ → Option (TaskPoll × ExexDiscv5 ν)
  | (.pending, discV5) => iterate notificationTurn { s with discV5 := discV5 }
  | (answer, discV5) => fun _ => some (answer, { s with discV5 := discV5 })

/-- Polls the discovery until it is pending, then handles notifications. -/
def poll (s : ExexDiscv5 ν) (fuel : ℕ) : Option (TaskPoll × ExexDiscv5 ν) :=
  (iterate (untilPending DiscV5ExEx.poll) s.discV5 fuel).bind fun r => s.pollNotifications r fuel

/-- A notification ends a poll: it is an error, a chain of it has no blocks, or it brings
    one that is to be announced when the node takes no more events. -/
def Fails (eventsClosed : Bool) : Except Error ExExNotification → Prop
  | .error _ => True
  | .ok notification =>
    notification.Blockless ∨ (eventsClosed = true ∧ notification.committedChain.isSome = true)

/-! ## The loops -/

theorem succeeds_handleNotification {eventsClosed : Bool} {heights : List (UInt64 × B256)}
    {item : Except Error ExExNotification} :
    Succeeds (handleNotification eventsClosed heights item) ↔ ¬Fails eventsClosed item := by
  rcases item with e | notification
  · simp [handleNotification, Fails]
  · rw [handleNotification, Fails, ← ExExNotification.ranges_eq_none_iff]
    rcases hranges : notification.ranges with _ | ranges
    · simp
    · rcases hchain : notification.committedChain with _ | chain
      · simp
      · -- A chain that has been logged has a last block.
        have htip : chain.tip ≠ none := fun h => by
          rw [ExExNotification.ranges_eq_none_iff.2
            (ExExNotification.blockless_of_committedChain hchain
              (Chain.tip_eq_none_iff.1 h))] at hranges
          cases hranges
        obtain ⟨tip, htip⟩ := Option.ne_none_iff_exists'.1 htip
        cases eventsClosed <;> simp [htip]

/-- A turn takes the next notification and handles it. -/
theorem notificationTurn_of_cons {s : ExexDiscv5 ν} {item : Except Error ExExNotification}
    {queue : List (Except Error ExExNotification)} (h : s.notifications.queue = item :: queue) :
    notificationTurn s =
      match handleNotification s.eventsClosed s.finishedHeights item with
      | .ok heights => .again { s with
          notifications := ⟨queue, s.notifications.closed, false⟩, finishedHeights := heights }
      | .error failure => .stop (.failed failure,
          { s with notifications := ⟨queue, s.notifications.closed, false⟩ }) := by
  rw [notificationTurn, Channel.pollNext_of_cons h]

/-- A turn at the end of the notifications leaves everything as it is, and goes on. -/
theorem notificationTurn_of_closed {s : ExexDiscv5 ν} (h : s.notifications.queue = [])
    (hclosed : s.notifications.closed = true) : notificationTurn s = .again s := by
  rw [notificationTurn, Channel.pollNext_of_closed h hclosed]

/-- The loop over the notifications ends iff they may go on, or one of them fails. -/
theorem ends_notifications_iff {s : ExexDiscv5 ν} :
    Ends (iterate notificationTurn s) ↔ s.notifications.closed = false ∨
      ∃ item ∈ s.notifications.queue, Fails s.eventsClosed item := by
  induction hqueue : s.notifications.queue generalizing s with
  | nil =>
    rcases hclosed : s.notifications.closed
    · have hturn : notificationTurn s =
          .stop (.pending, { s with notifications := { s.notifications with waker := true } }) := by
        rw [notificationTurn, Channel.pollNext_of_open hqueue hclosed]
      exact iff_of_true (ends_stop hturn) (.inl rfl)
    · refine iff_of_false ?_ (by simp)
      refine not_ends_of_invariant
        (I := fun s => s.notifications.queue = [] ∧ s.notifications.closed = true) ?_
        ⟨hqueue, hclosed⟩
      exact fun s h => ⟨s, notificationTurn_of_closed h.1 h.2, h⟩
  | cons item queue ih =>
    have hhandle : Succeeds (handleNotification s.eventsClosed s.finishedHeights item) ↔
        ¬Fails s.eventsClosed item := succeeds_handleNotification
    have hturn := notificationTurn_of_cons hqueue
    rw [List.exists_mem_cons_iff]
    rcases hitem : handleNotification s.eventsClosed s.finishedHeights item with failure | heights <;>
      rw [hitem] at hhandle hturn
    · -- The notification fails, so the loop ends with it.
      have hfails := not_not.1 ((not_congr hhandle).1 (not_succeeds_error failure))
      exact iff_of_true (ends_stop hturn) (.inr (.inl hfails))
    · rw [ends_again hturn, or_iff_right (hhandle.1 (succeeds_ok heights))]
      exact ih rfl

/-- The discovery is pending when its channel is open, and done when it is closed. -/
theorem poll_discV5 (d : DiscV5ExEx ν) :
    ∃ d', d.poll = (if d.events.closed then .ready else .pending, d') := by
  have hall : Succeeds (d.events.queue.foldlM DiscV5ExEx.logEvent ()) :=
    (succeeds_foldlM_iff fun _ _ => iff_true_intro (succeeds_ok ())).2 fun _ _ => trivial
  obtain ⟨_, hall⟩ := hall
  obtain ⟨c, -, -, hdrain⟩ := Oracle.drain_of_ok .ready hall
  exact ⟨⟨c⟩, by rw [DiscV5ExEx.poll, hdrain]⟩

theorem fueled_pollNotifications (s : ExexDiscv5 ν) (r : TaskPoll × DiscV5ExEx ν) :
    Fueled (s.pollNotifications r) := by
  rcases r with ⟨_ | _ | failure, discV5⟩
  · exact fueled_iterate _ _
  · exact fueled_const _
  · exact fueled_const _

/-- A poll of the extension ends iff the channel of the discovery is open, and the
    notifications may go on or one of them fails. -/
theorem ends_poll_iff {s : ExexDiscv5 ν} :
    Ends s.poll ↔ s.discV5.events.closed = false ∧
      (s.notifications.closed = false ∨
        ∃ item ∈ s.notifications.queue, Fails s.eventsClosed item) := by
  have hready (d : DiscV5ExEx ν) : d.poll.1 = .ready → d.poll.2.poll.1 = .ready :=
    Oracle.drain_ready
  have hends : Ends s.poll ↔ ∃ r, EndsWith (iterate (untilPending DiscV5ExEx.poll) s.discV5) r ∧
      Ends (s.pollNotifications r) :=
    ends_bind (fueled_iterate _ _) s.fueled_pollNotifications
  obtain ⟨discV5, hpoll⟩ := poll_discV5 s.discV5
  have hrest : Ends (s.pollNotifications (.pending, discV5)) ↔ s.notifications.closed = false ∨
      ∃ item ∈ s.notifications.queue, Fails s.eventsClosed item := ends_notifications_iff
  simp only [hends, Oracle.endsWith_untilPending _ hready, hpoll]
  rcases s.discV5.events.closed <;> simp [hrest]

end ExexDiscv5

end

/-! ## All three -/

/-- The polls of the oracle's network, of its extension and of the discovery extension end
    iff the channels they drain may still give something, or an item of them fails. -/
theorem polls_end_iff {ν τ : Type} (addNode : τ → ν → Except Error τ) (B : Reth.Bundles) :
    (∀ s : Oracle.OracleNetwork ν τ, Ends (s.poll addNode) ↔
      s.discovery.events.closed = false ∨ s.discovery.Refuses addNode) ∧
    (∀ s : Oracle.OracleExEx, Ends (Oracle.pollExEx B s) ↔ s.notifications.closed = false ∨
      ∃ item ∈ s.notifications.queue, Oracle.OracleExEx.Fails s.eventsClosed item) ∧
    ∀ s : ExexDiscv5 ν, Ends s.poll ↔ s.discV5.events.closed = false ∧
      (s.notifications.closed = false ∨
        ∃ item ∈ s.notifications.queue, ExexDiscv5.Fails s.eventsClosed item) :=
  ⟨fun _ => Oracle.OracleNetwork.ends_poll_iff, fun _ => Oracle.ends_pollExEx_iff,
    fun _ => ExexDiscv5.ends_poll_iff⟩

/-- A channel that is closed, with nothing in it. -/
def finished (α : Type) : Channel α := ⟨[], true, false⟩

/-- When their channels are closed and empty, none of the polls ends. -/
theorem polls_hang :
    ¬Ends (Oracle.OracleNetwork.poll (fun table (_ : Unit) => .ok table)
      ⟨⟨(), finished _⟩, finished _⟩) ∧
    ¬Ends (Oracle.pollExEx default ⟨finished _, false, .new⟩) ∧
    ¬Ends (ExexDiscv5.poll (⟨⟨finished _⟩, finished _, false, []⟩ : ExexDiscv5 Unit)) ∧
    ¬Ends (ExexDiscv5.poll (⟨⟨.empty⟩, finished _, false, []⟩ : ExexDiscv5 Unit)) := by
  refine ⟨fun h => ?_, fun h => ?_, fun h => ?_, fun h => ?_⟩
  · rcases Oracle.OracleNetwork.ends_poll_iff.1 h with hopen | ⟨l₁, _, _, _, hqueue, -⟩
    · cases hopen
    · exact List.append_ne_nil_of_right_ne_nil l₁ (List.cons_ne_nil _ _) hqueue.symm
  · rcases Oracle.ends_pollExEx_iff.1 h with hopen | ⟨_, hitem, -⟩
    · cases hopen
    · cases hitem
  · cases (ExexDiscv5.ends_poll_iff.1 h).1
  · rcases (ExexDiscv5.ends_poll_iff.1 h).2 with hopen | ⟨_, hitem, -⟩
    · cases hopen
    · cases hitem

end ExEx.Discv5
