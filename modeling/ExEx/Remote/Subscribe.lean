import ExEx.Lib.Broadcast
import ExEx.Lib.System
import ExEx.Remote.Encode

/-!
# Subscribing to notifications

The extension broadcasts the notifications of the node on a channel that keeps one of
them. For each subscriber a task receives them, encodes them, and puts them in a
channel to the client, which holds one message. The task ends when it is behind the
broadcast channel, when a notification cannot be encoded, and when the client is gone.

Whatever the order of their steps, what a task puts on its stream are the encodings of
a segment of the notifications, which starts at the first one after the subscription
(`no_gaps`). Once a subscriber is behind, nothing more is received for it.
-/

namespace ExEx.Remote

open Broadcast (recv Overwritten)

/-- Where the task of a subscriber is. -/
inductive Forwarding
  | receiving
  | sending (message : Proto.ExExNotification)
  | ended

/-- A subscriber: its task, and its client. -/
structure Subscriber where
  /-- The position of its receiver. -/
  next : ℕ
  task : Forwarding
  /-- The messages in the channel to the client. -/
  queue : List Proto.ExExNotification
  /-- The client dropped its end of the channel. -/
  gone : Bool
  /-- The messages put on the stream so far. -/
  put : List Proto.ExExNotification
  /-- The messages that were taken from it, to be sent to the client. -/
  taken : List Proto.ExExNotification

/-- The extension, the server, and the subscribers. -/
structure Service where
  running : Bool
  serving : Bool
  /-- The notifications broadcast so far. -/
  notifications : List Reth.ExExNotification
  /-- The heights announced as finished. -/
  finishedHeights : List (UInt64 × B256)
  subscribers : List Subscriber

/-- A new subscriber of a channel. -/
def Subscriber.new (notifications : List Reth.ExExNotification) : Subscriber where
  next := notifications.length
  task := .receiving
  queue := []
  gone := false
  put := []
  taken := []

/-- A step of a subscriber. -/
inductive Action
  /-- The task receives from the broadcast channel. -/
  | recv
  /-- The task sends to the client. -/
  | send
  /-- The client takes a message. -/
  | take
  /-- The client goes. -/
  | drop

/-- A step of a subscriber, if it can be taken. -/
def Subscriber.act (notifications : List Reth.ExExNotification) (closed : Bool) (sub : Subscriber) :
    Action → Option Subscriber
  | .recv =>
    match sub.task with
    | .receiving =>
      match Broadcast.recv 1 notifications closed sub.next with
      | none => none
      | some (.error _, next) => some { sub with next := next, task := .ended }
      | some (.ok notification, next) =>
        match Proto.ExExNotification.tryFrom notification with
        | .ok message => some { sub with next := next, task := .sending message }
        -- "failed to encode"
        | .error _ => some { sub with next := next, task := .ended }
    | _ => none
  | .send =>
    match sub.task with
    | .sending message =>
      -- "failed to send notification to client"
      if sub.gone then some { sub with task := .ended }
      else if sub.queue.length < 1 then
        some { sub with
          task := .receiving
          queue := sub.queue ++ [message]
          put := sub.put ++ [message] }
      else none
    | _ => none
  | .take =>
    match sub.queue with
    | message :: queue => some { sub with queue := queue, taken := sub.taken ++ [message] }
    | [] => none
  | .drop => some { sub with gone := true, queue := [] }

/-- What happens. -/
inductive Event
  /-- The extension processes a notification; `accepted` tells whether the node takes
      the height it announces. -/
  | notification (notification : Reth.ExExNotification) (accepted : Bool)
  /-- The extension has no more notifications. -/
  | exexEnds
  | serverEnds
  | subscribe
  | subscriber (i : ℕ) (action : Action)

/-- Broadcasts a notification. -/
def Service.broadcast (s : Service) (notification : Reth.ExExNotification) : Service :=
  { s with notifications := s.notifications ++ [notification] }

/-- An iteration of the loop of the extension. -/
def exex (notification : Reth.ExExNotification) (accepted : Bool) (s : Service) : Service :=
  match notification.committedChain with
  | none => s.broadcast notification
  | some committedChain =>
    match committedChain.tip with
    -- "Chain should have at least one block"
    | none => { s with running := false }
    | some tip =>
      if accepted then
        { s with finishedHeights := s.finishedHeights ++ [(tip.number, tip.hash)] }.broadcast
          notification
      else { s with running := false }

/-- The broadcast channel is closed: both who could send are gone. -/
def Service.closed (s : Service) : Bool := !s.running && !s.serving

/-- The state after an event, if it can happen. -/
def Service.next (s : Service) : Event → Option Service
  | .notification notification accepted =>
    if s.running then some (exex notification accepted s) else none
  | .exexEnds => some { s with running := false }
  | .serverEnds => some { s with serving := false }
  | .subscribe =>
    if s.serving then some { s with subscribers := s.subscribers ++ [.new s.notifications] } else none
  | .subscriber i action =>
    match s.subscribers[i]? with
    | none => none
    | some sub =>
      match sub.act s.notifications s.closed action with
      | none => none
      | some sub => some { s with subscribers := s.subscribers.set i sub }

/-- The extension at its start. -/
def Service.start : Service where
  running := true
  serving := true
  notifications := []
  finishedHeights := []
  subscribers := []

/-- All runs of the extension with its subscribers. -/
def remote : System Service Event where
  init s := s = .start
  step s e s' := s.next e = some s'

/-! ## What a subscriber sees -/

/-- The message that a task is about to put on its stream. -/
def Subscriber.pending (sub : Subscriber) : List Proto.ExExNotification :=
  match sub.task with
  | .sending message => [message]
  | _ => []

/-- The messages on the stream are the encodings of a segment of the notifications
    that starts at a position. -/
def Subscriber.Contiguous (notifications : List Reth.ExExNotification) (first : ℕ)
    (sub : Subscriber) : Prop :=
  ∃ segment, segment <+: notifications.drop first ∧
    segment.map Proto.ExExNotification.tryFrom = sub.put.map .ok

/-- A task that receives from a position on. -/
structure Subscriber.Forwards (notifications : List Reth.ExExNotification) (first : ℕ)
    (sub : Subscriber) : Prop where
  segment : ∃ segment, segment <+: notifications.drop first ∧
    segment.map Proto.ExExNotification.tryFrom = (sub.put ++ sub.pending).map .ok ∧
    (sub.task ≠ .ended → sub.next = first + segment.length)
  client : sub.taken ++ sub.queue <+: sub.put
  client_eq : sub.gone = false → sub.taken ++ sub.queue = sub.put

variable {notifications : List Reth.ExExNotification} {closed : Bool} {first : ℕ}
  {sub sub' : Subscriber} {action : Action}

theorem Subscriber.Forwards.new (notifications : List Reth.ExExNotification) :
    (Subscriber.new notifications).Forwards notifications notifications.length where
  segment := ⟨[], List.nil_prefix, rfl, fun _ => rfl⟩
  client := List.nil_prefix
  client_eq := fun _ => rfl

theorem Subscriber.Forwards.append (h : sub.Forwards notifications first)
    (more : List Reth.ExExNotification) : sub.Forwards (notifications ++ more) first := by
  obtain ⟨segment, hprefix, hmap, hnext⟩ := h.segment
  exact ⟨⟨segment, Broadcast.prefix_drop_append hprefix more, hmap, hnext⟩, h.client, h.client_eq⟩

/-- What a step of a subscriber does. -/
inductive Subscriber.Moves (notifications : List Reth.ExExNotification) (closed : Bool)
    (sub : Subscriber) : Subscriber → Prop
  | receive {notification : Reth.ExExNotification} {message : Proto.ExExNotification} {next : ℕ} :
      sub.task = .receiving →
      recv 1 notifications closed sub.next = some (.ok notification, next) →
      Proto.ExExNotification.tryFrom notification = .ok message →
      Moves notifications closed sub { sub with next := next, task := .sending message }
  | stop {next : ℕ} : sub.task = .receiving →
      Moves notifications closed sub { sub with next := next, task := .ended }
  | send {message : Proto.ExExNotification} : sub.task = .sending message → sub.gone = false →
      Moves notifications closed sub { sub with
        task := .receiving
        queue := sub.queue ++ [message]
        put := sub.put ++ [message] }
  | fail {message : Proto.ExExNotification} : sub.task = .sending message →
      Moves notifications closed sub { sub with task := .ended }
  | take {message : Proto.ExExNotification} {queue : List Proto.ExExNotification} :
      sub.queue = message :: queue →
      Moves notifications closed sub { sub with queue := queue, taken := sub.taken ++ [message] }
  | drop : Moves notifications closed sub { sub with gone := true, queue := [] }

theorem Subscriber.moves_of_act (h : sub.act notifications closed action = some sub') :
    sub.Moves notifications closed sub' := by
  cases action with
  | recv =>
    rw [Subscriber.act] at h
    rcases htask : sub.task with _ | message | _ <;> rw [htask] at h
    · dsimp only at h
      rcases hrecv : recv 1 notifications closed sub.next with _ | ⟨_ | notification, next⟩ <;>
        rw [hrecv] at h
      · cases h
      · obtain rfl := Option.some.inj h
        exact .stop htask
      · dsimp only at h
        rcases hmessage : Proto.ExExNotification.tryFrom notification with _ | message <;>
          rw [hmessage] at h
        · obtain rfl := Option.some.inj h
          exact .stop htask
        · obtain rfl := Option.some.inj h
          exact .receive htask hrecv hmessage
    · cases h
    · cases h
  | send =>
    rw [Subscriber.act] at h
    rcases htask : sub.task with _ | message | _ <;> rw [htask] at h
    · cases h
    · dsimp only at h
      split_ifs at h with hgone
      · obtain rfl := Option.some.inj h
        exact .fail htask
      · obtain rfl := Option.some.inj h
        exact .send htask (Bool.not_eq_true _ ▸ hgone)
    · cases h
  | take =>
    rw [Subscriber.act] at h
    rcases hqueue : sub.queue with _ | ⟨message, queue⟩ <;> rw [hqueue] at h
    · cases h
    · obtain rfl := Option.some.inj h
      exact .take hqueue
  | drop =>
    obtain rfl := Option.some.inj h
    exact .drop

theorem Subscriber.Forwards.moves (h : sub.Forwards notifications first)
    (hmoves : sub.Moves notifications closed sub') : sub'.Forwards notifications first := by
  obtain ⟨segment, hprefix, hmap, hnext⟩ := h.segment
  cases hmoves with
  | receive htask hrecv hmessage =>
    rw [Subscriber.pending, htask, List.append_nil] at hmap
    rw [htask] at hnext
    -- The next notification is received, and will be put on the stream.
    obtain ⟨hprefix', hnext'⟩ := Broadcast.recv_ok_prefix hprefix (hnext nofun) hrecv
    refine ⟨⟨_, hprefix', ?_, fun _ => hnext'⟩, h.client, h.client_eq⟩
    rw [List.map_append, hmap, List.map_singleton, hmessage, Subscriber.pending, List.map_append]
    rfl
  | stop htask =>
    rw [Subscriber.pending, htask] at hmap
    exact ⟨⟨segment, hprefix, hmap, fun hne => absurd rfl hne⟩, h.client, h.client_eq⟩
  | send htask hgone =>
    rw [Subscriber.pending, htask] at hmap
    rw [htask] at hnext
    have hclient := h.client_eq hgone
    refine ⟨⟨segment, hprefix, ?_, fun _ => hnext nofun⟩, ?_, fun _ => ?_⟩
    · rw [Subscriber.pending, List.append_nil]
      exact hmap
    · rewrite [← List.append_assoc, hclient]
      exact List.prefix_refl _
    · rw [← List.append_assoc, hclient]
  | @fail message htask =>
    rw [Subscriber.pending, htask] at hmap
    -- The message is lost, and nothing comes after it.
    refine ⟨⟨segment.take sub.put.length, (List.take_prefix _ _).trans hprefix, ?_,
      fun hne => absurd rfl hne⟩, h.client, h.client_eq⟩
    rw [List.map_take, hmap, ← List.map_take, List.take_left, Subscriber.pending, List.append_nil]
  | take hqueue =>
    have heq : ∀ message queue, sub.queue = message :: queue →
        sub.taken ++ [message] ++ queue = sub.taken ++ sub.queue := by
      intro message queue hqueue
      rw [hqueue, List.append_assoc, List.singleton_append]
    refine ⟨⟨segment, hprefix, hmap, hnext⟩, ?_, fun hgone => ?_⟩
    · rw [heq _ _ hqueue]
      exact h.client
    · rw [heq _ _ hqueue]
      exact h.client_eq hgone
  | drop =>
    refine ⟨⟨segment, hprefix, hmap, hnext⟩, ?_, nofun⟩
    rw [List.append_nil]
    exact (List.prefix_append _ _).trans h.client

theorem Subscriber.Forwards.contiguous (h : sub.Forwards notifications first) :
    sub.Contiguous notifications first := by
  obtain ⟨segment, hprefix, hmap, -⟩ := h.segment
  refine ⟨segment.take sub.put.length, (List.take_prefix _ _).trans hprefix, ?_⟩
  rw [List.map_take, hmap, ← List.map_take, List.take_left]

/-! ## Falling behind -/

/-- A task that is behind the channel, or has ended. -/
def Subscriber.Behind (notifications : List Reth.ExExNotification) (sub : Subscriber) : Prop :=
  sub.task = .ended ∨ Overwritten 1 notifications sub.next

theorem Subscriber.Behind.overwritten (h : sub.Behind notifications) (htask : sub.task ≠ .ended) :
    Overwritten 1 notifications sub.next :=
  h.resolve_left htask

/-- A subscriber that is behind receives nothing more. -/
theorem Subscriber.Behind.moves (h : sub.Behind notifications)
    (hmoves : sub.Moves notifications closed sub') :
    sub'.Behind notifications ∧ sub'.put ++ sub'.pending <+: sub.put ++ sub.pending := by
  cases hmoves with
  | receive htask hrecv hmessage =>
    -- It would receive an error.
    have hover := h.overwritten (htask ▸ nofun)
    obtain ⟨missed, next', hrecv'⟩ := Broadcast.recv_of_overwritten closed hover
    rw [hrecv'] at hrecv
    cases hrecv
  | stop htask => exact ⟨.inl rfl, (List.prefix_append_right_inj _).2 List.nil_prefix⟩
  | send htask hgone =>
    refine ⟨.inr (h.overwritten (htask ▸ nofun)), ?_⟩
    rewrite [Subscriber.pending, Subscriber.pending, htask, List.append_nil]
    exact List.prefix_refl _
  | fail htask => exact ⟨.inl rfl, (List.prefix_append_right_inj _).2 List.nil_prefix⟩
  | take hqueue => exact ⟨h, List.prefix_refl _⟩
  | drop => exact ⟨h, List.prefix_refl _⟩

variable (closed) in
/-- Its task ends when it next receives. -/
theorem Subscriber.Behind.recv (h : sub.Behind notifications) (htask : sub.task = .receiving) :
    ∃ sub', sub.act notifications closed .recv = some sub' ∧ sub'.task = .ended ∧
      sub'.put = sub.put := by
  have hover := h.overwritten (htask ▸ nofun)
  obtain ⟨missed, next, hrecv⟩ := Broadcast.recv_of_overwritten closed hover
  refine ⟨{ sub with next := next, task := .ended }, ?_, rfl, rfl⟩
  rw [Subscriber.act, htask, hrecv]

theorem Subscriber.Behind.append (h : sub.Behind notifications) (more : List Reth.ExExNotification) :
    sub.Behind (notifications ++ more) :=
  h.imp_right fun hover => hover.append more

/-! ## Runs -/

/-- The extension only broadcasts. -/
theorem exex_eq (notification : Reth.ExExNotification) (accepted : Bool) (s : Service) :
    (exex notification accepted s).subscribers = s.subscribers ∧
      ∃ more, (exex notification accepted s).notifications = s.notifications ++ more := by
  rw [exex]
  rcases notification.committedChain with _ | chain
  · exact ⟨rfl, _, rfl⟩
  · dsimp only
    rcases chain.tip with _ | tip
    · exact ⟨rfl, [], (List.append_nil _).symm⟩
    · cases accepted
      · exact ⟨rfl, [], (List.append_nil _).symm⟩
      · exact ⟨rfl, _, rfl⟩

/-- A subscriber with a property of it and the notifications. -/
def Service.Has (i : ℕ) (P : List Reth.ExExNotification → Subscriber → Prop) (s : Service) : Prop :=
  ∃ sub, s.subscribers[i]? = some sub ∧ P s.notifications sub

/-- What the steps of a subscriber and more notifications keep, every step keeps. -/
theorem Service.Has.step {i : ℕ} {P : List Reth.ExExNotification → Subscriber → Prop}
    (happend : ∀ notifications more sub, P notifications sub → P (notifications ++ more) sub)
    (hmoves : ∀ notifications closed sub sub', P notifications sub →
      sub.Moves notifications closed sub' → P notifications sub')
    (s : Service) (e : Event) (s' : Service) (h : s.Has i P) (hstep : remote.step s e s') :
    s'.Has i P := by
  obtain ⟨sub, hsub, hP⟩ := h
  replace hstep : s.next e = some s' := hstep
  cases e with
  | notification notification accepted =>
    rw [Service.next] at hstep
    split_ifs at hstep with hrunning
    obtain rfl := Option.some.inj hstep
    obtain ⟨hsubscribers, more, hmore⟩ := exex_eq notification accepted s
    refine ⟨sub, by rw [hsubscribers, hsub], ?_⟩
    rw [hmore]
    exact happend _ _ _ hP
  | exexEnds =>
    obtain rfl := Option.some.inj hstep
    exact ⟨sub, hsub, hP⟩
  | serverEnds =>
    obtain rfl := Option.some.inj hstep
    exact ⟨sub, hsub, hP⟩
  | subscribe =>
    rw [Service.next] at hstep
    split_ifs at hstep with hserving
    obtain rfl := Option.some.inj hstep
    have hi : i < s.subscribers.length := (List.getElem?_eq_some_iff.1 hsub).1
    exact ⟨sub, by rw [List.getElem?_append_left hi, hsub], hP⟩
  | subscriber j action =>
    rw [Service.next] at hstep
    rcases hj : s.subscribers[j]? with _ | subj <;> rw [hj] at hstep
    · cases hstep
    · dsimp only at hstep
      rcases hact : subj.act s.notifications s.closed action with _ | subj' <;> rw [hact] at hstep
      · cases hstep
      · obtain rfl := Option.some.inj hstep
        have hi : i < s.subscribers.length := (List.getElem?_eq_some_iff.1 hsub).1
        rcases eq_or_ne j i with rfl | hne
        · obtain rfl := Option.some.inj (hj.symm.trans hsub)
          exact ⟨subj', List.getElem?_set_self hi,
            hmoves _ _ _ _ hP (Subscriber.moves_of_act hact)⟩
        · exact ⟨sub, by rw [List.getElem?_set_ne hne, hsub], hP⟩

/-- Nothing more is received for a subscriber: what was on its stream, or about to be,
    is all there ever is, and the stream ends when it next receives. -/
def Subscriber.Stopped (s : Service) (i : ℕ) (sub : Subscriber) : Prop :=
  ∀ s', remote.Leads s s' → ∃ sub', s'.subscribers[i]? = some sub' ∧
    sub'.put <+: sub.put ++ sub.pending ∧
    (sub'.task = .receiving → ∃ s'', remote.step s' (.subscriber i .recv) s'' ∧
      ∃ sub'', s''.subscribers[i]? = some sub'' ∧ sub''.task = .ended ∧ sub''.put = sub'.put)

theorem Subscriber.Behind.stopped {s : Service} {i : ℕ} (hsub : s.subscribers[i]? = some sub)
    (h : sub.Behind s.notifications) : sub.Stopped s i := by
  intro s' hrun
  have hhas : s'.Has i fun notifications sub' =>
      sub'.Behind notifications ∧ sub'.put ++ sub'.pending <+: sub.put ++ sub.pending := by
    refine hrun.invariant (Service.Has.step ?_ ?_) ⟨sub, hsub, h, List.prefix_refl _⟩
    · intro _ more _ h
      exact ⟨h.1.append more, h.2⟩
    · intro _ _ _ _ h hmoves
      obtain ⟨hbehind, hprefix⟩ := h.1.moves hmoves
      exact ⟨hbehind, hprefix.trans h.2⟩
  obtain ⟨sub', hsub', hbehind, hprefix⟩ := hhas
  refine ⟨sub', hsub', (List.prefix_append _ _).trans hprefix, ?_⟩
  intro htask
  obtain ⟨sub'', hact, hended, hput⟩ := hbehind.recv s'.closed htask
  refine ⟨{ s' with subscribers := s'.subscribers.set i sub'' }, ?_, sub'', ?_, hended, hput⟩
  · show s'.next _ = some _
    rw [Service.next, hsub']
    dsimp only
    rw [hact]
  · exact List.getElem?_set_self (List.getElem?_eq_some_iff.1 hsub').1

/-- After a subscription, the stream of the subscriber has the encodings of a segment
    of the notifications, from the first one broadcast after it. The client takes
    them in order. When a notification it has yet to receive is overwritten, its
    stream ends. -/
theorem no_gaps {s s₁ s₂ : Service} (hsubscribe : remote.step s .subscribe s₁)
    (hrun : remote.Leads s₁ s₂) :
    ∃ sub, s₂.subscribers[s.subscribers.length]? = some sub ∧
      sub.Contiguous s₂.notifications s.notifications.length ∧
      sub.taken <+: sub.put ∧
      (Overwritten 1 s₂.notifications sub.next → sub.Stopped s₂ s.subscribers.length) := by
  have hs₁ : s₁.Has s.subscribers.length fun notifications sub =>
      sub.Forwards notifications s.notifications.length := by
    replace hsubscribe : s.next .subscribe = some s₁ := hsubscribe
    rw [Service.next] at hsubscribe
    split_ifs at hsubscribe
    obtain rfl := Option.some.inj hsubscribe
    exact ⟨_, List.getElem?_concat_length, Subscriber.Forwards.new _⟩
  obtain ⟨sub, hsub, hforwards⟩ := hrun.invariant
    (Service.Has.step (fun _ more _ h => h.append more) fun _ _ _ _ h hmoves => h.moves hmoves) hs₁
  refine ⟨sub, hsub, hforwards.contiguous, (List.prefix_append _ _).trans hforwards.client, ?_⟩
  intro hover
  exact Subscriber.Behind.stopped hsub (.inr hover)

/-! ### A slow client -/

/-- A block is reverted. -/
def revertOf (number : UInt64) : Reth.ExExNotification :=
  .chainReverted (.new [{ (default : Reth.RecoveredBlock) with
    header := { (default : Reth.Header) with number := number } }] default default)

/-- A client takes a notification. Then two are broadcast, before its task receives. -/
def slowClient : List Event :=
  [.notification (revertOf 3) true, .subscriber 0 .recv, .subscriber 0 .send, .subscriber 0 .take,
    .notification (revertOf 2) true, .notification (revertOf 1) true]

/-- The client has the first notification, and gets no other. -/
theorem no_gaps_slowClient :
    ∃ s₁ s₂ sub, remote.step .start .subscribe s₁ ∧ remote.Leads s₁ s₂ ∧
      s₂.notifications.length = 3 ∧ s₂.subscribers[0]? = some sub ∧ sub.taken.length = 1 ∧
      sub.Contiguous s₂.notifications 0 ∧ sub.Stopped s₂ 0 := by
  let s₁ : Service := { Service.start with subscribers := [.new []] }
  have hsubscribe : remote.step .start .subscribe s₁ := rfl
  obtain ⟨s₂, sub, hfold, hsub, hlength, htaken, hover⟩ :
      ∃ s₂ sub, slowClient.foldlM Service.next s₁ = some s₂ ∧ s₂.subscribers[0]? = some sub ∧
        s₂.notifications.length = 3 ∧ sub.taken.length = 1 ∧
        Overwritten 1 s₂.notifications sub.next :=
    ⟨_, _, rfl, rfl, rfl, rfl, by decide +kernel⟩
  have hrun : remote.Leads s₁ s₂ := System.Leads.foldlM (fun _ _ _ h => h) hfold
  obtain ⟨sub', hsub', hcontiguous, -, hstopped⟩ := no_gaps hsubscribe hrun
  obtain rfl := Option.some.inj (hsub.symm.trans hsub')
  exact ⟨s₁, s₂, sub, hsubscribe, hrun, hlength, hsub, htaken, hcontiguous, hstopped hover⟩

end ExEx.Remote
