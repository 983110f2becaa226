import ExEx.Remote.Consumer

/-!
# Catching up

When nothing is broadcast any more, tasks and clients run out of things to do: each of
their steps leaves less of it (`Subscriber.Advances.work_lt`). So in whichever order they
are taken, every consumer that stays comes to have logged all there is, unless its stream
was behind the channel already; then it gets what was on its way, and its stream ends
(`consumer_catches_up`). It logs what the transport has taken for it once that has come
through.
-/

namespace ExEx.Remote

open Broadcast (recv Overwritten)

/-- What a task has received: what it has put on its stream, and is about to. -/
def Subscriber.forwarded (sub : Subscriber) : List Proto.ExExNotification := sub.put ++ sub.pending

/-- The notification with which a stream would go on was overwritten. -/
def Subscriber.Lags (notifications : List Reth.ExExNotification) (first : ℕ) (sub : Subscriber) :
    Prop :=
  Overwritten 1 notifications (first + sub.forwarded.length)

/-- What there is left to do for a subscriber: a notification is received, sent and taken. -/
def Subscriber.work (notifications : List Reth.ExExNotification) (sub : Subscriber) : ℕ :=
  3 * (notifications.length - sub.next) + sub.queue.length +
    match sub.task with
    | .receiving => 1
    | .sending _ => 3
    | .ended => 0

/-- Nothing can be done for a subscriber, except that its client goes. -/
def Subscriber.Settled (notifications : List Reth.ExExNotification) (closed : Bool)
    (sub : Subscriber) : Prop :=
  ∀ action, action ≠ .drop → sub.act notifications closed action = none

/-- What a step of a subscriber does, when its client does not go. Everything is encoded. -/
inductive Subscriber.Advances (notifications : List Reth.ExExNotification) (closed : Bool)
    (sub : Subscriber) : Subscriber → Prop
  | receive {message : Proto.ExExNotification} :
      sub.task = .receiving → sub.next < notifications.length →
      ¬Overwritten 1 notifications sub.next →
      Advances notifications closed sub
        { sub with next := sub.next + 1, task := .sending message }
  | stop {next : ℕ} : sub.task = .receiving → sub.next ≤ next →
      Advances notifications closed sub { sub with next := next, task := .ended }
  | send {message : Proto.ExExNotification} : sub.task = .sending message →
      Advances notifications closed sub { sub with
        task := .receiving
        queue := sub.queue ++ [message]
        put := sub.put ++ [message] }
  | fail {message : Proto.ExExNotification} : sub.task = .sending message → sub.gone = true →
      Advances notifications closed sub { sub with task := .ended }
  | take {message : Proto.ExExNotification} {queue : List Proto.ExExNotification} :
      sub.queue = message :: queue →
      Advances notifications closed sub
        { sub with queue := queue, taken := sub.taken ++ [message] }

section

variable {notifications : List Reth.ExExNotification} {closed : Bool} {first : ℕ}
  {sub sub' : Subscriber} {action : Action}

theorem Subscriber.advances_of_act (hdrop : action ≠ .drop)
    (h : sub.act notifications closed action = some sub') :
    sub.Advances notifications closed sub' := by
  cases action with
  | recv =>
    rw [Subscriber.act] at h
    rcases htask : sub.task with _ | message | _ <;> rw [htask] at h
    · dsimp only at h
      rcases hrecv : recv 1 notifications closed sub.next with _ | ⟨e | notification, next⟩ <;>
        rw [hrecv] at h
      · cases h
      · obtain rfl := Option.some.inj h
        exact .stop htask (Broadcast.le_of_recv hrecv)
      · obtain ⟨message, hmessage, -⟩ := receives_notification notification
        simp only [hmessage, Option.some.injEq] at h
        subst h
        obtain ⟨hnext, rfl⟩ := Broadcast.recv_ok hrecv
        exact .receive htask (List.getElem?_eq_some_iff.1 hnext).1
          (Broadcast.not_overwritten_of_recv_ok hrecv)
    · cases h
    · cases h
  | send =>
    rw [Subscriber.act] at h
    rcases htask : sub.task with _ | message | _ <;> rw [htask] at h
    · cases h
    · dsimp only at h
      split_ifs at h with hgone
      · obtain rfl := Option.some.inj h
        exact .fail htask hgone
      · obtain rfl := Option.some.inj h
        exact .send htask
    · cases h
  | take =>
    rw [Subscriber.act] at h
    rcases hqueue : sub.queue with _ | ⟨message, queue⟩ <;> rw [hqueue] at h
    · cases h
    · obtain rfl := Option.some.inj h
      exact .take hqueue
  | drop => exact absurd rfl hdrop

/-- Every step leaves less to do. -/
theorem Subscriber.Advances.work_lt (h : sub.Advances notifications closed sub') :
    sub'.work notifications < sub.work notifications := by
  cases h with
  | receive htask hlt hover =>
    simp only [Subscriber.work, htask]
    omega
  | stop htask hle =>
    simp only [Subscriber.work, htask]
    omega
  | send htask =>
    simp only [Subscriber.work, htask, List.length_append, List.length_singleton]
    omega
  | fail htask hgone =>
    simp only [Subscriber.work, htask]
    omega
  | take hqueue =>
    simp only [Subscriber.work, hqueue, List.length_cons]
    omega

theorem Subscriber.Advances.gone (h : sub.Advances notifications closed sub')
    (hgone : sub.gone = false) : sub'.gone = false := by
  cases h <;> exact hgone

/-- A task receives, or what it has received stays as it is. -/
theorem Subscriber.Advances.forwarded (h : sub.Advances notifications closed sub')
    (hgone : sub.gone = false) :
    sub'.forwarded = sub.forwarded ∨ sub.task ≠ .ended ∧ sub.next < notifications.length ∧
      ¬Overwritten 1 notifications sub.next ∧
      sub'.forwarded.length = sub.forwarded.length + 1 := by
  cases h with
  | receive htask hlt hover =>
    refine .inr ⟨(by rw [htask]; intro hended; cases hended), hlt, hover, ?_⟩
    simp only [Subscriber.forwarded, Subscriber.pending, htask, List.append_nil,
      List.length_append, List.length_singleton]
  | stop htask hle =>
    refine .inl ?_
    rw [Subscriber.forwarded, Subscriber.forwarded, Subscriber.pending, Subscriber.pending, htask]
  | send htask =>
    refine .inl ?_
    rw [Subscriber.forwarded, Subscriber.forwarded, Subscriber.pending, Subscriber.pending, htask]
    exact List.append_nil _
  | fail htask hgone' => exact absurd (hgone'.symm.trans hgone) Bool.noConfusion
  | take hqueue => exact .inl rfl

/-- A stream that is behind stays so, and gets nothing more; any other does not fall behind. -/
theorem Subscriber.Advances.lags_iff (h : sub.Advances notifications closed sub')
    (hforwards : sub.Forwards notifications first) (hgone : sub.gone = false) :
    (sub'.Lags notifications first ↔ sub.Lags notifications first) ∧
      (sub.Lags notifications first → sub'.forwarded = sub.forwarded) := by
  rcases h.forwarded hgone with heq | ⟨htask, hlt, hover, hlength⟩
  · rw [Subscriber.Lags, Subscriber.Lags, heq]
    exact ⟨Iff.rfl, fun _ => rfl⟩
  · have hnext := hforwards.next_eq htask
    rw [Overwritten, hnext] at hover
    rw [Subscriber.Lags, Subscriber.Lags, Overwritten, Overwritten, hlength, Subscriber.forwarded]
    exact ⟨by omega, fun hlags => absurd hlags hover⟩

/-! ## Subscribers with nothing left to do -/

theorem Subscriber.Settled.queue (h : sub.Settled notifications closed) : sub.queue = [] := by
  have htake := h .take (by intro hdrop; cases hdrop)
  rw [Subscriber.act] at htake
  rcases hqueue : sub.queue with _ | ⟨message, queue⟩
  · rfl
  · rw [hqueue] at htake
    cases htake

/-- Its task has ended, or waits for a notification. -/
theorem Subscriber.Settled.task (h : sub.Settled notifications closed) :
    sub.task = .ended ∨
      sub.task = .receiving ∧ closed = false ∧ notifications.length ≤ sub.next := by
  have hrecv := h .recv (by intro hdrop; cases hdrop)
  have hsend := h .send (by intro hdrop; cases hdrop)
  rw [Subscriber.act] at hrecv
  rw [Subscriber.act] at hsend
  rcases htask : sub.task with _ | message | _
  · rw [htask] at hrecv
    dsimp only at hrecv
    rcases hnone : recv 1 notifications closed sub.next with _ | ⟨e | notification, next⟩
    · exact .inr ⟨rfl, Broadcast.recv_eq_none hnone⟩
    · rw [hnone] at hrecv
      cases hrecv
    · obtain ⟨message, hmessage, -⟩ := receives_notification notification
      simp only [hnone, hmessage] at hrecv
      cases hrecv
  · simp only [htask, h.queue, List.length_nil, Nat.zero_lt_one, if_true] at hsend
    split_ifs at hsend
  · exact .inl rfl

/-- How a subscriber that is at `sub` goes on as `sub'`, while its client stays. -/
structure Subscriber.GoesOn (notifications : List Reth.ExExNotification) (closed : Bool)
    (first : ℕ) (sub sub' : Subscriber) : Prop where
  streams : sub'.EndsFor closed notifications first
  gone : sub'.gone = false
  lags_iff : sub'.Lags notifications first ↔ sub.Lags notifications first
  forwarded : sub.Lags notifications first → sub'.forwarded = sub.forwarded

theorem Subscriber.GoesOn.act {sub'' : Subscriber}
    (h : sub.GoesOn notifications closed first sub') (hdrop : action ≠ .drop)
    (hact : sub'.act notifications closed action = some sub'') :
    sub.GoesOn notifications closed first sub'' := by
  have hadvances := Subscriber.advances_of_act hdrop hact
  obtain ⟨hiff, hforwarded⟩ := hadvances.lags_iff h.streams.forwards h.gone
  exact {
    streams := h.streams.act hact
    gone := hadvances.gone h.gone
    lags_iff := hiff.trans h.lags_iff
    forwarded := fun hlags => (hforwarded (h.lags_iff.2 hlags)).trans (h.forwarded hlags) }

/-- When nothing is left to do, all that was put on the stream was taken, and it has ended if
    the channel is closed or was ahead of it. Otherwise it has everything. -/
theorem Subscriber.GoesOn.settled (h : sub.GoesOn notifications closed first sub')
    (hsettled : sub'.Settled notifications closed) :
    sub'.taken = sub'.put ∧
      (sub'.task = .ended ↔ closed = true ∨ sub.Lags notifications first) ∧
      (¬sub.Lags notifications first → notifications.length ≤ first + sub'.put.length) ∧
      (sub.Lags notifications first → sub'.put = sub.forwarded) := by
  have htaken := h.streams.forwards.client_eq h.gone
  rw [hsettled.queue, List.append_nil] at htaken
  rcases hsettled.task with hended | ⟨htask, hclosed, hle⟩
  · have hforwarded : sub'.forwarded = sub'.put := by
      rw [Subscriber.forwarded, Subscriber.pending, hended, List.append_nil]
    have hlags := h.lags_iff
    rw [Subscriber.Lags, hforwarded] at hlags
    refine ⟨htaken, ⟨fun _ => ?_, fun _ => hended⟩, fun hnot => ?_, fun hlags => ?_⟩
    · rcases h.streams.ended hended with hgone | ⟨hclosed, -⟩ | hover
      · exact absurd (hgone.symm.trans h.gone) Bool.noConfusion
      · exact .inl hclosed
      · exact .inr (hlags.1 hover)
    · rcases h.streams.ended hended with hgone | ⟨-, hle⟩ | hover
      · exact absurd (hgone.symm.trans h.gone) Bool.noConfusion
      · exact hle
      · exact absurd (hlags.1 hover) hnot
    · rw [← h.forwarded hlags, hforwarded]
  · have hne : sub'.task ≠ .ended := by
      rw [htask]
      intro hended
      cases hended
    have hnext := h.streams.forwards.next_eq hne
    rw [Subscriber.pending, htask, List.append_nil] at hnext
    -- It waits at the end of the channel, so it is not behind.
    have hnot : ¬sub.Lags notifications first := by
      rw [← h.lags_iff, Subscriber.Lags, Overwritten, Subscriber.forwarded, Subscriber.pending,
        htask, List.append_nil]
      omega
    refine ⟨htaken, ⟨fun hended => absurd hended hne, ?_⟩, fun _ => hnext ▸ hle,
      fun hlags => absurd hlags hnot⟩
    rintro (hclosed' | hlags)
    · exact absurd (hclosed'.symm.trans hclosed) Bool.noConfusion
    · exact absurd hlags hnot

end

/-! ## Runs -/

/-- A step of a task, or of a client that stays. -/
def Service.Quiet (_ : Service) (e : Event) : Prop :=
  ∃ i action, action ≠ .drop ∧ e = .subscriber i action

/-- What there is left to do for all subscribers. -/
def Service.work (s : Service) : ℕ := (s.subscribers.map (Subscriber.work s.notifications)).sum

/-- How a consumer has logged notifications, from a position on, when it has caught up. -/
structure CaughtUp (s : Service) (first : ℕ) (sub sub' : Subscriber) : Prop where
  /-- Without failing, it logs all of them, if its stream was not behind, once the transport
      has given what it took. -/
  lines : ∃ lines, consume (sub'.taken.map (.ok : _ → Except Empty _)) = (lines, none) ∧
    (¬sub.Lags s.notifications first →
      (s.notifications.drop first).map lineOf = lines.map some)
  /-- If its stream was behind, it gets what was on its way. -/
  taken : sub.Lags s.notifications first → sub'.taken = sub.put ++ sub.pending
  /-- Its stream ends if it was behind or the channel is closed, and else waits for more. -/
  ended : sub'.task = .ended ↔ s.closed = true ∨ sub.Lags s.notifications first

theorem sum_map_set_lt {α : Type*} (f : α → ℕ) {l : List α} {i : ℕ} {a b : α}
    (ha : l[i]? = some a) (hlt : f b < f a) : ((l.set i b).map f).sum < (l.map f).sum := by
  induction l generalizing i with
  | nil => cases ha
  | cons c l ih =>
    cases i with
    | zero =>
      obtain rfl := Option.some.inj ha
      simp only [List.set_cons_zero, List.map_cons, List.sum_cons]
      exact Nat.add_lt_add_right hlt _
    | succ i =>
      simp only [List.set_cons_succ, List.map_cons, List.sum_cons]
      exact Nat.add_lt_add_left (ih ha) _

theorem Service.next_subscriber {s s' : Service} {i : ℕ} {action : Action}
    (h : s.next (.subscriber i action) = some s') :
    ∃ sub sub', s.subscribers[i]? = some sub ∧
      sub.act s.notifications s.closed action = some sub' ∧
      s' = { s with subscribers := s.subscribers.set i sub' } := by
  rw [Service.next] at h
  rcases hsub : s.subscribers[i]? with _ | sub <;> rw [hsub] at h
  · cases h
  · dsimp only at h
    rcases hact : sub.act s.notifications s.closed action with _ | sub' <;> rw [hact] at h
    · cases h
    · exact ⟨sub, sub', rfl, hact, (Option.some.inj h).symm⟩

/-- How the service goes on for a subscriber while it is quiet. -/
structure Service.GoesOn (i first : ℕ) (sub : Subscriber) (s s' : Service) : Prop where
  notifications : s'.notifications = s.notifications
  closed : s'.closed = s.closed
  subscriber : ∃ sub', s'.subscribers[i]? = some sub' ∧
    sub.GoesOn s.notifications s.closed first sub'

variable {i first : ℕ} {sub : Subscriber} {s s' s'' : Service} {e : Event}

theorem Service.GoesOn.step (h : s.GoesOn i first sub s') (hquiet : s'.Quiet e)
    (hstep : remote.step s' e s'') : s.GoesOn i first sub s'' ∧ s''.work < s'.work := by
  obtain ⟨j, action, hdrop, rfl⟩ := hquiet
  obtain ⟨subj, subj', hj, hact, rfl⟩ := Service.next_subscriber hstep
  refine ⟨⟨h.notifications, h.closed, ?_⟩,
    sum_map_set_lt _ hj (Subscriber.advances_of_act hdrop hact).work_lt⟩
  obtain ⟨sub', hsub', hgoes⟩ := h.subscriber
  rcases eq_or_ne j i with rfl | hne
  · obtain rfl := Option.some.inj (hj.symm.trans hsub')
    rw [h.notifications, h.closed] at hact
    exact ⟨subj', List.getElem?_set_self (List.getElem?_eq_some_iff.1 hj).1,
      hgoes.act hdrop hact⟩
  · exact ⟨sub', by rw [List.getElem?_set_ne hne, hsub'], hgoes⟩

/-- As long as a subscriber is not settled, one of its steps can be taken. -/
theorem Service.exists_quiet {sub' : Subscriber} (hsub : s.subscribers[i]? = some sub')
    (h : ¬sub'.Settled s.notifications s.closed) :
    ∃ e s', s.Quiet e ∧ remote.step s e s' := by
  rw [Subscriber.Settled] at h
  push Not at h
  obtain ⟨action, hdrop, hact⟩ := h
  obtain ⟨sub'', hact⟩ := Option.ne_none_iff_exists'.1 hact
  refine ⟨.subscriber i action, { s with subscribers := s.subscribers.set i sub'' },
    ⟨i, action, hdrop, rfl⟩, ?_⟩
  show s.next _ = some _
  rw [Service.next, hsub]
  dsimp only
  rw [hact]

/-- When it is settled, its consumer has caught up. -/
theorem Subscriber.GoesOn.caughtUp {sub' : Subscriber}
    (h : sub.GoesOn s.notifications s.closed first sub')
    (hsettled : sub'.Settled s.notifications s.closed)
    (hmade : ∀ notification ∈ s.notifications, ∀ chain ∈ chains notification, Made chain) :
    CaughtUp s first sub sub' := by
  obtain ⟨htaken, hended, hall, hrest⟩ := h.settled hsettled
  obtain ⟨segment, hsegment, hmap⟩ := h.streams.forwards.contiguous
  rw [← htaken] at hmap
  obtain ⟨lines, hlines, hlineOf⟩ := consume_encoded ([] : List (Except Empty _))
    (fun n hn => hmade n (List.mem_of_mem_drop (hsegment.subset hn))) hmap
  rw [List.append_nil, consume, List.append_nil] at hlines
  refine ⟨⟨lines, hlines, fun hnot => ?_⟩, fun hlags => htaken.trans (hrest hlags), hended⟩
  -- It has as many as there are.
  have hlength := congrArg List.length hmap
  rw [List.length_map, List.length_map, htaken] at hlength
  have hle := hall hnot
  rw [← hsegment.eq_of_length_le (by rw [List.length_drop]; omega), hlineOf]

/-- When nothing is broadcast any more, and no client goes, then whatever steps the tasks and
    the clients take, each consumer comes to have caught up. -/
theorem consumer_catches_up {s s₁ s₂ : Service} {sub : Subscriber}
    (hsubscribe : remote.step s .subscribe s₁) (hrun : remote.Leads s₁ s₂)
    (hmade : ∀ notification ∈ s₂.notifications, ∀ chain ∈ chains notification, Made chain)
    (hsub : s₂.subscribers[s.subscribers.length]? = some sub) (hgone : sub.gone = false) :
    remote.Inevitably Service.Quiet
      (fun t => t.notifications = s₂.notifications ∧ t.closed = s₂.closed ∧
        ∃ sub', t.subscribers[s.subscribers.length]? = some sub' ∧
          CaughtUp s₂ s.notifications.length sub sub') s₂ := by
  obtain ⟨sub', hsub', hstreams⟩ := streams_of_subscribe hsubscribe hrun
  obtain rfl := Option.some.inj (hsub'.symm.trans hsub)
  have hcomes : remote.Inevitably Service.Quiet
      (fun t => s₂.GoesOn s.subscribers.length s.notifications.length sub' t ∧
        ∃ sub'', t.subscribers[s.subscribers.length]? = some sub'' ∧
          sub''.Settled t.notifications t.closed) s₂ := by
    refine .of_lt Service.work ?_ (fun _ _ _ h hquiet hstep => h.step hquiet hstep)
      ⟨rfl, rfl, sub', hsub, hstreams, hgone, Iff.rfl, fun _ => rfl⟩
    intro t h hnot
    obtain ⟨sub'', hsub'', -⟩ := h.subscriber
    exact Service.exists_quiet hsub'' fun hsettled => hnot ⟨sub'', hsub'', hsettled⟩
  refine hcomes.mono ?_
  rintro t ⟨h, sub'', hsub'', hsettled⟩
  obtain ⟨subt, hsubt, hgoes⟩ := h.subscriber
  obtain rfl := Option.some.inj (hsub''.symm.trans hsubt)
  rw [h.notifications, h.closed] at hsettled
  exact ⟨h.notifications, h.closed, sub'', hsub'', hgoes.caughtUp hsettled hmade⟩

/-! ### A consumer that has not logged everything -/

/-- A notification was logged, another is about to be sent, and a third is in the channel. -/
theorem catches_up_oneTaken : ∃ s₁ s₂ sub, remote.step .start .subscribe s₁ ∧
    remote.Leads s₁ s₂ ∧ s₂.notifications.length = 3 ∧ s₂.subscribers[0]? = some sub ∧
    sub.taken.length = 1 ∧ ¬sub.Lags s₂.notifications 0 ∧
    remote.Inevitably Service.Quiet
      (fun t => t.notifications = s₂.notifications ∧ t.closed = s₂.closed ∧
        ∃ sub', t.subscribers[0]? = some sub' ∧ CaughtUp s₂ 0 sub sub') s₂ := by
  obtain ⟨s₁, s₂, sub, hsubscribe, hrun, hnotifications, hsub, htaken, hforwarded, hgone⟩ :=
    exists_oneTaken
  refine ⟨s₁, s₂, sub, hsubscribe, hrun, by rw [hnotifications]; rfl, hsub, htaken, ?_,
    consumer_catches_up hsubscribe hrun (hnotifications ▸ made_oneTaken) hsub hgone⟩
  rw [Subscriber.Lags, Subscriber.forwarded, hforwarded, hnotifications]
  decide

end ExEx.Remote
