import ExEx.Oracle.EndToEnd
import ExEx.Oracle.Wakeups

/-!
# Everything is recorded

A ping and a ticker are replied to, and no reply is. So what two connected oracles have to
do (`Pair.work`) gets less with everything that is received from a channel, delivered or
handled, and when no ticker is signed and no command given meanwhile, it comes to an end:
each side has recorded what the other has sent since they were connected, but for what was
missed (`pair_settles`). That is so in whichever order these things happen, as long as the
connection is open.
-/

namespace ExEx.Oracle

open Reth (Signature)

/-! ## What is to be done -/

/-- Whether a message is replied to. -/
def asks (msg : Bytes) : Bool :=
  msg.head? = some OracleProtoMessageId.ping.toByte ||
    msg.head? = some OracleProtoMessageId.tickData.toByte

/-- What there is to do for a message: it is handled, and a reply is delivered and handled. -/
def handling (msg : Bytes) : ℕ := if asks msg then 3 else 1

/-- What there is to do for messages on the way. -/
def delivering (messages : List Bytes) : ℕ := (messages.map fun msg => handling msg + 1).sum

section

variable (messages messages' : List Bytes)

@[simp] theorem delivering_nil : delivering [] = 0 := rfl

@[simp] theorem delivering_append :
    delivering (messages ++ messages') = delivering messages + delivering messages' := by
  rw [delivering, List.map_append, List.sum_append, delivering, delivering]

theorem delivering_singleton (msg : Bytes) : delivering [msg] = handling msg + 1 := rfl

theorem handling_encoded (m : OracleProtoMessage) : handling m.encoded =
    if m.messageType = .ping ∨ m.messageType = .tickData then 3 else 1 := by
  rcases m with ⟨_ | _ | _ | _, message⟩ <;> rfl

theorem one_le_handling (msg : Bytes) : 1 ≤ handling msg := by
  rw [handling]
  split_ifs <;> decide

end

namespace OracleConnection

/-- What a connection has to do, with its replies. -/
def work (s : OracleConnection) : ℕ :=
  5 * s.initialPing.toList.length + 3 * s.commands.queue.length + 5 * s.signedTicks.queue.length +
    (s.conn.queue.map handling).sum

variable {recoverAddressFromMsg : Signature → Bytes → Option Address}

/-- A command or a ticker is replied to, which leaves less to do, or there is none. -/
theorem work_pollLocal (s : OracleConnection) :
    delivering ((pollLocal s).1.elim [] Polled.messages) + (pollLocal s).2.work < s.work ∨
      (pollLocal s).1 = none ∧ s.commands.queue = [] ∧ s.signedTicks.queue = [] ∧
        (pollLocal s).2.work = s.work := by
  rcases hcommands : s.commands.queue with _ | ⟨⟨id, sender⟩, rest⟩
  · obtain ⟨hreply, _, _, hnil, hticks, heq⟩ := pollLocal_of_nil hcommands
    rw [hreply, heq]
    rcases htick : s.signedTicks.queue with _ | ⟨_ | tick, ticks⟩ <;> rw [htick] at hticks
    · exact .inr ⟨rfl, rfl, rfl, by simp [work, hnil, hcommands, hticks, htick]⟩
    · refine .inl ?_
      simp [work, hnil, hcommands, hticks, htick]
    · refine .inl ?_
      simp [work, hnil, hcommands, hticks, htick, Polled.messages, delivering_singleton,
        handling_encoded, OracleProtoMessage.signedTicker]
      omega
  · refine .inl ?_
    rw [pollLocal_command hcommands]
    simp [work, hcommands, Polled.messages, delivering_singleton, handling_encoded,
      OracleProtoMessage.attestations]
    omega

theorem asks_of_causes (kind : OracleProtoMessageId) {msg : Bytes} (h : 0 < causes kind [msg]) :
    asks msg = true := by
  have hhead (cause : OracleProtoMessageId) (h : 0 < count cause [msg]) :
      msg.head? = some cause.toByte := by
    obtain ⟨_, hmem, hhead⟩ := List.countP_pos_iff.1 h
    exact List.mem_singleton.1 hmem ▸ of_decide_eq_true hhead
  cases kind with
  | ping => cases h
  | tickData => cases h
  | pong => simp [asks, hhead .ping h]
  | attestations => simp [asks, hhead .tickData h]

/-- A message is replied to when it asks for it, and the reply does not. -/
theorem handling_reply {msg reply : Bytes} {s : OracleConnection}
    (h : reply ∈ (receive recoverAddressFromMsg msg s).1.elim [] Polled.messages) :
    handling msg = 3 ∧ handling reply = 1 := by
  have hasks (kind : OracleProtoMessageId) (hkind : count kind [reply] = 1) : handling msg = 3 := by
    refine if_pos (asks_of_causes kind (Nat.lt_of_lt_of_le ?_
      (count_receive recoverAddressFromMsg kind msg s)))
    obtain ⟨l, l', hl⟩ := List.append_of_mem h
    rw [hl, count_append, ← List.singleton_append, count_append, hkind]
    omega
  rcases sends_receive recoverAddressFromMsg msg s reply h with rfl | ⟨id, rfl⟩
  · exact ⟨hasks .pong (count_encoded _ _), handling_encoded _⟩
  · exact ⟨hasks .attestations (count_encoded _ _), handling_encoded _⟩

variable (recoverAddressFromMsg) in
theorem delivering_receive (msg : Bytes) (s : OracleConnection) :
    delivering ((receive recoverAddressFromMsg msg s).1.elim [] Polled.messages) <
      handling msg := by
  have hreply (reply : Bytes) := @handling_reply recoverAddressFromMsg msg reply s
  generalize (receive recoverAddressFromMsg msg s).1 = polled at hreply
  rcases polled with _ | _ | ⟨_ | reply⟩ | _
  · exact one_le_handling msg
  · exact one_le_handling msg
  · exact one_le_handling msg
  · obtain ⟨hmsg, hreply⟩ := hreply reply (List.mem_singleton_self _)
    rw [hmsg, Option.elim_some, Polled.messages, delivering_singleton, hreply]
    decide
  · exact one_le_handling msg

variable (recoverAddressFromMsg) in
theorem work_receive (msg : Bytes) (s : OracleConnection) :
    (receive recoverAddressFromMsg msg s).2.work = s.work := by
  simp only [work, initialPing_receive, commands_receive, signedTicks_receive, conn_receive]

/-- A poll leaves less to do, when there is something to do. -/
theorem work_pollLoop {s : OracleConnection} (hping : s.initialPing = none) (hs : s.work ≠ 0) :
    delivering (pollLoop recoverAddressFromMsg s.conn.queue s).1.messages +
      (pollLoop recoverAddressFromMsg s.conn.queue s).2.work < s.work := by
  -- When there is no message left, the last report of missed tickers was taken, or nothing is
  -- left at all.
  have hended (t : OracleConnection) (hnone : t.initialPing = none) (hqueue : t.conn.queue = [])
      (hle : t.work ≤ s.work) (hlocal : (pollLocal t).1 = none) :
      0 + (pollLocal t).2.work < s.work := by
    rcases work_pollLocal t with hlt | ⟨-, hcommands, hticks, hsame⟩
    · rw [hlocal, Option.elim_none, delivering_nil] at hlt
      exact hlt.trans_le hle
    · have hnothing : t.work = 0 := by simp [work, hnone, hqueue, hcommands, hticks]
      omega
  have htaken {t : OracleConnection} {msg : Bytes} {messages : List Bytes}
      (hqueue : t.conn.queue = msg :: messages) (hlocal : (pollLocal t).1 = none) :
      ((pollLocal t).2.withMessages messages).work + handling msg ≤ t.work := by
    have hwork : (pollLocal t).2.work =
        ((pollLocal t).2.withMessages messages).work + handling msg := by
      simp only [work, withMessages, conn_pollLocal, hqueue, List.map_cons, List.sum_cons]
      omega
    rw [← hwork]
    rcases work_pollLocal t with hlt | ⟨-, -, -, hsame⟩
    · exact (Nat.le_add_left _ _).trans hlt.le
    · exact hsame.le
  refine pollLoop_rule
    (P := fun messages t => t.initialPing = none ∧ t.conn.queue = messages ∧ t.work ≤ s.work)
    (Q := fun polled t => delivering polled.messages + t.work < s.work)
    ?_ ?_ ?_ ?_ ?_ ⟨hping, rfl, le_refl _⟩
  · rintro messages t polled ⟨-, -, hle⟩ hlocal
    have hwork := work_pollLocal t
    rw [hlocal] at hwork
    exact (hwork.resolve_right fun h => by cases h.1).trans_le hle
  · rintro t ⟨hnone, hqueue, hle⟩ hlocal
    exact hended t hnone hqueue hle hlocal
  · rintro t ⟨hnone, hqueue, hle⟩ hlocal
    exact hended t hnone hqueue hle hlocal
  · rintro msg messages t ⟨hnone, hqueue, hle⟩ hlocal -
    refine ⟨?_, by rw [conn_receive]; rfl, ?_⟩
    · rw [initialPing_receive]
      exact (initialPing_pollLocal t).trans hnone
    · rw [work_receive]
      have htaken := htaken hqueue hlocal
      have hone := one_le_handling msg
      omega
  · rintro msg messages t polled ⟨-, hqueue, hle⟩ hlocal hreply
    have htaken := htaken hqueue hlocal
    have hreceive := delivering_receive recoverAddressFromMsg msg
      ((pollLocal t).2.withMessages messages)
    rw [hreply, Option.elim_some] at hreceive
    rw [work_receive]
    omega

/-- A poll leaves less to do, when there is something to do. -/
theorem work_pollNext {s : OracleConnection} (hping : ∀ ping ∈ s.initialPing, ping = .ping)
    (hs : s.work ≠ 0) :
    delivering (s.pollNext recoverAddressFromMsg).1.messages +
      (s.pollNext recoverAddressFromMsg).2.work < s.work := by
  rw [pollNext]
  rcases hinitial : s.initialPing with _ | ping
  · exact work_pollLoop hinitial hs
  · obtain rfl := hping ping hinitial
    simp [work, hinitial, Polled.messages, delivering_singleton, handling_encoded,
      OracleProtoMessage.ping]
    omega

/-- A poll does not close the inputs. -/
theorem closed_signedTicks_pollNext (s : OracleConnection) :
    (s.pollNext recoverAddressFromMsg).2.signedTicks.closed = s.signedTicks.closed := by
  refine pollNext_invariant (P := fun c => c.signedTicks.closed = s.signedTicks.closed)
    (fun _ h => h) ?_ (fun _ _ h => h) ?_ rfl
  · intro c h
    rw [← h]
    rcases hcommands : c.commands.queue with _ | ⟨⟨id, sender⟩, rest⟩
    · rw [pollLocal_eq_pollTicks hcommands, pollTicks_snd]
      exact c.signedTicks.closed_pollNext
    · rw [pollLocal_command hcommands]
  · intro msg _ c h
    rwa [signedTicks_receive]

end OracleConnection

/-! ## What a side has to do -/

namespace End

variable {recoverAddressFromMsg : Signature → Bytes → Option Address} {address peer : Address}

/-- What a side has to do, with what is on the way to it. -/
def work (e : End) : ℕ := e.session.connection.work + delivering (e.inFlight.map Prod.fst)

theorem Relays.work_poll {e : End} (h : e.Relays recoverAddressFromMsg address peer)
    (hwork : e.session.connection.work ≠ 0) :
    delivering ((e.sends recoverAddressFromMsg).map Prod.fst) +
      (e.poll recoverAddressFromMsg).work < e.work := by
  rw [messages_sends, work, work, ← Nat.add_assoc]
  exact Nat.add_lt_add_right (OracleConnection.work_pollNext h.ping hwork) _

theorem work_deliver {e : End} (hopen : e.session.connection.conn.closed = false)
    (hflight : e.inFlight ≠ []) : (e.deliver recoverAddressFromMsg).work < e.work := by
  rw [deliver]
  rcases hmessages : e.inFlight with _ | ⟨⟨msg, tag⟩, inFlight⟩
  · exact absurd hmessages hflight
  · simp [work, input, Session.act, OracleConnection.work, Channel.send, hopen, hmessages,
      delivering]
    omega

/-- Nothing is on the way to a side that has nothing to do, nor from its oracle. -/
theorem nothing_of_work {e : End} (h : e.work = 0) : e.arrives = [] ∧ e.ticks = [] := by
  obtain ⟨hconnection, hflight⟩ := Nat.add_eq_zero_iff.1 h
  obtain ⟨hinputs, hqueue⟩ := Nat.add_eq_zero_iff.1 hconnection
  have hflight : e.inFlight = [] := by
    rcases hmessages : e.inFlight with _ | ⟨m, inFlight⟩
    · rfl
    · simp [hmessages, delivering] at hflight
  have hqueue : e.session.connection.conn.queue = [] := by
    rcases hmessages : e.session.connection.conn.queue with _ | ⟨msg, messages⟩
    · rfl
    · have hone := one_le_handling msg
      rw [hmessages, List.map_cons, List.sum_cons] at hqueue
      omega
  have hticks : e.session.connection.signedTicks.queue = [] := by
    rw [← List.length_eq_zero_iff]
    omega
  rw [arrives, ticks, hqueue, hflight, hticks]
  exact ⟨rfl, rfl⟩

/-- A side to which its peer and its oracle can send. -/
structure Takes (e : End) : Prop where
  conn : e.session.connection.conn.closed = false
  signedTicks : e.session.connection.signedTicks.closed = false

variable {e : End}

theorem Takes.tick (h : e.Takes) (item : Except UInt64 SignedTicker) :
    (e.input recoverAddressFromMsg (.tick item)).Takes := by
  refine ⟨h.conn, ?_⟩
  simp [input, Session.act, Channel.send, h.signedTicks]

theorem Takes.deliver (h : e.Takes) : (e.deliver recoverAddressFromMsg).Takes := by
  rw [End.deliver]
  rcases e.inFlight with _ | ⟨⟨msg, tag⟩, inFlight⟩
  · exact h
  · refine ⟨?_, h.signedTicks⟩
    simp [input, Session.act, Channel.send, h.conn]

theorem Takes.poll (h : e.Takes) (hrelays : e.Relays recoverAddressFromMsg address peer) :
    (e.poll recoverAddressFromMsg).Takes where
  conn := (OracleConnection.pollNext_polls recoverAddressFromMsg hrelays.ping).closed.trans h.conn
  signedTicks := (OracleConnection.closed_signedTicks_pollNext _).trans h.signedTicks

theorem work_tick (h : e.Takes) (item : Except UInt64 SignedTicker) :
    (e.input recoverAddressFromMsg (.tick item)).work = e.work + 5 := by
  simp [work, input, Session.act, OracleConnection.work, Channel.send, h.signedTicks]
  omega

end End

/-! ## Two sides -/

namespace Traffic

variable {recoverAddressFromMsg : Signature → Bytes → Option Address}
  {signer : Side → PrivateKeySigner recoverAddressFromMsg} {s : Traffic}

def work (s : Traffic) : ℕ := (s.ends .left).work + (s.ends .right).work

theorem work_eq (s : Traffic) (side : Side) :
    s.work = (s.ends side).work + (s.ends side.other).work := by
  cases side with
  | left => rfl
  | right => exact Nat.add_comm _ _

/-- What happens to one side only. -/
theorem work_lt {event : JoinedEvent} {i : Side} {e : End}
    (hact : s.ends.act recoverAddressFromMsg event = Function.update s.ends i e)
    (h : e.work < (s.ends i).work) : (s.act recoverAddressFromMsg event).work < s.work := by
  rw [work_eq _ i, work_eq s i]
  simp only [act, hact, Function.update_self, Function.update_of_ne i.other_ne]
  exact Nat.add_lt_add_right h _

theorem takes_update (h : ∀ side, (s.ends side).Takes) {event : JoinedEvent} {i : Side} {e : End}
    (hact : s.ends.act recoverAddressFromMsg event = Function.update s.ends i e) (he : e.Takes)
    (side : Side) : ((s.act recoverAddressFromMsg event).ends side).Takes := by
  have heq : (s.act recoverAddressFromMsg event).ends side = Function.update s.ends i e side :=
    congrFun hact side
  rw [heq]
  by_cases hi : side = i
  · subst hi
    rwa [Function.update_self]
  · rw [Function.update_of_ne hi]
    exact h side

theorem work_tick {i : Side} (h : (s.ends i).Takes) (item : Except UInt64 SignedTicker) :
    (s.act recoverAddressFromMsg (.tick i item)).work = s.work + 5 := by
  rw [work_eq _ i, work_eq s i]
  simp only [act, Joined.act, Function.update_self, Function.update_of_ne i.other_ne,
    End.work_tick h]
  omega

theorem Gossips.work_poll (h : s.Gossips signer) {i : Side}
    (hwork : (s.ends i).session.connection.work ≠ 0) :
    (s.act recoverAddressFromMsg (.poll i)).work < s.work := by
  have hlt := (h.relays i).work_poll hwork
  rw [work_eq _ i, work_eq s i, ends_poll, ends_poll_of_ne i.other_ne]
  simp only [End.work, List.map_append, delivering_append] at hlt ⊢
  omega

/-- What is recorded fits in memory when what is handed over does. -/
theorem Records.fits {side : Side} (h : s.Records signer side)
    (hfew : (s.handed side.other).length * 20 < 2 ^ 63) : (s.ends side).Fits := by
  obtain ⟨recorded, hrecorded, hattestations⟩ := h
  rintro ⟨id, attestations⟩ hentry
  have hrecord := hattestations id
  rw [OracleConnection.attestationsOf, Assoc.mem_entries_iff.1 hentry, Option.getD_some] at hrecord
  have hcount : recorded.countP (·.id = id) ≤ recorded.length := List.countP_le_length
  rw [hrecorded, List.length_append] at hfew
  simp only [hrecord, List.length_replicate]
  omega

theorem Gossips.enabled_poll (h : s.Gossips signer) {i : Side}
    (hopen : (s.ends i).session.connection.conn.closed = false)
    (hfew : (s.handed i.other).length * 20 < 2 ^ 63) :
    Joined.Enabled recoverAddressFromMsg s.ends (.poll i) := by
  refine ⟨Bool.eq_false_iff.2 fun hended => ?_, ?_⟩
  · rw [(h.relays i).ended hended] at hopen
    cases hopen
  · refine ends_poll s i ▸ (h.records_poll i i).fits ?_
    rw [handed_act]
    exact (List.append_nil (s.handed i.other)).symm ▸ hfew

end Traffic

/-! ## What is recorded in the end -/

section

variable {ε μ : Type} {intoText : μ → Option Text} {fromStr : Text → Option BinanceResponse}
  {recoverAddressFromMsg : Signature → Bytes → Option Address} {keccak256 : Bytes → B256}
  {signer : Side → PrivateKeySigner recoverAddressFromMsg} {symbols : Side → List Text}

namespace Pair

/-- The connection is open. What was sent fits in messages, and can be recorded: the vectors
    of attestations are within `isize::MAX` bytes then. -/
structure Open (s : Pair ε μ) : Prop where
  takes : ∀ side, (s.traffic.ends side).Takes
  fits : ∀ side, ∀ signedTicker ∈ (s.oracles side).toPeers,
    (OracleProtoMessage.signedTicker signedTicker).encoded.length < 2 ^ 63
  few : ∀ side, (s.oracles side).toPeers.length * 20 < 2 ^ 63

/-- Something sent, or on the way, is taken, or a connection is polled that has something to
    do. -/
def Busy (s : Pair ε μ) : PairEvent ε μ → Prop
  | .recv side => (s.receivers side).next < (s.oracles side).toPeers.length
  | .joined (.deliver side) => (s.traffic.ends side).inFlight ≠ []
  | .joined (.poll side) => (s.traffic.ends side).session.connection.work ≠ 0
  | _ => False

/-- How many tickers the receiver of a side has not got yet. -/
def unread (s : Pair ε μ) (side : Side) : ℕ :=
  (s.oracles side).toPeers.length - (s.receivers side).next

/-- What there is to do, also for the tickers that were not received yet. -/
def work (s : Pair ε μ) : ℕ := s.traffic.work + 6 * (s.unread .left + s.unread .right)

theorem work_eq (s : Pair ε μ) (side : Side) :
    s.work = s.traffic.work + 6 * (s.unread side + s.unread side.other) := by
  cases side with
  | left => rfl
  | right => rw [work, Nat.add_comm (s.unread .left)]; rfl

variable {s : Pair ε μ}

/-- What a receiver gets, unless it has got to the end, is for its connection. -/
theorem received_eq_tick (side : Side) {r : Except Broadcast.RecvError SignedTicker}
    (h : r ≠ .error .closed) : ∃ item, JoinedEvent.received side r = .tick side item := by
  rcases r with (missed | _) | signedTicker
  · exact ⟨_, rfl⟩
  · exact absurd rfl h
  · exact ⟨_, rfl⟩

theorem next_after (receiver : Receiver) (r : Except Broadcast.RecvError SignedTicker × ℕ) :
    (receiver.after r).next = r.2 := by
  rcases r with ⟨(missed | _) | signedTicker, next⟩ <;> rfl

/-- A receiver goes on, and leaves a ticker to send in place of those it has passed. -/
theorem received_lt (hopen : s.Open) {side : Side}
    {r : Except Broadcast.RecvError SignedTicker × ℕ} (hrecv : s.recv side = some r)
    (hbusy : s.Busy (.recv side)) :
    (s.received recoverAddressFromMsg side r).Open ∧
      (s.received recoverAddressFromMsg side r).work < s.work := by
  obtain ⟨r', next, hsome, hne, hlt⟩ := Broadcast.recv_of_lt toPeersCapacity (s.dropped side) hbusy
  obtain rfl : r = (r', next) := Option.some.inj (hrecv.symm.trans hsome)
  obtain ⟨item, hitem⟩ := received_eq_tick side hne
  refine ⟨⟨fun i => ?_, hopen.fits, hopen.few⟩, ?_⟩
  · rw [received, hitem]
    exact Traffic.takes_update hopen.takes rfl ((hopen.takes side).tick item) i
  · have hunread : (s.received recoverAddressFromMsg side (r', next)).unread side =
        (s.oracles side).toPeers.length - next := by
      simp only [unread, received, Function.update_self, next_after]
    have hother : (s.received recoverAddressFromMsg side (r', next)).unread side.other =
        s.unread side.other := by
      simp only [unread, received, Function.update_of_ne side.other_ne]
    have htraffic : (s.received recoverAddressFromMsg side (r', next)).traffic.work =
        s.traffic.work + 5 := by
      rw [received, hitem]
      exact Traffic.work_tick (hopen.takes side) item
    rw [work_eq _ side, work_eq s side, hunread, hother, htraffic]
    simp only [unread, Busy] at hbusy ⊢
    omega

/-- Something is delivered or handled, which leaves the connection open. -/
theorem withEvent_lt (hopen : s.Open) {event : JoinedEvent}
    (htakes : ∀ side, ((s.traffic.act recoverAddressFromMsg event).ends side).Takes)
    (hlt : (s.traffic.act recoverAddressFromMsg event).work < s.traffic.work) :
    (s.withEvent recoverAddressFromMsg event).Open ∧
      (s.withEvent recoverAddressFromMsg event).work < s.work :=
  ⟨⟨htakes, hopen.fits, hopen.few⟩, Nat.add_lt_add_right hlt _⟩

/-- What is busy leaves less to do. -/
theorem Valid.busy {s' : Pair ε μ} {event : PairEvent ε μ}
    (h : s.Valid intoText fromStr keccak256 signer symbols) (hopen : s.Open) (hbusy : s.Busy event)
    (hstep : (pair intoText fromStr keccak256 signer symbols).step s event s') :
    s'.Valid intoText fromStr keccak256 signer symbols ∧ s'.oracles = s.oracles ∧ s'.Open ∧
      s'.work < s.work := by
  have hgossips := Traffic.gossips h.traffic
  rcases event with _ | _ | _ | side | event
  · cases hbusy
  · cases hbusy
  · cases hbusy
  · obtain ⟨hcan, r, hr, rfl⟩ := hstep
    exact ⟨h.received hcan hr, rfl, received_lt hopen hr hbusy⟩
  · obtain ⟨hevent, henabled, rfl⟩ := hstep
    refine ⟨h.withEvent hevent henabled, rfl, ?_⟩
    rcases event with _ | _ | _ | _ | side | _ | side
    · cases hbusy
    · cases hbusy
    · cases hbusy
    · cases hbusy
    · exact withEvent_lt hopen (Traffic.takes_update hopen.takes rfl (hopen.takes side).deliver)
        (Traffic.work_lt rfl (End.work_deliver (hopen.takes side).conn hbusy))
    · cases hbusy
    · refine withEvent_lt hopen (fun i => ?_) (hgossips.work_poll hbusy)
      by_cases hi : i = side
      · subst hi
        rw [Traffic.ends_poll]
        exact (hopen.takes i).poll (hgossips.relays i)
      · rw [Traffic.ends_poll_of_ne hi]
        exact ⟨(hopen.takes i).conn, (hopen.takes i).signedTicks⟩

/-- There is something busy as long as there is something to do. -/
theorem Valid.exists_busy (h : s.Valid intoText fromStr keccak256 signer symbols) (hopen : s.Open)
    (hwork : s.work ≠ 0) : ∃ event s', s.Busy event ∧
      (pair intoText fromStr keccak256 signer symbols).step s event s' := by
  have hgossips := Traffic.gossips h.traffic
  by_cases hunread : ∃ side, (s.receivers side).next < (s.oracles side).toPeers.length
  · obtain ⟨side, hlt⟩ := hunread
    obtain ⟨r, next, hrecv, -, -⟩ := Broadcast.recv_of_lt toPeersCapacity (s.dropped side) hlt
    exact ⟨.recv side, _, hlt, ⟨(hopen.takes side).signedTicks, hopen.fits side⟩, _, hrecv, rfl⟩
  obtain ⟨side, hside⟩ : ∃ side, (s.traffic.ends side).work ≠ 0 := by
    by_contra hnone
    push Not at hnone hunread
    refine hwork ?_
    have hread (side : Side) : s.unread side = 0 := Nat.sub_eq_zero_of_le (hunread side)
    rw [work, Traffic.work, hnone, hnone, hread, hread]
  by_cases hconnection : (s.traffic.ends side).session.connection.work = 0
  · have hflight : (s.traffic.ends side).inFlight ≠ [] := by
      intro hnil
      rw [End.work, hconnection, hnil] at hside
      exact hside rfl
    exact ⟨.joined (.deliver side), _, hflight, rfl, (hopen.takes side).conn, rfl⟩
  · have hfew : (s.traffic.handed side.other).length * 20 < 2 ^ 63 := by
      have hreceives := h.receives side.other
      have hlength := hreceives.length
      have hle := hreceives.le
      have hfew := hopen.few side.other
      omega
    exact ⟨.joined (.poll side), _, hconnection, rfl,
      hgossips.enabled_poll (hopen.takes side).conn hfew, rfl⟩

end Pair

/-- As long as the connection is open, and nothing is signed or asked for, the two sides come
    to have recorded all that was sent since they were connected, but for what was missed. -/
theorem pair_settles {s : Pair ε μ}
    (hs : (pair intoText fromStr keccak256 signer symbols).Reachable s) (hopen : s.Open) :
    (pair intoText fromStr keccak256 signer symbols).Inevitably Pair.Busy
      (fun s' => s'.oracles = s.oracles ∧ ∀ side,
        (∃ recorded, s'.Knows intoText fromStr keccak256 signer symbols side
          ((s'.oracles side.other).toPeers.map SignedTicker.ticker) recorded) ∧
        s'.traffic.onTheWay side = [] ∧
        (s'.receivers side).next = (s'.oracles side).toPeers.length) s := by
  have hsettles : (pair intoText fromStr keccak256 signer symbols).Inevitably Pair.Busy
      (fun t => (t.Valid intoText fromStr keccak256 signer symbols ∧ t.Open ∧
        t.oracles = s.oracles) ∧ t.work = 0) s := by
    refine .of_lt Pair.work ?_ ?_ ⟨Pair.valid hs, hopen, rfl⟩
    · rintro t ⟨h, hopen, -⟩ hwork
      exact h.exists_busy hopen hwork
    · rintro t event t' ⟨h, hopen, hsame⟩ hbusy hstep
      obtain ⟨h', hsame', hopen', hlt⟩ := h.busy hopen hbusy hstep
      exact ⟨⟨h', hopen', hsame'.trans hsame⟩, hlt⟩
  refine hsettles.mono ?_
  rintro t ⟨⟨h, -, hsame⟩, hwork⟩
  refine ⟨hsame, fun side => ⟨h.knows side, ?_, ?_⟩⟩
  · rw [Pair.work_eq t side, Traffic.work_eq _ side] at hwork
    rw [Traffic.onTheWay, (End.nothing_of_work (e := t.traffic.ends side) (by omega)).1,
      (End.nothing_of_work (e := t.traffic.ends side.other) (by omega)).2]
    rfl
  · have hle := (h.receives side).le
    rw [Pair.work_eq t side, Pair.unread] at hwork
    omega

end

/-! ### Two tickers that were sent -/

instance instDecidableForallSide {P : Side → Prop} [∀ side, Decidable (P side)] :
    Decidable (∀ side, P side) :=
  decidable_of_iff (P .left ∧ P .right)
    ⟨fun h side => by cases side; exacts [h.1, h.2], fun h => ⟨h .left, h .right⟩⟩

instance End.instDecidableTakes (e : End) : Decidable e.Takes :=
  decidable_of_iff (_ ∧ _) ⟨fun h => ⟨h.1, h.2⟩, fun h => ⟨h.1, h.2⟩⟩

instance Pair.instDecidableOpen {ε μ : Type} (s : Pair ε μ) : Decidable s.Open :=
  decidable_of_iff (_ ∧ _ ∧ _) ⟨fun h => ⟨h.1, h.2.1, h.2.2⟩, fun h => ⟨h.1, h.2, h.3⟩⟩

/-- The left oracle has sent a ticker on each connection, and nothing was received yet. -/
theorem settles_tickerOfEach : ∃ s ∈ pairAfter (tickerOfEach.take 4),
    s.work ≠ 0 ∧ (pair some readText tickerKeccak256 (fun _ => keyOne)
      (fun _ => [['b', 't', 'c']])).Inevitably Pair.Busy
      (fun s' => s'.oracles = s.oracles ∧ ∀ side,
        (∃ recorded, s'.Knows some readText tickerKeccak256 (fun _ => keyOne)
          (fun _ => [['b', 't', 'c']]) side
          ((s'.oracles side.other).toPeers.map SignedTicker.ticker) recorded) ∧
        s'.traffic.onTheWay side = [] ∧
        (s'.receivers side).next = (s'.oracles side).toPeers.length) s := by
  have hrun : (pairAfter (tickerOfEach.take 4)).map (fun s =>
      (decide (s.work ≠ 0), decide s.Open)) = some (true, true) := by decide +kernel
  obtain ⟨s, hs, hopen⟩ := Option.map_eq_some_iff.1 hrun
  obtain ⟨hwork, hopen⟩ := Prod.mk.inj hopen
  exact ⟨s, hs, of_decide_eq_true hwork, pair_settles (reachable_pairAfter hs)
    (of_decide_eq_true hopen)⟩

end ExEx.Oracle
