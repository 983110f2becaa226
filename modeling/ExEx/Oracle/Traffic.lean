import ExEx.Oracle.Joined

/-!
# Traffic between two connections

A connection replies to what it receives, and the peer to the reply. Yet nothing is
replied to forever: a ping makes the peer send a pong, and a ticker makes it send
attestations; a pong and attestations make it send nothing. What a connection sends of
its own is the ping it opens with, a ticker for each it is handed of those its oracle
signs, and attestations for each command.

So of each kind, two joined connections send no more than what causes it
(`traffic_bounded`), in every run, however the two sides are interleaved. In all, there
are at most two messages, one for each command, and two for each ticker that is handed
to a connection.

What a connection has to send of a kind is counted (`due`): what a poll sends of it is
no longer due (`due_pollNext`).
-/

namespace ExEx.Oracle

open Reth (Signature)

/-! ## Kinds -/

/-- How many messages of a kind there are. -/
def count (kind : OracleProtoMessageId) (messages : List Bytes) : ℕ :=
  messages.countP fun msg => msg.head? = some kind.toByte

/-- The kind of the messages that are replied to with the given kind, if any. -/
def OracleProtoMessageId.cause : OracleProtoMessageId → Option OracleProtoMessageId
  | .pong => some .ping
  | .attestations => some .tickData
  | _ => none

/-- How many messages are replied to with the given kind. -/
def causes (kind : OracleProtoMessageId) (messages : List Bytes) : ℕ :=
  kind.cause.elim 0 fun cause => count cause messages

section

variable (kind : OracleProtoMessageId) (messages messages' : List Bytes)

@[simp] theorem count_nil : count kind [] = 0 := rfl

@[simp] theorem count_append :
    count kind (messages ++ messages') = count kind messages + count kind messages' :=
  List.countP_append

@[simp] theorem causes_nil : causes kind [] = 0 := by
  cases kind <;> rfl

@[simp] theorem causes_append :
    causes kind (messages ++ messages') = causes kind messages + causes kind messages' := by
  cases kind <;> simp [causes, OracleProtoMessageId.cause]

theorem causes_cons (msg : Bytes) : causes kind (msg :: messages) =
    causes kind [msg] + causes kind messages := causes_append kind [msg] messages

theorem count_encoded (m : OracleProtoMessage) :
    count kind [m.encoded] = if m.messageType = kind then 1 else 0 := by
  rw [count, OracleProtoMessage.encoded, List.countP_singleton]
  rcases m.messageType <;> cases kind <;> rfl

theorem causes_toByte (messageType : OracleProtoMessageId) (buf : Bytes) :
    causes kind [messageType.toByte :: buf] = if kind.cause = some messageType then 1 else 0 := by
  cases kind <;> cases messageType <;> rfl

/-- A message that can be sent is of one kind. -/
theorem sum_count_encoded (m : OracleProtoMessage) :
    count .ping [m.encoded] + count .pong [m.encoded] + count .tickData [m.encoded] +
      count .attestations [m.encoded] = 1 := by
  simp only [count_encoded]
  rcases m.messageType <;> rfl

end

/-! ## What is due -/

/-- The message that is answered, if one is. -/
def Polled.messages : Polled → List Bytes
  | .ready (some msg) => [msg]
  | _ => []

namespace OracleConnection

/-- How many messages of a kind the connection has to send, of its own and for its
    oracle. -/
def inputs (kind : OracleProtoMessageId) (s : OracleConnection) : ℕ :=
  s.initialPing.toList.countP (·.messageType = kind) +
    match kind with
    | .tickData => s.signedTicks.queue.countP (·.isOk)
    | .attestations => s.commands.queue.length
    | _ => 0

/-- How many messages of a kind the connection has to send, with the replies to the
    messages in its queue. -/
def due (kind : OracleProtoMessageId) (s : OracleConnection) : ℕ :=
  s.inputs kind + causes kind s.conn.queue

variable {recoverAddressFromMsg : Signature → Bytes → Option Address}

theorem inputs_pollLocal (kind : OracleProtoMessageId) (s : OracleConnection) :
    count kind ((pollLocal s).1.elim [] Polled.messages) + (pollLocal s).2.inputs kind ≤
      s.inputs kind := by
  rcases hcommands : s.commands.queue with _ | ⟨⟨id, sender⟩, rest⟩
  · obtain ⟨hreply, _, _, hnil, hticks, heq⟩ := pollLocal_of_nil hcommands
    rw [hreply, heq]
    rcases htick : s.signedTicks.queue with _ | ⟨_ | tick, ticks⟩ <;> rw [htick] at hticks <;>
      cases kind <;>
      simp [inputs, hnil, hcommands, hticks, htick, Polled.messages, count_encoded,
        OracleProtoMessage.signedTicker, Except.isOk, Except.toBool]
    all_goals omega
  · rw [pollLocal_command hcommands]
    cases kind <;>
      simp [inputs, hcommands, Polled.messages, count_encoded, OracleProtoMessage.attestations]
    omega

variable (recoverAddressFromMsg) in
/-- A message is replied to with one that it causes, if at all. -/
theorem count_receive (kind : OracleProtoMessageId) (msg : Bytes) (s : OracleConnection) :
    count kind ((receive recoverAddressFromMsg msg s).1.elim [] Polled.messages) ≤
      causes kind [msg] := by
  rcases msg with _ | ⟨id, buf⟩
  · exact Nat.zero_le _
  rw [receive]
  rcases hid : OracleProtoMessageId.ofByte id with _ | messageType
  · simp [OracleProtoMessage.decodeMessage, hid, Polled.messages]
  obtain rfl := OracleProtoMessageId.eq_toByte_of_ofByte hid
  cases messageType with
  | ping =>
    rw [causes_toByte]
    exact (count_encoded kind .pong).trans_le (by cases kind <;> decide)
  | pong => exact Nat.zero_le _
  | attestations =>
    rcases hdata : Rlp.decodeList (Rlp.decodeFixedBytes 20) buf with _ | ⟨data, rest⟩ <;>
      simp [OracleProtoMessage.decodeMessage, hid, hdata, Polled.messages]
  | tickData =>
    rcases hdata : SignedTicker.decode buf with _ | ⟨data, rest⟩
    · simp [OracleProtoMessage.decodeMessage, hid, hdata, Polled.messages]
    · simp only [OracleProtoMessage.decodeMessage, hid, hdata, List.head?_cons, List.tail_cons,
        Option.bind_eq_bind, Option.bind_some, Option.elim_some, attest]
      -- The signature may end the connection, and else the attestations are replied.
      split
      · exact Nat.zero_le _
      · split
        · exact Nat.zero_le _
        · rw [causes_toByte]
          refine (count_encoded kind (.attestations _)).trans_le ?_
          change (if OracleProtoMessageId.attestations = kind then 1 else 0) ≤ _
          cases kind <;> decide

theorem inputs_receive (kind : OracleProtoMessageId) (msg : Bytes) (s : OracleConnection) :
    (receive recoverAddressFromMsg msg s).2.inputs kind = s.inputs kind := by
  simp only [inputs, initialPing_receive, signedTicks_receive, commands_receive]

/-- What the loop of a poll sends is no longer due. -/
theorem due_pollLoop (kind : OracleProtoMessageId) (s : OracleConnection) :
    count kind (pollLoop recoverAddressFromMsg s.conn.queue s).1.messages +
      (pollLoop recoverAddressFromMsg s.conn.queue s).2.due kind ≤ s.due kind := by
  have hended (t : OracleConnection) (hlocal : (pollLocal t).1 = none) :
      0 + (pollLocal t).2.due kind ≤ t.due kind := by
    have hinputs := inputs_pollLocal kind t
    rw [hlocal] at hinputs
    rw [due, due, conn_pollLocal]
    exact (Nat.add_assoc _ _ _).symm.trans_le (Nat.add_le_add_right hinputs _)
  have htaken (msg : Bytes) (messages : List Bytes) (t : OracleConnection)
      (hqueue : t.conn.queue = msg :: messages) (hlocal : (pollLocal t).1 = none) :
      count kind ((receive recoverAddressFromMsg msg
          ((pollLocal t).2.withMessages messages)).1.elim [] Polled.messages) +
        (receive recoverAddressFromMsg msg
          ((pollLocal t).2.withMessages messages)).2.due kind ≤ t.due kind := by
    have hinputs := inputs_pollLocal kind t
    have hreceive := count_receive recoverAddressFromMsg kind msg
      ((pollLocal t).2.withMessages messages)
    rw [hlocal] at hinputs
    rw [due, due, inputs_receive, conn_receive, hqueue, causes_cons]
    simp only [Option.elim_none, count_nil, Nat.zero_add] at hinputs
    simp only [withMessages, inputs] at hinputs ⊢
    simp only [withMessages] at hreceive
    omega
  refine pollLoop_rule
    (P := fun messages t => t.conn.queue = messages ∧ t.due kind ≤ s.due kind)
    (Q := fun polled t => count kind polled.messages + t.due kind ≤ s.due kind)
    ?_ ?_ ?_ ?_ ?_ ⟨rfl, le_refl _⟩
  · rintro messages t polled ⟨-, hdue⟩ hlocal
    have hinputs := inputs_pollLocal kind t
    rw [hlocal, Option.elim_some] at hinputs
    rw [due] at hdue ⊢
    rw [conn_pollLocal]
    omega
  · rintro t ⟨-, hdue⟩ hlocal
    exact (hended t hlocal).trans hdue
  · rintro t ⟨-, hdue⟩ hlocal
    exact (hended t hlocal).trans hdue
  · rintro msg messages t ⟨hqueue, hdue⟩ hlocal hnone
    refine ⟨by rw [conn_receive]; rfl, ?_⟩
    have htaken := htaken msg messages t hqueue hlocal
    omega
  · rintro msg messages t polled ⟨hqueue, hdue⟩ hlocal hreply
    have htaken := htaken msg messages t hqueue hlocal
    rw [hreply, Option.elim_some] at htaken
    omega

theorem due_pollNext (kind : OracleProtoMessageId) (s : OracleConnection) :
    count kind (s.pollNext recoverAddressFromMsg).1.messages +
      (s.pollNext recoverAddressFromMsg).2.due kind ≤ s.due kind := by
  rw [pollNext]
  rcases hping : s.initialPing with _ | ping
  · exact due_pollLoop kind s
  · have hcount := count_encoded kind ping
    simp only [due, inputs, Polled.messages, hping, Option.toList_some, Option.toList_none,
      List.countP_singleton, List.countP_nil, decide_eq_true_eq]
    omega

/-- What a connection may send when it goes from a state to another. -/
inductive Sends (s s' : OracleConnection) : Bytes → Prop
  | ping (ping : OracleProtoMessage) (h : ping ∈ s.initialPing) : Sends s s' ping.encoded
  | pong : Sends s s' OracleProtoMessage.pong.encoded
  | tick (tick : SignedTicker) (h : .ok tick ∈ s.signedTicks.queue) :
    Sends s s' (OracleProtoMessage.signedTicker tick).encoded
  | attestations (id : B256) :
    Sends s s' (OracleProtoMessage.attestations (s'.attestationsOf id)).encoded

theorem sends_pollLocal (s : OracleConnection) :
    ∀ msg ∈ (pollLocal s).1.elim [] Polled.messages, Sends s (pollLocal s).2 msg := by
  rcases hcommands : s.commands.queue with _ | ⟨⟨id, sender⟩, rest⟩
  · rw [(pollLocal_of_nil hcommands).1]
    rcases hticks : s.signedTicks.queue with _ | ⟨_ | tick, ticks⟩ <;> intro msg hmsg
    · cases hmsg
    · cases hmsg
    · obtain rfl := List.mem_singleton.1 hmsg
      exact .tick tick (hticks ▸ List.mem_cons_self)
  · rw [pollLocal_command hcommands]
    intro msg hmsg
    obtain rfl := List.mem_singleton.1 hmsg
    exact .attestations id

variable (recoverAddressFromMsg) in
theorem sends_receive (msg : Bytes) (s : OracleConnection) :
    ∀ reply ∈ (receive recoverAddressFromMsg msg s).1.elim [] Polled.messages,
      reply = OracleProtoMessage.pong.encoded ∨ ∃ id, reply = (OracleProtoMessage.attestations
        ((receive recoverAddressFromMsg msg s).2.attestationsOf id)).encoded := by
  rw [receive]
  rcases OracleProtoMessage.decodeMessage msg with _ | ⟨⟨messageType, message⟩, rest⟩ <;>
    intro reply hreply
  · cases hreply
  rcases message with _ | _ | signedData | attestations
  · exact .inl (List.mem_singleton.1 hreply)
  · cases hreply
  · simp only [attest] at hreply ⊢
    split at hreply
    · cases hreply
    · split at hreply
      · cases hreply
      · exact .inr ⟨signedData.id, List.mem_singleton.1 hreply⟩
  · cases hreply

/-- What is sent of the tickers of the oracle was among them. -/
theorem Sends.mono {s t t' : OracleConnection} {msg : Bytes} (h : Sends t t' msg)
    (hping : t.initialPing = s.initialPing) (hticks : t.signedTicks.queue ⊆ s.signedTicks.queue) :
    Sends s t' msg := by
  cases h with
  | ping ping hmem => exact .ping ping (hping ▸ hmem)
  | pong => exact .pong
  | tick tick hmem => exact .tick tick (hticks hmem)
  | attestations id => exact .attestations id

theorem signedTicks_pollLocal (s : OracleConnection) :
    (pollLocal s).2.signedTicks.queue ⊆ s.signedTicks.queue := by
  rcases hcommands : s.commands.queue with _ | ⟨⟨id, sender⟩, rest⟩
  · obtain ⟨-, _, _, -, hticks, heq⟩ := pollLocal_of_nil hcommands
    rw [heq]
    exact hticks ▸ (List.tail_sublist _).subset
  · rw [pollLocal_command hcommands]
    exact List.Subset.refl _

theorem sends_pollNext (s : OracleConnection) :
    ∀ msg ∈ (s.pollNext recoverAddressFromMsg).1.messages,
      Sends s (s.pollNext recoverAddressFromMsg).2 msg := by
  rw [pollNext]
  rcases hping : s.initialPing with _ | ping
  · refine pollLoop_rule
      (P := fun _ t => t.initialPing = s.initialPing ∧
        t.signedTicks.queue ⊆ s.signedTicks.queue)
      (Q := fun polled t => ∀ msg ∈ polled.messages, Sends s t msg)
      ?_ ?_ ?_ ?_ ?_ ⟨rfl, List.Subset.refl _⟩
    · rintro messages t polled ⟨hsame, hticks⟩ hlocal msg hmsg
      have hsends := sends_pollLocal t
      rw [hlocal] at hsends
      exact (hsends msg hmsg).mono hsame hticks
    · exact fun t _ _ msg hmsg => by cases hmsg
    · exact fun t _ _ msg hmsg => by cases hmsg
    · rintro msg messages t ⟨hsame, hticks⟩ - -
      rw [initialPing_receive, signedTicks_receive]
      exact ⟨(initialPing_pollLocal t).trans hsame, List.Subset.trans (signedTicks_pollLocal t) hticks⟩
    · rintro msg messages t polled - - hreply reply hmem
      have hsends := sends_receive recoverAddressFromMsg msg
        ((pollLocal t).2.withMessages messages)
      rw [hreply] at hsends
      rcases hsends reply hmem with rfl | ⟨id, rfl⟩
      · exact .pong
      · exact .attestations id
  · intro msg hmsg
    obtain rfl := List.mem_singleton.1 hmsg
    exact .ping ping hping

/-- What is sent is the encoding of a message. -/
theorem Sends.encodes {s s' : OracleConnection} {msg : Bytes} (h : Sends s s' msg) :
    ∃ m : OracleProtoMessage, msg = m.encoded := by
  cases h <;> exact ⟨_, rfl⟩

end OracleConnection

/-! ## Runs -/

/-- What an event gives the connection of a side to send, of each kind. -/
def JoinedEvent.gives (side : Side) (kind : OracleProtoMessageId) : JoinedEvent → ℕ
  | .command i _ => if i = side ∧ kind = .attestations then 1 else 0
  | .tick i (.ok _) => if i = side ∧ kind = .tickData then 1 else 0
  | _ => 0

/-- The tickers that the connection of a side is handed in an event. Those that its receiver
    of the broadcast channel has missed are only reported, and not handed to it. -/
def JoinedEvent.hands (side : Side) : JoinedEvent → List SignedTicker
  | .tick i (.ok signedData) => if i = side then [signedData] else []
  | _ => []

section

variable (recoverAddressFromMsg : Signature → Bytes → Option Address)

/-- The messages a side sends in an event. -/
def Joined.sends (s : Joined) (side : Side) : JoinedEvent → List Bytes
  | .poll i => if i = side then ((s i).sends recoverAddressFromMsg).map Prod.fst else []
  | _ => []

/-- Two joined connections, with what was sent so far. -/
structure Traffic where
  ends : Joined
  opener : Side
  /-- The tickers that the connection of each side was handed. -/
  handed : Side → List SignedTicker
  /-- The messages each side has sent. -/
  sent : Side → List Bytes

def Traffic.act (s : Traffic) (event : JoinedEvent) : Traffic where
  ends := s.ends.act recoverAddressFromMsg event
  opener := s.opener
  handed side := s.handed side ++ event.hands side
  sent side := s.sent side ++ s.ends.sends recoverAddressFromMsg side event

/-- What two connections send each other. -/
def traffic : System Traffic JoinedEvent where
  init s := (s.ends = fun side => .start (side = s.opener)) ∧ (∀ side, s.handed side = []) ∧
    ∀ side, s.sent side = []
  step s event s' := Joined.Enabled recoverAddressFromMsg s.ends event ∧
    s' = s.act recoverAddressFromMsg event

end

namespace Traffic

/-- How many messages of a kind a side has to send, but for its replies: the ping of the
    one who opens, the tickers of its oracle, and an answer to each of its commands. -/
def given (s : Traffic) (side : Side) : OracleProtoMessageId → ℕ
  | .ping => if side = s.opener then 1 else 0
  | .pong => 0
  | .tickData => (s.handed side).length
  | .attestations => (s.ends side).issued.length

/-- Of each kind, a side has sent no more than it was given and than the peer's messages
    cause. In all, this is at most two messages for the connection, one for each command
    and two for each ticker. -/
structure Bounded (s : Traffic) : Prop where
  kinds : ∀ side kind,
    count kind (s.sent side) ≤ s.given side kind + causes kind (s.sent side.other)
  total : (s.sent .left).length + (s.sent .right).length ≤
    2 + ((s.ends .left).issued.length + (s.ends .right).issued.length) +
      2 * ((s.handed .left).length + (s.handed .right).length)

end Traffic

variable {recoverAddressFromMsg : Signature → Bytes → Option Address}

namespace End

/-- What a side has to send of a kind, with the replies to what is on the way to it. -/
def due (kind : OracleProtoMessageId) (e : End) : ℕ :=
  e.session.connection.due kind + causes kind (e.inFlight.map Prod.fst)

variable (recoverAddressFromMsg) in
theorem messages_sends (e : End) : (e.sends recoverAddressFromMsg).map Prod.fst =
    (e.session.connection.pollNext recoverAddressFromMsg).1.messages := by
  rw [sends]
  split
  · rename_i heq
    rw [heq]
    rfl
  · rename_i hne
    rcases hpoll : e.session.connection.pollNext recoverAddressFromMsg with
      ⟨_ | ⟨_ | reply⟩ | _, c⟩
    · rfl
    · rfl
    · exact absurd hpoll (hne reply c)
    · rfl

theorem due_input (e : End) (kind : OracleProtoMessageId) {event : Event}
    (hevent : (∃ e, event = .tick (.error e)) ∨ event = .dropCommands ∨ event = .dropTicks ∨
      event = .disconnect) : (e.input recoverAddressFromMsg event).due kind ≤ e.due kind := by
  rcases hevent with ⟨lag, rfl⟩ | rfl | rfl | rfl
  · refine Nat.add_le_add_right (Nat.add_le_add_right (Nat.add_le_add_left ?_ _) _) _
    cases kind with
    | tickData =>
      simp only [input, Session.act, Channel.send]
      split_ifs
      · exact le_refl _
      · simp [Except.isOk, Except.toBool]
    | _ => exact le_refl _
  · exact le_refl _
  · exact le_refl _
  · exact le_refl _

theorem due_tick (e : End) (kind : OracleProtoMessageId) (tick : SignedTicker) :
    (e.input recoverAddressFromMsg (.tick (.ok tick))).due kind ≤
      e.due kind + if kind = .tickData then 1 else 0 := by
  cases kind with
  | tickData =>
    simp only [due, input, Session.act, OracleConnection.due, OracleConnection.inputs, Channel.send]
    split_ifs
    · omega
    · simp only [List.countP_append, List.countP_singleton]
      split <;> omega
  | _ => exact le_refl _

theorem due_command (e : End) (kind : OracleProtoMessageId) (id : B256) :
    (e.command recoverAddressFromMsg id).due kind ≤
      e.due kind + if kind = .attestations then 1 else 0 := by
  cases kind with
  | attestations =>
    simp only [due, command, input, Session.act, OracleConnection.due, OracleConnection.inputs,
      Channel.send]
    split_ifs
    · omega
    · simp only [List.length_append, List.length_singleton]
      omega
  | _ => exact le_refl _

theorem due_deliver (e : End) (kind : OracleProtoMessageId) :
    (e.deliver recoverAddressFromMsg).due kind ≤ e.due kind := by
  rw [deliver]
  rcases hflight : e.inFlight with _ | ⟨⟨msg, tag⟩, inFlight⟩
  · exact le_refl _
  · have hmsg := causes_cons kind (inFlight.map Prod.fst) msg
    simp only [due, input, Session.act, OracleConnection.due, OracleConnection.inputs,
      Channel.send, hflight, List.map_cons, hmsg]
    split_ifs
    · omega
    · rw [causes_append]
      omega

/-- What a side sends in a poll is no longer due. -/
theorem due_poll (e : End) (kind : OracleProtoMessageId) :
    count kind ((e.sends recoverAddressFromMsg).map Prod.fst) +
      (e.poll recoverAddressFromMsg).due kind ≤ e.due kind := by
  rw [messages_sends, due, due, ← Nat.add_assoc]
  exact Nat.add_le_add_right (OracleConnection.due_pollNext kind _) _

end End

/-- An event of a side, which sends nothing, adds to what that side has to send. -/
theorem Joined.due_update (s : Joined) {i : Side} {e : End} {kind : OracleProtoMessageId} {n : ℕ}
    (he : e.due kind ≤ (s i).due kind + n) (side : Side) :
    (Function.update s i e side).due kind ≤ (s side).due kind + if i = side then n else 0 := by
  by_cases hi : i = side
  · subst hi
    rwa [Function.update_self, if_pos rfl]
  · rw [Function.update_of_ne (Ne.symm hi), if_neg hi]
    exact le_refl _

variable (recoverAddressFromMsg) in
/-- An event adds what it gives, and what the messages that the peer sends cause. -/
theorem Joined.due_act (s : Joined) (event : JoinedEvent) (side : Side)
    (kind : OracleProtoMessageId) :
    count kind (s.sends recoverAddressFromMsg side event) +
        (s.act recoverAddressFromMsg event side).due kind ≤
      (s side).due kind + event.gives side kind +
        causes kind (s.sends recoverAddressFromMsg side.other event) := by
  rcases event with ⟨i, id⟩ | i | ⟨i, lag | tick⟩ | i | i | i | i <;>
    simp only [sends, act, JoinedEvent.gives, count_nil, causes_nil, Nat.zero_add, Nat.add_zero,
      ite_and]
  · exact s.due_update (End.due_command _ kind id) side
  · exact (s.due_update (n := 0) (End.due_input _ kind (.inr (.inl rfl))) side).trans (by simp)
  · exact (s.due_update (n := 0) (End.due_input _ kind (.inl ⟨lag, rfl⟩)) side).trans (by simp)
  · exact s.due_update (End.due_tick _ kind tick) side
  · exact (s.due_update (n := 0) (End.due_input _ kind (.inr (.inr (.inl rfl)))) side).trans
      (by simp)
  · exact (s.due_update (n := 0) (End.due_deliver _ kind) side).trans (by simp)
  · exact (s.due_update (n := 0) (End.due_input _ kind (.inr (.inr (.inr rfl)))) side).trans
      (by simp)
  · by_cases hi : side = i
    · subst hi
      rw [if_pos rfl, if_pos rfl]
      exact (End.due_poll _ kind).trans (Nat.le_add_right _ _)
    · -- What the peer sends is on the way to this side.
      rw [if_neg (Ne.symm hi), if_neg hi, Side.other_of_ne hi, if_pos rfl, End.due, End.due,
        List.map_append, causes_append, count_nil]
      dsimp only
      omega

/-! ## What was sent -/

namespace Traffic

theorem ends_poll (s : Traffic) (side : Side) :
    (s.act recoverAddressFromMsg (.poll side)).ends side =
      (s.ends side).poll recoverAddressFromMsg := if_pos rfl

/-- What a poll sends is on the way to the other side. -/
theorem ends_poll_of_ne {s : Traffic} {side i : Side} (hi : side ≠ i) :
    (s.act recoverAddressFromMsg (.poll i)).ends side =
      { s.ends side with
        inFlight := (s.ends side).inFlight ++ (s.ends i).sends recoverAddressFromMsg } := if_neg hi

/-- What was sent and what is due were given, or are caused by what the peer has sent. -/
def Accounted (s : Traffic) : Prop := ∀ side kind,
  count kind (s.sent side) + (s.ends side).due kind ≤
    s.given side kind + causes kind (s.sent side.other)

/-- The messages are of the four kinds. -/
def Encodes (s : Traffic) : Prop :=
  ∀ side, ∀ msg ∈ s.sent side, ∃ m : OracleProtoMessage, msg = m.encoded

theorem due_start (outgoing : Bool) (kind : OracleProtoMessageId) :
    (End.start outgoing).due kind = if outgoing = true ∧ kind = .ping then 1 else 0 := by
  cases outgoing <;> cases kind <;> rfl

theorem issued_deliver (e : End) : (e.deliver recoverAddressFromMsg).issued = e.issued := by
  rw [End.deliver]
  split <;> rfl

/-- The commands a side has issued are those it was given. -/
theorem length_issued_act (s : Joined) (event : JoinedEvent) (side : Side) :
    (s.act recoverAddressFromMsg event side).issued.length =
      (s side).issued.length + event.gives side .attestations := by
  rcases event with ⟨i, id⟩ | i | ⟨i, lag | tick⟩ | i | i | i | i <;> by_cases hi : side = i <;>
    simp [Joined.act, JoinedEvent.gives, hi, Function.update, issued_deliver, Ne.symm, End.command,
      End.input, End.poll]

theorem given_act (s : Traffic) (event : JoinedEvent) (side : Side) (kind : OracleProtoMessageId) :
    (s.act recoverAddressFromMsg event).given side kind =
      s.given side kind + event.gives side kind := by
  cases kind with
  | attestations => exact length_issued_act s.ends event side
  | tickData =>
    rw [given, given, act, List.length_append]
    rcases event with _ | _ | ⟨_, _ | _⟩ | _ | _ | _ | _ <;>
      simp [JoinedEvent.hands, JoinedEvent.gives, apply_ite]
  | ping =>
    have hopener : (s.act recoverAddressFromMsg event).given side .ping = s.given side .ping := rfl
    rw [hopener]
    rcases event with _ | _ | ⟨_, _ | _⟩ | _ | _ | _ | _ <;> simp [JoinedEvent.gives]
  | pong =>
    rcases event with _ | _ | ⟨_, _ | _⟩ | _ | _ | _ | _ <;> simp [given, JoinedEvent.gives]

theorem accounted {s : Traffic} (hs : (traffic recoverAddressFromMsg).Reachable s) :
    s.Accounted := by
  refine hs.invariant (I := Accounted) ?_ ?_
  · rintro s ⟨hends, hhanded, hsent⟩ side kind
    rw [hends, hsent, hsent, due_start, causes_nil, count_nil]
    cases kind <;> simp [given]
  · rintro s event _ _ h _ ⟨-, rfl⟩ side kind
    have hside := h side kind
    have hact := s.ends.due_act recoverAddressFromMsg event side kind
    rw [given_act]
    simp only [act, count_append, causes_append]
    omega

theorem encodes {s : Traffic} (hs : (traffic recoverAddressFromMsg).Reachable s) : s.Encodes := by
  refine hs.invariant (I := Encodes) ?_ ?_
  · rintro s ⟨-, -, hsent⟩ side msg hmsg
    rw [hsent] at hmsg
    cases hmsg
  · rintro s event _ _ h _ ⟨-, rfl⟩ side msg hmsg
    rcases List.mem_append.1 hmsg with hmsg | hmsg
    · exact h side msg hmsg
    · rcases event with _ | _ | _ | _ | _ | _ | i <;> try cases hmsg
      simp only [Joined.sends, End.messages_sends] at hmsg
      split_ifs at hmsg
      · exact (OracleConnection.sends_pollNext _ msg hmsg).encodes
      · cases hmsg

theorem length_eq_sum_count {messages : List Bytes}
    (h : ∀ msg ∈ messages, ∃ m : OracleProtoMessage, msg = m.encoded) :
    messages.length = count .ping messages + count .pong messages + count .tickData messages +
      count .attestations messages := by
  induction messages with
  | nil => rfl
  | cons msg messages ih =>
    obtain ⟨⟨m, rfl⟩, hrest⟩ := List.forall_mem_cons.1 h
    have hone := sum_count_encoded m
    have hlength := ih hrest
    have hcons (kind : OracleProtoMessageId) := count_append kind [m.encoded] messages
    simp only [List.singleton_append] at hcons
    rw [hcons, hcons, hcons, hcons, List.length_cons]
    omega

/-- In every run, what two connections send each other is bounded by what their oracles
    ask and hand them. -/
theorem traffic_bounded {s : Traffic} (hs : (traffic recoverAddressFromMsg).Reachable s) :
    s.Bounded := by
  have hkinds (side : Side) (kind : OracleProtoMessageId) :
      count kind (s.sent side) ≤ s.given side kind + causes kind (s.sent side.other) :=
    (Nat.le_add_right _ _).trans (accounted hs side kind)
  refine ⟨hkinds, ?_⟩
  rw [length_eq_sum_count (encodes hs .left), length_eq_sum_count (encodes hs .right)]
  have hpings : s.given .left .ping + s.given .right .ping = 1 := by
    rw [given, given]
    rcases s.opener <;> rfl
  have hsum (side : Side) :
      count .ping (s.sent side) ≤ s.given side .ping ∧
      count .pong (s.sent side) ≤ count .ping (s.sent side.other) ∧
      count .tickData (s.sent side) ≤ (s.handed side).length ∧
      count .attestations (s.sent side) ≤
        (s.ends side).issued.length + count .tickData (s.sent side.other) :=
    ⟨hkinds side .ping, by simpa [given, causes, OracleProtoMessageId.cause] using hkinds side .pong,
      hkinds side .tickData, hkinds side .attestations⟩
  obtain ⟨hping₁, hpong₁, htick₁, hatt₁⟩ := hsum .left
  obtain ⟨hping₂, hpong₂, htick₂, hatt₂⟩ := hsum .right
  simp only [Side.other] at hpong₁ hatt₁ hpong₂ hatt₂
  omega

/-! ### A run -/

/-- The left side has opened the connection, and nothing was sent. -/
def start : Traffic := ⟨fun side => .start (side = .left), .left, fun _ => [], fun _ => []⟩

/-- The traffic of a command and a ticker. -/
def commandAndTick : Traffic :=
  (Oracle.commandAndTick tickerHash).foldl (act tickerRecover) start

theorem reachable_commandAndTick : (traffic tickerRecover).Reachable commandAndTick := by
  refine System.ReachableBy.run
    (fun s event => decide (Joined.Enabled tickerRecover s.ends event)) ?_
    (.init ⟨rfl, fun _ => rfl, fun _ => rfl⟩) (by decide +kernel)
  intro s event h
  exact ⟨trivial, of_decide_eq_true h, rfl⟩

theorem bounded_commandAndTick : commandAndTick.Bounded := traffic_bounded reachable_commandAndTick

end Traffic

end ExEx.Oracle
