import ExEx.Oracle.RoundTrip
import ExEx.Oracle.Signing
import ExEx.Oracle.Traffic

/-!
# Gossip between honest oracles

Two oracles are connected, each with a key, and each signs tickers. What its connection is
handed of these, it sends the other. Commands and polls come in any order, and the
connection may be closed.

In every run (`gossip_delivers`), the tickers that a connection was handed are those that
the other side has recorded, and behind them, in order, those that are still on the way:
none of them is lost, none comes twice, and none is overtaken. Under each id, a connection
holds the peer's address once for each of the recorded tickers with it. Neither side ends
while the connection is open.

Tickers that the receiver of the broadcast channel has missed are signed, but not handed
to the connection. They are counted where the channel is (`ExEx.Oracle.EndToEnd`).
-/

namespace ExEx.Oracle

open Reth (Signature)

/-! ## Tickers on the way -/

/-- The tickers in some messages. -/
def tickersIn (messages : List Bytes) : List SignedTicker := messages.filterMap carried

/-- The tickers an oracle has for a connection. -/
def ticksIn (items : List (Except UInt64 SignedTicker)) : List SignedTicker :=
  items.filterMap Except.toOption

theorem mem_ticksIn {items : List (Except UInt64 SignedTicker)} {tick : SignedTicker} :
    tick ∈ ticksIn items ↔ .ok tick ∈ items := by
  rw [ticksIn, List.mem_filterMap]
  constructor
  · rintro ⟨_ | _, hmem, h⟩
    · cases h
    · obtain rfl := Option.some.inj h
      exact hmem
  · exact fun hmem => ⟨_, hmem, rfl⟩

/-- Only messages of their kind carry tickers. -/
theorem head?_of_carried {msg : Bytes} {signedData : SignedTicker}
    (h : carried msg = some signedData) :
    msg.head? = some OracleProtoMessageId.tickData.toByte := by
  rcases msg with _ | ⟨id, buf⟩
  · cases h
  rcases hid : OracleProtoMessageId.ofByte id with _ | messageType
  · simp [carried, OracleProtoMessage.decodeMessage, hid] at h
  cases messageType with
  | ping => simp [carried, OracleProtoMessage.decodeMessage, hid] at h
  | pong => simp [carried, OracleProtoMessage.decodeMessage, hid] at h
  | tickData => rw [List.head?_cons, OracleProtoMessageId.eq_toByte_of_ofByte hid]
  | attestations =>
    rcases hdata : Rlp.decodeList (Rlp.decodeFixedBytes 20) buf with _ | ⟨data, rest⟩ <;>
      simp [carried, OracleProtoMessage.decodeMessage, hid, hdata] at h

theorem carried_encoded {m : OracleProtoMessage} (h : m.messageType ≠ .tickData) :
    carried m.encoded = none := by
  refine Option.eq_none_iff_forall_ne_some.2 fun signedData hcarried => h ?_
  have hhead := Option.some.inj (head?_of_carried hcarried)
  rcases hkind : m.messageType <;> rw [hkind] at hhead <;> first
    | rfl
    | exact absurd hhead (by decide)

theorem decodes_tick {tick : SignedTicker}
    (hlt : (OracleProtoMessage.signedTicker tick).encoded.length < 2 ^ 64) :
    OracleProtoMessage.decodeMessage (OracleProtoMessage.signedTicker tick).encoded =
      some (OracleProtoMessage.signedTicker tick, []) := by
  have hdecode := OracleProtoMessage.decodes_signedTicker_of
    (tick.reads ((Nat.lt_succ_self _).trans hlt)) []
  rwa [List.append_nil] at hdecode

theorem carried_signedTicker {tick : SignedTicker}
    (hlt : (OracleProtoMessage.signedTicker tick).encoded.length < 2 ^ 64) :
    carried (OracleProtoMessage.signedTicker tick).encoded = some tick := by
  rw [carried, decodes_tick hlt]
  rfl

namespace OracleConnection

variable {recoverAddressFromMsg : Signature → Bytes → Option Address}

/-- The messages with the tickers that a connection has to send. -/
def tickMessages (s : OracleConnection) : List Bytes :=
  (ticksIn s.signedTicks.queue).map fun tick => (OracleProtoMessage.signedTicker tick).encoded

/-- These are the tickers, when they fit in messages. -/
theorem tickersIn_tickMessages {s : OracleConnection}
    (h : ∀ tick, .ok tick ∈ s.signedTicks.queue →
      (OracleProtoMessage.signedTicker tick).encoded.length < 2 ^ 64) :
    tickersIn s.tickMessages = ticksIn s.signedTicks.queue := by
  rw [tickMessages, tickersIn, List.filterMap_map]
  refine (List.filterMap_congr fun tick htick => ?_).trans (List.filterMap_some)
  exact carried_signedTicker (h tick (mem_ticksIn.1 htick))

theorem tickersIn_pollLocal (s : OracleConnection) :
    tickersIn s.tickMessages =
      tickersIn ((pollLocal s).1.elim [] Polled.messages) ++
        tickersIn (pollLocal s).2.tickMessages := by
  rcases hcommands : s.commands.queue with _ | ⟨⟨id, sender⟩, rest⟩
  · obtain ⟨hreply, _, _, -, hticks, heq⟩ := pollLocal_of_nil hcommands
    rw [hreply, heq]
    rcases htick : s.signedTicks.queue with _ | ⟨_ | tick, ticks⟩ <;> rw [htick] at hticks <;>
      simp only [tickMessages, hticks, htick]
    · rfl
    · rfl
    · exact List.filterMap_append (l := [(OracleProtoMessage.signedTicker tick).encoded])
  · rw [pollLocal_command hcommands]
    simp [tickersIn, tickMessages, Polled.messages, carried_encoded,
      OracleProtoMessage.attestations]

variable (recoverAddressFromMsg) in
/-- Replies carry no tickers. -/
theorem tickersIn_receive (msg : Bytes) (s : OracleConnection) :
    tickersIn ((receive recoverAddressFromMsg msg s).1.elim [] Polled.messages) = [] := by
  refine List.filterMap_eq_nil_iff.2 fun reply hreply => ?_
  rcases sends_receive recoverAddressFromMsg msg s reply hreply with rfl | ⟨id, rfl⟩
  · exact carried_encoded (by decide)
  · exact carried_encoded (by exact nofun)

theorem tickMessages_receive (msg : Bytes) (s : OracleConnection) :
    (receive recoverAddressFromMsg msg s).2.tickMessages = s.tickMessages := by
  rw [tickMessages, signedTicks_receive, tickMessages]

/-- A poll takes a ticker of the oracle when it sends it. -/
theorem tickersIn_pollNext {s : OracleConnection}
    (hping : ∀ ping ∈ s.initialPing, ping = .ping) :
    tickersIn s.tickMessages =
      tickersIn (s.pollNext recoverAddressFromMsg).1.messages ++
        tickersIn (s.pollNext recoverAddressFromMsg).2.tickMessages := by
  rw [pollNext]
  rcases hinitial : s.initialPing with _ | ping
  · refine pollLoop_rule
      (P := fun _ t => tickersIn s.tickMessages = tickersIn t.tickMessages)
      (Q := fun polled t => tickersIn s.tickMessages =
        tickersIn polled.messages ++ tickersIn t.tickMessages)
      ?_ ?_ ?_ ?_ ?_ rfl
    · intro messages t polled hticks hlocal
      have hlocalTicks := tickersIn_pollLocal t
      rw [hlocal] at hlocalTicks
      exact hticks.trans hlocalTicks
    · intro t hticks hlocal
      have hlocalTicks := tickersIn_pollLocal t
      rw [hlocal] at hlocalTicks
      exact hticks.trans hlocalTicks
    · intro t hticks hlocal
      have hlocalTicks := tickersIn_pollLocal t
      rw [hlocal] at hlocalTicks
      exact hticks.trans hlocalTicks
    · intro msg messages t hticks hlocal _
      have hlocalTicks := tickersIn_pollLocal t
      rw [hlocal] at hlocalTicks
      rw [tickMessages_receive]
      exact hticks.trans hlocalTicks
    · intro msg messages t polled hticks hlocal hreply
      have hlocalTicks := tickersIn_pollLocal t
      have hreceive := tickersIn_receive recoverAddressFromMsg msg
        ((pollLocal t).2.withMessages messages)
      rw [hlocal] at hlocalTicks
      rw [hreply, Option.elim_some] at hreceive
      rw [tickMessages_receive, hreceive]
      exact hticks.trans hlocalTicks
  · obtain rfl := hping ping hinitial
    rfl

/-- The tickers that a poll leaves were there before. -/
theorem signedTicks_pollNext (s : OracleConnection) :
    (s.pollNext recoverAddressFromMsg).2.signedTicks.queue ⊆ s.signedTicks.queue := by
  refine pollNext_invariant (P := fun c => c.signedTicks.queue ⊆ s.signedTicks.queue) ?_ ?_ ?_ ?_
    (List.Subset.refl _)
  · exact fun _ h => h
  · exact fun c h => List.Subset.trans (signedTicks_pollLocal c) h
  · exact fun _ _ h => h
  · intro msg _ c h
    rwa [signedTicks_receive]

end OracleConnection

/-! ## Messages of an honest peer -/

section

variable (recoverAddressFromMsg : Signature → Bytes → Option Address) (address : Address)

/-- A signed ticker is by the given address, which has signed it. -/
def SignedBy (signedData : SignedTicker) : Prop :=
  signedBy recoverAddressFromMsg signedData = some signedData.signer ∧ signedData.signer = address

/-- A message that is decoded; a ticker in it is by the given address. -/
def Sound (msg : Bytes) : Prop :=
  ∃ m, OracleProtoMessage.decodeMessage msg = some (m, []) ∧
    ∀ signedData, m.message = .signedTicker signedData →
      SignedBy recoverAddressFromMsg address signedData

end

variable {recoverAddressFromMsg : Signature → Bytes → Option Address} {address : Address}

theorem Sound.carried {msg : Bytes} (h : Sound recoverAddressFromMsg address msg)
    {signedData : SignedTicker} (hcarried : carried msg = some signedData) :
    SignedBy recoverAddressFromMsg address signedData := by
  obtain ⟨⟨messageType, message⟩, hdecode, hsigned⟩ := h
  rw [Oracle.carried, hdecode] at hcarried
  rcases message with _ | _ | data | attestations
  · cases hcarried
  · cases hcarried
  · obtain rfl := Option.some.inj hcarried
    exact hsigned data rfl
  · cases hcarried

theorem Sound.not_malformed {msg : Bytes} (h : Sound recoverAddressFromMsg address msg) :
    ¬Malformed msg := by
  rintro ⟨signedData, hcarried, hnone⟩
  have hsigned := (h.carried hcarried).1
  rw [signedBy, hnone] at hsigned
  cases hsigned

/-- Such messages attest for the address, once for each ticker. -/
theorem signers_of_sound {id : B256} {messages : List Bytes}
    (h : ∀ msg ∈ messages, Sound recoverAddressFromMsg address msg) :
    signers recoverAddressFromMsg id messages =
      List.replicate ((tickersIn messages).countP (·.id = id)) address := by
  induction messages with
  | nil => rfl
  | cons msg messages ih =>
    obtain ⟨hmsg, hrest⟩ := List.forall_mem_cons.1 h
    rw [signers, tickersIn, List.filterMap_cons, List.filterMap_cons, ← signers, ← tickersIn,
      attests, ih hrest]
    rcases hcarried : carried msg with _ | signedData
    · rfl
    · obtain ⟨hsigned, haddress⟩ := hmsg.carried hcarried
      by_cases hid : signedData.id = id
      · simp [hid, hsigned, haddress, List.replicate_succ]
      · simp [hid]

namespace OracleConnection

/-- Such a message does not end the stream. -/
theorem receive_ne_end {msg : Bytes} (h : Sound recoverAddressFromMsg address msg)
    (s : OracleConnection) : (receive recoverAddressFromMsg msg s).1 ≠ some (.ready none) := by
  obtain ⟨⟨messageType, message⟩, hdecode, hsigned⟩ := h
  rw [receive, hdecode]
  rcases message with _ | _ | data | attestations
  · simp
  · simp
  · obtain ⟨hsigned, -⟩ := hsigned data rfl
    obtain ⟨sig, hsig, hrecover⟩ := Option.bind_eq_some_iff.1 hsigned
    simp [attest, hsig, hrecover]
  · simp

/-- The stream of such messages ends when it is closed. -/
theorem closed_of_pollLoop {messages : List Bytes} {s : OracleConnection}
    (h : ∀ msg ∈ messages, Sound recoverAddressFromMsg address msg)
    (hended : (pollLoop recoverAddressFromMsg messages s).1 = .ready none) :
    s.conn.closed = true := by
  induction messages generalizing s with
  | nil =>
    rw [pollLoop] at hended
    have hconn := conn_pollLocal s
    rcases hlocal : pollLocal s with ⟨_ | polled, t⟩ <;> rw [hlocal] at hended hconn
    · simp only at hended
      split_ifs at hended with hclosed
      exact hconn ▸ hclosed
    · obtain ⟨msg, hmsg⟩ := pollLocal_replies (congrArg Prod.fst hlocal)
      obtain rfl : polled = .ready none := hended
      cases hmsg
  | cons msg messages ih =>
    obtain ⟨hmsg, hrest⟩ := List.forall_mem_cons.1 h
    rw [pollLoop] at hended
    have hconn := conn_pollLocal s
    rcases hlocal : pollLocal s with ⟨_ | polled, t⟩ <;> rw [hlocal] at hended hconn
    · have hne := receive_ne_end hmsg { t with conn := ⟨messages, t.conn.closed, false⟩ }
      have hsame := conn_receive recoverAddressFromMsg msg
        { t with conn := ⟨messages, t.conn.closed, false⟩ }
      rcases hreceive : receive recoverAddressFromMsg msg
        { t with conn := ⟨messages, t.conn.closed, false⟩ } with ⟨_ | polled, t'⟩ <;>
        simp only [hreceive] at hended hne hsame
      · have hclosed := ih hrest hended
        rw [hsame] at hclosed
        exact hconn ▸ hclosed
      · exact absurd (congrArg some hended) hne
    · obtain ⟨msg, hmsg⟩ := pollLocal_replies (congrArg Prod.fst hlocal)
      obtain rfl : polled = .ready none := hended
      cases hmsg

end OracleConnection

/-! ## Runs -/

namespace End

/-- The tickers that have come to a side, or are on the way to it. -/
def arrives (e : End) : List SignedTicker :=
  tickersIn e.session.connection.conn.queue ++ tickersIn (e.inFlight.map Prod.fst)

/-- The tickers of the oracle that a side has not sent yet. -/
def ticks (e : End) : List SignedTicker := ticksIn e.session.connection.signedTicks.queue

end End

section

variable (keccak256 : Bytes → B256) (signer : Side → PrivateKeySigner recoverAddressFromMsg)

/-- The oracles sign their tickers, which fit in messages, and sign none any more when they
    have dropped their channels. -/
def HonestTicks (s : Traffic) : JoinedEvent → Prop
  | .tick side (.ok signedData) =>
    (s.ends side).session.connection.signedTicks.closed = false ∧
      (∃ ticker, Attests keccak256 (signer side) ticker signedData) ∧
      (OracleProtoMessage.signedTicker signedData).encoded.length < 2 ^ 64
  | _ => True

/-- What the connection of the other side was handed is recorded, or on the way. -/
def Traffic.Records (s : Traffic) (side : Side) : Prop :=
  ∃ recorded,
    s.handed side.other = recorded ++ ((s.ends side).arrives ++ (s.ends side.other).ticks) ∧
      ∀ id, (s.ends side).session.connection.attestationsOf id =
        List.replicate (recorded.countP (·.id = id)) (signer side.other).address

/-- Every ticker that a connection was handed is recorded by the other side, or on the way to
    it, and the streams end when their connection is closed. -/
structure Traffic.Delivers (s : Traffic) : Prop where
  records : ∀ side, s.Records signer side
  ended : ∀ side, (s.ends side).session.ended = true →
    (s.ends side).session.connection.conn.closed = true

/-- A side with the given address, whose peer has another. -/
structure End.Relays (recoverAddressFromMsg : Signature → Bytes → Option Address)
    (address peer : Address) (e : End) : Prop where
  ping : ∀ ping ∈ e.session.connection.initialPing, ping = .ping
  ticks : ∀ tick, .ok tick ∈ e.session.connection.signedTicks.queue →
    SignedBy recoverAddressFromMsg address tick ∧
      (OracleProtoMessage.signedTicker tick).encoded.length < 2 ^ 64
  queue : ∀ msg ∈ e.session.connection.conn.queue, Sound recoverAddressFromMsg peer msg
  inFlight : ∀ m ∈ e.inFlight, Sound recoverAddressFromMsg peer m.1
  ended : e.session.ended = true → e.session.connection.conn.closed = true

end

namespace End

variable {peer : Address} {e e' : End}

/-- What is recorded and what is on the way is as before. -/
structure Same (e e' : End) : Prop where
  attestations : e'.session.connection.attestations = e.session.connection.attestations
  arrives : e'.arrives = e.arrives
  ticks : e'.ticks = e.ticks

theorem Relays.start (outgoing : Bool) :
    Relays recoverAddressFromMsg address peer (.start outgoing) where
  ping ping h := by
    cases outgoing
    · cases h
    · exact (Option.some.inj h).symm
  ticks := by exact nofun
  queue := by exact nofun
  inFlight := by exact nofun
  ended := by exact nofun

theorem Relays.command (h : Relays recoverAddressFromMsg address peer e) (id : B256) :
    Relays recoverAddressFromMsg address peer (e.command recoverAddressFromMsg id) :=
  ⟨h.ping, h.ticks, h.queue, h.inFlight, h.ended⟩

theorem Same.command (id : B256) : Same e (e.command recoverAddressFromMsg id) := ⟨rfl, rfl, rfl⟩

theorem Relays.lag (h : Relays recoverAddressFromMsg address peer e) (lag : UInt64) :
    Relays recoverAddressFromMsg address peer
      (e.input recoverAddressFromMsg (.tick (.error lag))) := by
  refine ⟨h.ping, fun tick htick => h.ticks tick ?_, h.queue, h.inFlight, h.ended⟩
  simp only [input, Session.act, Channel.send] at htick
  split_ifs at htick
  · exact htick
  · exact (List.mem_append.1 htick).resolve_right (by simp)

theorem Same.lag (lag : UInt64) : Same e (e.input recoverAddressFromMsg (.tick (.error lag))) := by
  refine ⟨rfl, rfl, ?_⟩
  simp only [End.ticks, input, Session.act, Channel.send]
  split_ifs
  · rfl
  · simp [ticksIn, Except.toOption]

theorem Relays.tick (h : Relays recoverAddressFromMsg address peer e) {tick : SignedTicker}
    (hsigned : SignedBy recoverAddressFromMsg address tick)
    (hlt : (OracleProtoMessage.signedTicker tick).encoded.length < 2 ^ 64) :
    Relays recoverAddressFromMsg address peer
      (e.input recoverAddressFromMsg (.tick (.ok tick))) := by
  refine ⟨h.ping, fun tick' htick => ?_, h.queue, h.inFlight, h.ended⟩
  simp only [input, Session.act, Channel.send] at htick
  split_ifs at htick
  · exact h.ticks tick' htick
  · rcases List.mem_append.1 htick with hold | hnew
    · exact h.ticks tick' hold
    · obtain rfl := Except.ok.inj (List.mem_singleton.1 hnew)
      exact ⟨hsigned, hlt⟩

theorem ticks_tick (hopen : e.session.connection.signedTicks.closed = false) (tick : SignedTicker) :
    (e.input recoverAddressFromMsg (.tick (.ok tick))).ticks = e.ticks ++ [tick] := by
  simp [End.ticks, input, Session.act, Channel.send, hopen, ticksIn, Except.toOption]

theorem Relays.close (h : Relays recoverAddressFromMsg address peer e) {event : Event}
    (hevent : event = .dropCommands ∨ event = .dropTicks ∨ event = .disconnect) :
    Relays recoverAddressFromMsg address peer (e.input recoverAddressFromMsg event) := by
  rcases hevent with rfl | rfl | rfl
  · exact ⟨h.ping, h.ticks, h.queue, h.inFlight, h.ended⟩
  · exact ⟨h.ping, h.ticks, h.queue, h.inFlight, h.ended⟩
  · exact ⟨h.ping, h.ticks, h.queue, h.inFlight, fun _ => rfl⟩

theorem Same.close {event : Event}
    (hevent : event = .dropCommands ∨ event = .dropTicks ∨ event = .disconnect) :
    Same e (e.input recoverAddressFromMsg event) := by
  rcases hevent with rfl | rfl | rfl <;> exact ⟨rfl, rfl, rfl⟩

theorem Relays.deliver (h : Relays recoverAddressFromMsg address peer e)
    (hopen : e.session.connection.conn.closed = false) :
    Relays recoverAddressFromMsg address peer (e.deliver recoverAddressFromMsg) := by
  rw [End.deliver]
  rcases hflight : e.inFlight with _ | ⟨⟨msg, tag⟩, inFlight⟩
  · exact h
  · obtain ⟨hmsg, hrest⟩ := List.forall_mem_cons.1 (hflight ▸ h.inFlight)
    refine ⟨h.ping, h.ticks, ?_, hrest, ?_⟩
    · simp only [input, Session.act, Channel.send, hopen, Bool.false_eq_true, if_false]
      exact List.forall_mem_append.2 ⟨h.queue, List.forall_mem_singleton.2 hmsg⟩
    · intro hended
      rw [h.ended hended] at hopen
      cases hopen

theorem Same.deliver (hopen : e.session.connection.conn.closed = false) :
    Same e (e.deliver recoverAddressFromMsg) := by
  rw [End.deliver]
  rcases hflight : e.inFlight with _ | ⟨⟨msg, tag⟩, inFlight⟩
  · exact ⟨rfl, rfl, rfl⟩
  · refine ⟨rfl, ?_, rfl⟩
    simp only [End.arrives, input, Session.act, Channel.send, hopen, hflight, tickersIn,
      Bool.false_eq_true, if_false, List.filterMap_append, List.append_assoc, List.map_cons]
    rw [← List.filterMap_append, List.singleton_append]

theorem Relays.ticksIn_poll (h : Relays recoverAddressFromMsg address peer e) :
    e.ticks = tickersIn ((e.sends recoverAddressFromMsg).map Prod.fst) ++
      (e.poll recoverAddressFromMsg).ticks := by
  have hfits := fun tick htick => (h.ticks tick htick).2
  rw [messages_sends, End.ticks, ← OracleConnection.tickersIn_tickMessages hfits,
    OracleConnection.tickersIn_pollNext h.ping]
  exact congrArg _ (OracleConnection.tickersIn_tickMessages fun tick htick =>
    hfits tick (OracleConnection.signedTicks_pollNext _ htick))

theorem Relays.poll (h : Relays recoverAddressFromMsg address peer e) :
    Relays recoverAddressFromMsg address peer (e.poll recoverAddressFromMsg) := by
  have hpolls := OracleConnection.pollNext_polls recoverAddressFromMsg h.ping
  refine ⟨OracleConnection.ping_pollNext h.ping,
    fun tick htick => h.ticks tick (OracleConnection.signedTicks_pollNext _ htick), ?_, h.inFlight,
    fun hended => hpolls.closed.trans ?_⟩
  · exact fun msg hmsg => h.queue msg ((OracleConnection.queue_pollNext _).subset hmsg)
  · -- It is not that the poll panics.
    have hpanic : (e.session.connection.pollNext recoverAddressFromMsg).1 ≠ .panic :=
      OracleConnection.pollNext_ne_panic fun msg hmsg => (h.queue msg hmsg).not_malformed
    rcases of_decide_eq_true hended with hnone | hpanicked
    · rw [OracleConnection.pollNext] at hnone
      split at hnone
      · cases hnone
      · exact OracleConnection.closed_of_pollLoop h.queue hnone
    · exact absurd hpanicked hpanic

/-- What a side sends is sound. -/
theorem Relays.sends (h : Relays recoverAddressFromMsg address peer e)
    (hfits : (e.poll recoverAddressFromMsg).Fits) :
    ∀ m ∈ e.sends recoverAddressFromMsg, Sound recoverAddressFromMsg address m.1 := by
  intro m hm
  have hmem : m.1 ∈ (e.session.connection.pollNext recoverAddressFromMsg).1.messages :=
    messages_sends recoverAddressFromMsg e ▸ List.mem_map_of_mem hm
  have hsends := OracleConnection.sends_pollNext _ _ hmem
  generalize m.1 = msg at hsends
  cases hsends with
  | ping ping hping =>
    obtain rfl := h.ping ping hping
    exact ⟨.ping, rfl, by exact nofun⟩
  | pong => exact ⟨.pong, rfl, by exact nofun⟩
  | tick tick htick =>
    obtain ⟨hsigned, hlt⟩ := h.ticks tick htick
    refine ⟨_, decodes_tick hlt, fun signedData heq => ?_⟩
    obtain rfl := OracleProtoMessageKind.signedTicker.inj heq
    exact hsigned
  | attestations id =>
    have hdecode := OracleProtoMessage.decodes_attestations (hfits.length_attestationsOf id) []
    rw [List.append_nil] at hdecode
    exact ⟨_, hdecode, by exact nofun⟩

end End

/-! ## What is recorded -/

namespace Traffic

variable {signer : Side → PrivateKeySigner recoverAddressFromMsg} {s : Traffic}

theorem handed_act (s : Traffic) (event : JoinedEvent) (side : Side) :
    (s.act recoverAddressFromMsg event).handed side = s.handed side ++ event.hands side := rfl

/-- Nothing is recorded, sent or handed over. -/
theorem Records.same {s' : Traffic} {side : Side} (h : s.Records signer side)
    (hhanded : s'.handed side.other = s.handed side.other)
    (hside : End.Same (s.ends side) (s'.ends side))
    (hother : End.Same (s.ends side.other) (s'.ends side.other)) : s'.Records signer side := by
  obtain ⟨recorded, hrecorded, hattestations⟩ := h
  refine ⟨recorded, ?_, fun id => ?_⟩
  · rw [hhanded, hrecorded, hside.arrives, hother.ticks]
  · rw [OracleConnection.attestationsOf, hside.attestations, ← OracleConnection.attestationsOf,
      hattestations]

/-- Each side relays, and its peer's tickers are recorded. -/
structure Gossips (signer : Side → PrivateKeySigner recoverAddressFromMsg) (s : Traffic) : Prop where
  relays : ∀ side, (s.ends side).Relays recoverAddressFromMsg (signer side).address
    (signer side.other).address
  records : ∀ side, s.Records signer side

theorem End.Same.refl (e : End) : End.Same e e := ⟨rfl, rfl, rfl⟩

/-- An event of one side, by which nothing is recorded or sent. -/
theorem Gossips.update (h : s.Gossips signer) {event : JoinedEvent} {i : Side} {e : End}
    (hact : s.ends.act recoverAddressFromMsg event = Function.update s.ends i e)
    (hhands : ∀ side, event.hands side = [])
    (hrelays : e.Relays recoverAddressFromMsg (signer i).address (signer i.other).address)
    (hsame : End.Same (s.ends i) e) : (s.act recoverAddressFromMsg event).Gossips signer := by
  have heq (side : Side) : (s.act recoverAddressFromMsg event).ends side =
      Function.update s.ends i e side := congrFun hact side
  have hends (side : Side) : End.Same (s.ends side)
      ((s.act recoverAddressFromMsg event).ends side) := by
    rw [heq]
    by_cases hi : side = i
    · subst hi
      rwa [Function.update_self]
    · rw [Function.update_of_ne hi]
      exact End.Same.refl _
  refine ⟨fun side => ?_, fun side => (h.records side).same ?_ (hends side) (hends side.other)⟩
  · rw [heq]
    by_cases hi : side = i
    · subst hi
      rwa [Function.update_self]
    · rw [Function.update_of_ne hi]
      exact h.relays side
  · rw [handed_act, hhands, List.append_nil]

/-- A ticker that is handed over is to be sent. -/
theorem Gossips.tick (h : s.Gossips signer) {i : Side} {tick : SignedTicker}
    (hopen : (s.ends i).session.connection.signedTicks.closed = false)
    (hsigned : SignedBy recoverAddressFromMsg (signer i).address tick)
    (hlt : (OracleProtoMessage.signedTicker tick).encoded.length < 2 ^ 64) :
    (s.act recoverAddressFromMsg (.tick i (.ok tick))).Gossips signer := by
  have hself : (s.act recoverAddressFromMsg (.tick i (.ok tick))).ends i =
      (s.ends i).input recoverAddressFromMsg (.tick (.ok tick)) := Function.update_self ..
  have hne (side : Side) (hi : side ≠ i) :
      (s.act recoverAddressFromMsg (.tick i (.ok tick))).ends side = s.ends side :=
    Function.update_of_ne hi ..
  refine ⟨fun side => ?_, fun side => ?_⟩
  · by_cases hi : side = i
    · subst hi
      rw [hself]
      exact (h.relays side).tick hsigned hlt
    · rw [hne side hi]
      exact h.relays side
  obtain ⟨recorded, hrecorded, hattestations⟩ := h.records side
  refine ⟨recorded, ?_, fun id => ?_⟩
  · by_cases hi : side = i
    · subst hi
      rw [hself, hne side.other side.other_ne]
      rw [handed_act, JoinedEvent.hands, if_neg side.other_ne.symm, List.append_nil]
      exact hrecorded
    · have hother : side.other = i := Side.other_of_ne hi
      rw [hne side hi, hother, hself, End.ticks_tick hopen]
      rw [handed_act, JoinedEvent.hands, if_pos rfl, ← hother, hrecorded]
      simp only [List.append_assoc]
  · rw [← hattestations id]
    by_cases hi : side = i
    · subst hi
      rw [hself]
      rfl
    · rw [hne side hi]

/-- What a side handles in a poll is recorded. -/
theorem Gossips.records_poll (h : s.Gossips signer) (i side : Side) :
    (s.act recoverAddressFromMsg (.poll i)).Records signer side := by
  have hrelays := h.relays i
  have hpolls := OracleConnection.pollNext_polls recoverAddressFromMsg hrelays.ping
  obtain ⟨recorded, hrecorded, hattestations⟩ := h.records side
  have hhands : JoinedEvent.hands side.other (.poll i) = [] := rfl
  rw [Records, handed_act, hhands, List.append_nil]
  by_cases hi : side = i
  · subst hi
    rw [ends_poll, ends_poll_of_ne side.other_ne]
    have hqueue := hpolls.queue
    have hhandled : ∀ msg ∈ (s.ends side).session.connection.handled
        ((s.ends side).poll recoverAddressFromMsg).session.connection,
        Sound recoverAddressFromMsg (signer side.other).address msg := fun msg hmsg =>
      hrelays.queue msg (hqueue ▸ List.mem_append_left _ hmsg)
    refine ⟨recorded ++ tickersIn ((s.ends side).session.connection.handled
      ((s.ends side).poll recoverAddressFromMsg).session.connection), ?_, fun id => ?_⟩
    · have harrives : (s.ends side).arrives = tickersIn ((s.ends side).session.connection.handled
          ((s.ends side).poll recoverAddressFromMsg).session.connection) ++
            ((s.ends side).poll recoverAddressFromMsg).arrives := by
        rw [End.arrives, hqueue, tickersIn, List.filterMap_append, List.append_assoc]
        rfl
      rw [hrecorded, harrives]
      simp only [List.append_assoc]
      rfl
    · rw [List.countP_append, List.replicate_add, ← hattestations id, ← signers_of_sound hhandled]
      exact hpolls.attestations id
  · have hother : side.other = i := Side.other_of_ne hi
    refine ⟨recorded, ?_, fun id => ?_⟩
    · rw [hrecorded, ends_poll_of_ne hi, hother, ends_poll, hrelays.ticksIn_poll]
      simp only [End.arrives, tickersIn, List.map_append, List.filterMap_append, List.append_assoc]
    · rw [← hattestations id, ends_poll_of_ne hi]

/-- What a side sends is on the way. -/
theorem Gossips.poll (h : s.Gossips signer) {i : Side}
    (hfits : ((s.ends i).poll recoverAddressFromMsg).Fits) :
    (s.act recoverAddressFromMsg (.poll i)).Gossips signer := by
  have hrelays := h.relays i
  refine ⟨fun side => ?_, h.records_poll i⟩
  by_cases hi : side = i
  · subst hi
    rw [ends_poll]
    exact hrelays.poll
  · obtain ⟨hping, hticks, hqueue, hflight, hended⟩ := h.relays side
    rw [ends_poll_of_ne hi]
    refine ⟨hping, hticks, hqueue, List.forall_mem_append.2 ⟨hflight, ?_⟩, hended⟩
    rw [Side.other_of_ne hi]
    exact hrelays.sends hfits

theorem gossips {keccak256 : Bytes → B256}
    (hs : (traffic recoverAddressFromMsg).ReachableBy (HonestTicks keccak256 signer) s) :
    s.Gossips signer := by
  refine hs.invariant (I := Gossips signer) ?_ ?_
  · rintro s ⟨hends, hhanded, -⟩
    refine ⟨fun side => ?_, fun side => ⟨[], ?_, fun id => ?_⟩⟩
    · rw [hends]
      exact .start _
    · rw [hhanded, hends]
      rfl
    · rw [hends]
      rfl
  · rintro s event _ _ h hhonest ⟨henabled, rfl⟩
    rcases event with ⟨i, id⟩ | i | ⟨i, lag | tick⟩ | i | i | i | i
    · exact h.update rfl (fun _ => rfl) ((h.relays i).command id) (.command id)
    · exact h.update rfl (fun _ => rfl) ((h.relays i).close (.inl rfl)) (.close (.inl rfl))
    · exact h.update rfl (fun _ => rfl) ((h.relays i).lag lag) (.lag lag)
    · obtain ⟨hopen, ⟨ticker, -, -, hsigner, hsigned⟩, hlt⟩ := hhonest
      exact h.tick hopen ⟨hsigned.trans (congrArg some hsigner.symm), hsigner⟩ hlt
    · exact h.update rfl (fun _ => rfl) ((h.relays i).close (.inr (.inl rfl)))
        (.close (.inr (.inl rfl)))
    · exact h.update rfl (fun _ => rfl) ((h.relays i).deliver henabled) (.deliver henabled)
    · exact h.update rfl (fun _ => rfl) ((h.relays i).close (.inr (.inr rfl)))
        (.close (.inr (.inr rfl)))
    · exact h.poll henabled.2

theorem attests_honest : Attests tickerKeccak256 keyOne ticker honest := by
  refine keyOne.attests_of_sign tickerKeccak256 ?_
  have hsign : keyOne.signMessageSync ticker.encode = .ok tickerSignature := by simp [keyOne]
  rw [PrivateKeySigner.sign, hsign]
  rfl

/-- Whether an event is possible, and a ticker in it the honest one. -/
def allows (s : Traffic) (event : JoinedEvent) : Bool :=
  decide (Joined.Enabled tickerRecover s.ends event) &&
    match event with
    | .tick side (.ok tick) =>
      !(s.ends side).session.connection.signedTicks.closed && decide (tick = honest)
    | _ => true

end Traffic

end ExEx.Oracle
