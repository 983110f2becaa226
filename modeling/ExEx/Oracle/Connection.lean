import ExEx.Lib.Assoc
import ExEx.Lib.System
import ExEx.Oracle.Message

/-!
# A connection of the oracle protocol

A connection is a stream of messages to a peer. It is fed by three inputs: what
the peer sends, the commands of the local oracle, and the tickers the oracle
signs. When it is polled, it handles a command if there is one, else a ticker,
else a message of the peer; it goes on with the next message when there is
nothing to reply.

From each signed ticker of the peer whose signature recovers to the signer it
names, the connection records the attestation of the signer under the id of the
ticker.

A poll is a function on connections (`pollNext`). A `Session` is a connection
with what its peer has sent, and the events of a session are those of its inputs
and polls, in any order.
-/

namespace ExEx.Oracle

open Reth (Signature)

/-! ## Channels -/

/-- What a stream answers when it is polled. -/
inductive Poll (α : Type)
  | pending
  | ready (a : α)

/-- A channel, at its receiving end. -/
structure Channel (α : Type) where
  /-- What was sent and not received yet. -/
  queue : List α
  /-- Whether nothing will be sent any more. -/
  closed : Bool
  /-- Whether the receiver is to be woken. -/
  waker : Bool

namespace Channel

variable {α : Type}

/-- A new channel. -/
def empty : Channel α := ⟨[], false, false⟩

/-- Takes the next item. A waker is registered only when there is none yet. -/
def pollNext (c : Channel α) : Poll (Option α) × Channel α :=
  match c.queue with
  | a :: queue => (.ready (some a), ⟨queue, c.closed, false⟩)
  | [] => if c.closed then (.ready none, c) else (.pending, { c with waker := true })

theorem pollNext_of_open {c : Channel α} (h : c.queue = []) (hclosed : c.closed = false) :
    c.pollNext = (.pending, { c with waker := true }) := by
  rw [pollNext]
  simp only [h, hclosed, Bool.false_eq_true, if_false]

theorem pollNext_of_closed {c : Channel α} (h : c.queue = []) (hclosed : c.closed = true) :
    c.pollNext = (.ready none, c) := by
  rw [pollNext]
  simp only [h, hclosed, if_true]

theorem pollNext_of_nil {c : Channel α} (h : c.queue = []) :
    c.pollNext.1 = .pending ∨ c.pollNext.1 = .ready none := by
  rcases hclosed : c.closed
  · exact .inl (congrArg Prod.fst (pollNext_of_open h hclosed))
  · exact .inr (congrArg Prod.fst (pollNext_of_closed h hclosed))

theorem pollNext_of_cons {c : Channel α} {a : α} {queue : List α} (h : c.queue = a :: queue) :
    c.pollNext = (.ready (some a), ⟨queue, c.closed, false⟩) := by
  rw [pollNext, h]

theorem queue_pollNext (c : Channel α) : c.pollNext.2.queue = c.queue.tail := by
  rw [pollNext]
  split
  · rename_i h; rw [h]; rfl
  · rename_i h; split_ifs <;> rw [h] <;> rfl

/-- Sends an item, which wakes the receiver. -/
def send (a : α) (c : Channel α) : Channel α :=
  if c.closed then c else ⟨c.queue ++ [a], false, false⟩

/-- Closes the channel, which wakes the receiver. -/
def close (c : Channel α) : Channel α := ⟨c.queue, true, false⟩

end Channel

/-! ## Connections -/

/-- A response channel of a command, by its number. -/
abbrev Sender := ℕ

/-- A command of the local oracle. -/
inductive OracleCommand
  /-- Asks for the attestations of a ticker. -/
  | attestation (id : B256) (sender : Sender)

structure OracleConnection where
  /-- What the peer sent. -/
  conn : Channel Bytes
  commands : Channel OracleCommand
  /-- Tickers, and reports of how many the connection was too slow for. -/
  signedTicks : Channel (Except UInt64 SignedTicker)
  initialPing : Option OracleProtoMessage
  attestations : Assoc B256 (List Address)
  pendingAtt : Option Sender
  /-- What was sent on response channels, in order. -/
  answers : List (Sender × List Address)

/-- A new connection. The one who opens it sends a ping. -/
def intoConnection (outgoing : Bool) : OracleConnection where
  conn := .empty
  commands := .empty
  signedTicks := .empty
  initialPing := if outgoing then some .ping else none
  attestations := .empty
  pendingAtt := none
  answers := []

/-- What a connection answers when it is polled. -/
inductive Polled
  | pending
  /-- A message for the peer, or the end of the stream. -/
  | ready (item : Option Bytes)
  | panic
  deriving DecidableEq

namespace OracleConnection

/-- The attestations recorded under an id. -/
def attestationsOf (s : OracleConnection) (id : B256) : List Address :=
  (s.attestations.lookup id).getD []

/-- Replies to a ticker of the local oracle, if one is next. -/
def pollTicks (s : OracleConnection) : Option Polled × OracleConnection :=
  match s.signedTicks.pollNext with
  | (.ready (some (.ok tick)), signedTicks) =>
    (some (.ready (some (OracleProtoMessage.signedTicker tick).encoded)),
      { s with signedTicks := signedTicks })
  | (_, signedTicks) => (none, { s with signedTicks := signedTicks })

/-- Replies to a command or to a ticker of the local oracle, if one is next. -/
def pollLocal (s : OracleConnection) : Option Polled × OracleConnection :=
  match s.commands.pollNext with
  | (.ready (some (.attestation id sender)), commands) =>
    (some (.ready (some (OracleProtoMessage.attestations (s.attestationsOf id)).encoded)),
      { s with commands := commands, pendingAtt := some sender })
  | (_, commands) => pollTicks { s with commands := commands }

section

variable (recoverAddressFromMsg : Signature → Bytes → Option Address)

/-- Records the attestation of a signed ticker and replies with those there are. -/
def attest (signedData : SignedTicker) (s : OracleConnection) : Polled × OracleConnection :=
  match Signature.tryFrom signedData.signature with
  -- The result of the conversion is unwrapped.
  | none => (.panic, s)
  | some sig =>
    match recoverAddressFromMsg sig signedData.ticker.encode with
    | none => (.ready none, s)
    | some addr =>
      let s :=
        if addr = signedData.signer then
          { s with
            attestations :=
              s.attestations.put signedData.id (s.attestationsOf signedData.id ++ [addr]) }
        else s
      (.ready (some (OracleProtoMessage.attestations (s.attestationsOf signedData.id)).encoded), s)

/-- Sends attestations to who asked for some. -/
def answer (attestations : List Address) (s : OracleConnection) : OracleConnection :=
  match s.pendingAtt with
  | some sender =>
    { s with pendingAtt := none, answers := s.answers ++ [(sender, attestations)] }
  | none => s

/-- Handles a message of the peer, with a reply if there is one. -/
def receive (msg : Bytes) (s : OracleConnection) : Option Polled × OracleConnection :=
  match OracleProtoMessage.decodeMessage msg with
  | none => (some (.ready none), s)
  | some (m, _) =>
    match m.message with
    | .ping => (some (.ready (some OracleProtoMessage.pong.encoded)), s)
    | .pong => (none, s)
    | .attestations attestations => (none, answer attestations s)
    | .signedTicker signedData =>
      let r := attest recoverAddressFromMsg signedData s
      (some r.1, r.2)

/-- The loop of a poll, on the messages of the peer not handled yet. -/
def pollLoop : List Bytes → OracleConnection → Polled × OracleConnection
  | messages, s =>
    match pollLocal s with
    | (some polled, s) => (polled, s)
    | (none, s) =>
      match messages with
      | [] =>
        if s.conn.closed then (.ready none, s)
        else (.pending, { s with conn := { s.conn with waker := true } })
      | msg :: messages =>
        match receive recoverAddressFromMsg msg
            { s with conn := ⟨messages, s.conn.closed, false⟩ } with
        | (some polled, s) => (polled, s)
        | (none, s) => pollLoop messages s

/-- Polls a connection. -/
def pollNext (s : OracleConnection) : Polled × OracleConnection :=
  match s.initialPing with
  | some ping => (.ready (some ping.encoded), { s with initialPing := none })
  | none => pollLoop recoverAddressFromMsg s.conn.queue s

end

end OracleConnection

/-! ## Sessions -/

/-- A connection, and what happened around it. -/
structure Session where
  connection : OracleConnection
  /-- Whether the stream has ended, by itself or by a panic. It is not polled
      any more then. -/
  ended : Bool
  /-- What the peer has sent. -/
  received : List Bytes

/-- What happens to a connection. -/
inductive Event
  /-- The peer sends a message. -/
  | message (msg : Bytes)
  | disconnect
  | command (c : OracleCommand)
  | dropCommands
  /-- The oracle signs a ticker, or the connection missed some. -/
  | tick (item : Except UInt64 SignedTicker)
  | dropTicks
  | poll

namespace Session

/-- A new session. -/
def start (outgoing : Bool) : Session := ⟨intoConnection outgoing, false, []⟩

section

variable (recoverAddressFromMsg : Signature → Bytes → Option Address)

/-- Polls the connection. -/
def poll (s : Session) : Session :=
  let r := s.connection.pollNext recoverAddressFromMsg
  { s with connection := r.2, ended := r.1 = .ready none ∨ r.1 = .panic }

/-- The session after an event. -/
def act (s : Session) : Event → Session
  | .message msg =>
    { s with
      connection := { s.connection with conn := s.connection.conn.send msg }
      received := s.received ++ [msg] }
  | .disconnect => { s with connection := { s.connection with conn := s.connection.conn.close } }
  | .command c =>
    { s with connection := { s.connection with commands := s.connection.commands.send c } }
  | .dropCommands =>
    { s with connection := { s.connection with commands := s.connection.commands.close } }
  | .tick item =>
    { s with connection := { s.connection with signedTicks := s.connection.signedTicks.send item } }
  | .dropTicks =>
    { s with connection := { s.connection with signedTicks := s.connection.signedTicks.close } }
  | .poll => s.poll recoverAddressFromMsg

end

end Session

/-- Sessions from their start. A stream that has ended is not polled. -/
def sessions (recoverAddressFromMsg : Signature → Bytes → Option Address) :
    System Session Event where
  init s := ∃ outgoing, s = .start outgoing
  step s e s' := (e = .poll → s.ended = false) ∧ s' = s.act recoverAddressFromMsg e

/-! ## What a poll does -/

namespace OracleConnection

variable {recoverAddressFromMsg : Signature → Bytes → Option Address}

/-- Local inputs change nothing but themselves and the response channel that is kept. -/
theorem pollLocal_frame (s : OracleConnection) :
    ∃ commands signedTicks pendingAtt, (pollLocal s).2 =
      { s with commands := commands, signedTicks := signedTicks, pendingAtt := pendingAtt } := by
  rw [pollLocal]
  split
  · exact ⟨_, _, _, rfl⟩
  · rw [pollTicks]
    split <;> exact ⟨_, _, _, rfl⟩

@[simp] theorem attestations_pollLocal (s : OracleConnection) :
    (pollLocal s).2.attestations = s.attestations := by
  obtain ⟨_, _, _, h⟩ := pollLocal_frame s
  rw [h]

@[simp] theorem conn_pollLocal (s : OracleConnection) : (pollLocal s).2.conn = s.conn := by
  obtain ⟨_, _, _, h⟩ := pollLocal_frame s
  rw [h]

@[simp] theorem initialPing_pollLocal (s : OracleConnection) :
    (pollLocal s).2.initialPing = s.initialPing := by
  obtain ⟨_, _, _, h⟩ := pollLocal_frame s
  rw [h]

/-- A command is replied to, and its response channel is kept. -/
theorem pollLocal_command {s : OracleConnection} {id : B256} {sender : Sender}
    {rest : List OracleCommand} (h : s.commands.queue = .attestation id sender :: rest) :
    pollLocal s =
      (some (.ready (some (OracleProtoMessage.attestations (s.attestationsOf id)).encoded)),
        { s with commands := ⟨rest, s.commands.closed, false⟩, pendingAtt := some sender }) := by
  rw [pollLocal, Channel.pollNext, h]

/-- Without a command, the tickers are next. -/
theorem pollLocal_eq_pollTicks {s : OracleConnection} (h : s.commands.queue = []) :
    pollLocal s = pollTicks { s with commands := s.commands.pollNext.2 } := by
  rw [pollLocal]
  rcases Channel.pollNext_of_nil h with hnext | hnext <;>
    rcases hpoll : s.commands.pollNext with ⟨polled, commands⟩ <;>
      rw [hpoll] at hnext <;> obtain rfl : polled = _ := hnext <;> rfl

theorem pollTicks_snd (s : OracleConnection) :
    (pollTicks s).2 = { s with signedTicks := s.signedTicks.pollNext.2 } := by
  rw [pollTicks]
  split <;> rename_i hpoll <;> rw [hpoll]

/-- Without a command, a ticker is replied, and a report of missed ones is dropped. -/
theorem pollLocal_of_nil {s : OracleConnection} (h : s.commands.queue = []) :
    ((pollLocal s).1 =
      match s.signedTicks.queue with
      | .ok tick :: _ => some (.ready (some (OracleProtoMessage.signedTicker tick).encoded))
      | _ => none) ∧
    ∃ commands signedTicks, commands.queue = [] ∧
      signedTicks.queue = s.signedTicks.queue.tail ∧
      (pollLocal s).2 = { s with commands := commands, signedTicks := signedTicks } := by
  have hqueue : s.commands.pollNext.2.queue = [] := by
    rw [Channel.queue_pollNext, h]; rfl
  have hticks := Channel.queue_pollNext s.signedTicks
  rw [pollLocal_eq_pollTicks h]
  refine ⟨?_, s.commands.pollNext.2, s.signedTicks.pollNext.2, hqueue, hticks, pollTicks_snd _⟩
  rw [pollTicks]
  rcases ht : s.signedTicks.queue with _ | ⟨_ | tick, ticks⟩
  · rcases Channel.pollNext_of_nil ht with hnext | hnext <;>
      rcases hpoll : s.signedTicks.pollNext with ⟨polled, signedTicks⟩ <;>
        rw [hpoll] at hnext <;> obtain rfl : polled = _ := hnext <;> rfl
  · rw [Channel.pollNext_of_cons ht]
  · rw [Channel.pollNext_of_cons ht]

/-- A turn with no local input to reply to found no command, and polled the tickers. -/
theorem pollLocal_eq_none {s : OracleConnection} (h : (pollLocal s).1 = none) :
    s.commands.queue = [] ∧
      (pollLocal s).2 =
        { s with commands := s.commands.pollNext.2, signedTicks := s.signedTicks.pollNext.2 } := by
  rcases hcommands : s.commands.queue with _ | ⟨⟨id, sender⟩, rest⟩
  · rw [pollLocal_eq_pollTicks hcommands, pollTicks_snd]
    exact ⟨rfl, rfl⟩
  · rw [pollLocal_command hcommands] at h
    cases h

/-- Local inputs are replied to with a message. -/
theorem pollLocal_replies {s : OracleConnection} {polled : Polled}
    (h : (pollLocal s).1 = some polled) : ∃ msg, polled = .ready (some msg) := by
  rw [pollLocal] at h
  split at h
  · cases h; exact ⟨_, rfl⟩
  · rw [pollTicks] at h
    split at h <;> cases h
    exact ⟨_, rfl⟩

/-- Local inputs do not panic. -/
theorem pollLocal_ne_panic (s : OracleConnection) : (pollLocal s).1 ≠ some .panic := by
  intro h
  obtain ⟨msg, hmsg⟩ := pollLocal_replies h
  cases hmsg

/-- The connection once a message is taken, and the given ones are left. -/
def withMessages (messages : List Bytes) (s : OracleConnection) : OracleConnection :=
  { s with conn := ⟨messages, s.conn.closed, false⟩ }

/-- The rule of the loop of a poll: `P` holds at the start of each turn, of the
    messages not handled yet and the connection, and `Q` of what is answered and
    the connection then. -/
theorem pollLoop_rule {P : List Bytes → OracleConnection → Prop}
    {Q : Polled → OracleConnection → Prop}
    (hlocal : ∀ messages s polled, P messages s → (pollLocal s).1 = some polled →
      Q polled (pollLocal s).2)
    (hended : ∀ s, P [] s → (pollLocal s).1 = none → Q (.ready none) (pollLocal s).2)
    (hpending : ∀ s, P [] s → (pollLocal s).1 = none →
      Q .pending { (pollLocal s).2 with conn := { (pollLocal s).2.conn with waker := true } })
    (hnext : ∀ msg messages s, P (msg :: messages) s → (pollLocal s).1 = none →
      (receive recoverAddressFromMsg msg ((pollLocal s).2.withMessages messages)).1 = none →
      P messages (receive recoverAddressFromMsg msg ((pollLocal s).2.withMessages messages)).2)
    (hreply : ∀ msg messages s polled, P (msg :: messages) s → (pollLocal s).1 = none →
      (receive recoverAddressFromMsg msg ((pollLocal s).2.withMessages messages)).1 = some polled →
      Q polled (receive recoverAddressFromMsg msg ((pollLocal s).2.withMessages messages)).2)
    {messages : List Bytes} {s : OracleConnection} (hs : P messages s) :
    Q (pollLoop recoverAddressFromMsg messages s).1
      (pollLoop recoverAddressFromMsg messages s).2 := by
  induction messages generalizing s with
  | nil =>
    have hl := hlocal [] s
    have he := hended s hs
    have hw := hpending s hs
    rw [pollLoop]
    rcases hp : pollLocal s with ⟨_ | polled, s₁⟩ <;> rw [hp] at hl he hw
    · simp only
      split_ifs
      · exact he rfl
      · exact hw rfl
    · exact hl polled hs rfl
  | cons msg messages ih =>
    have hl := hlocal (msg :: messages) s
    have hn := hnext msg messages s hs
    have hr := hreply msg messages s
    rw [pollLoop]
    rcases hp : pollLocal s with ⟨_ | polled, s₁⟩ <;> rw [hp] at hl hn hr
    · -- No local input is ready, so the next message is handled.
      simp only [withMessages, forall_const] at hn hr ⊢
      rcases hq : receive recoverAddressFromMsg msg
        { s₁ with conn := ⟨messages, s₁.conn.closed, false⟩ } with ⟨_ | polled, s₂⟩ <;>
        rw [hq] at hn hr
      · exact ih (hn rfl)
      · exact hr polled hs rfl
    · exact hl polled hs rfl

/-- What every turn of the loop keeps, a poll keeps: what reads the local inputs,
    and what handles a message that the peer sent. -/
theorem pollLoop_invariant {P : OracleConnection → Prop} {messages : List Bytes}
    (hlocal : ∀ s, P s → P (pollLocal s).2) (hconn : ∀ s c, P s → P { s with conn := c })
    (hreceive : ∀ msg ∈ messages, ∀ s, P s → P (receive recoverAddressFromMsg msg s).2)
    {s : OracleConnection} (hs : P s) : P (pollLoop recoverAddressFromMsg messages s).2 := by
  refine pollLoop_rule (P := fun rest s => rest <:+ messages ∧ P s) (Q := fun _ s => P s)
    ?_ ?_ ?_ ?_ ?_ ⟨List.suffix_rfl, hs⟩
  · exact fun _ s _ h _ => hlocal s h.2
  · exact fun s h _ => hlocal s h.2
  · exact fun s h _ => hconn _ _ (hlocal s h.2)
  · intro msg rest s ⟨hrest, h⟩ _ _
    exact ⟨(List.suffix_cons _ _).trans hrest,
      hreceive msg (hrest.subset List.mem_cons_self) _ (hconn _ _ (hlocal s h))⟩
  · intro msg rest s _ ⟨hrest, h⟩ _ _
    exact hreceive msg (hrest.subset List.mem_cons_self) _ (hconn _ _ (hlocal s h))

/-- What reads the local inputs and what handles a message keep, a poll keeps. -/
theorem pollNext_invariant {P : OracleConnection → Prop} {s : OracleConnection}
    (hping : ∀ s, P s → P { s with initialPing := none }) (hlocal : ∀ s, P s → P (pollLocal s).2)
    (hconn : ∀ s c, P s → P { s with conn := c })
    (hreceive : ∀ msg ∈ s.conn.queue, ∀ s, P s → P (receive recoverAddressFromMsg msg s).2)
    (hs : P s) : P (s.pollNext recoverAddressFromMsg).2 := by
  rw [pollNext]
  split
  · exact hping s hs
  · exact pollLoop_invariant hlocal hconn hreceive hs

section

variable (recoverAddressFromMsg) (msg : Bytes) (s : OracleConnection)

/-- A message changes only what is recorded and what is answered. -/
theorem receive_frame :
    ∃ attestations pendingAtt answers, (receive recoverAddressFromMsg msg s).2 =
      { s with attestations := attestations, pendingAtt := pendingAtt, answers := answers } := by
  rw [receive]
  split
  · exact ⟨_, _, _, rfl⟩
  · split
    · exact ⟨_, _, _, rfl⟩
    · exact ⟨_, _, _, rfl⟩
    · rw [answer]; split <;> exact ⟨_, _, _, rfl⟩
    · simp only [attest]
      split
      · exact ⟨_, _, _, rfl⟩
      · split
        · exact ⟨_, _, _, rfl⟩
        · simp only; split_ifs <;> exact ⟨_, _, _, rfl⟩

@[simp] theorem conn_receive : (receive recoverAddressFromMsg msg s).2.conn = s.conn := by
  obtain ⟨_, _, _, h⟩ := receive_frame recoverAddressFromMsg msg s
  rw [h]

@[simp] theorem commands_receive :
    (receive recoverAddressFromMsg msg s).2.commands = s.commands := by
  obtain ⟨_, _, _, h⟩ := receive_frame recoverAddressFromMsg msg s
  rw [h]

@[simp] theorem signedTicks_receive :
    (receive recoverAddressFromMsg msg s).2.signedTicks = s.signedTicks := by
  obtain ⟨_, _, _, h⟩ := receive_frame recoverAddressFromMsg msg s
  rw [h]

@[simp] theorem initialPing_receive :
    (receive recoverAddressFromMsg msg s).2.initialPing = s.initialPing := by
  obtain ⟨_, _, _, h⟩ := receive_frame recoverAddressFromMsg msg s
  rw [h]

end

/-- A poll handles messages from the front of the queue. -/
theorem queue_pollLoop {messages : List Bytes} {s : OracleConnection}
    (hs : s.conn.queue = messages) :
    (pollLoop recoverAddressFromMsg messages s).2.conn.queue <:+ messages := by
  have hlocal (s : OracleConnection) : (pollLocal s).2.conn.queue = s.conn.queue := by
    rw [conn_pollLocal]
  have hreceive (msg : Bytes) (rest : List Bytes) (s : OracleConnection) :
      (receive recoverAddressFromMsg msg (s.withMessages rest)).2.conn.queue = rest := by
    rw [conn_receive]; rfl
  refine pollLoop_rule (P := fun rest s => rest <:+ messages ∧ s.conn.queue = rest)
    (Q := fun _ s => s.conn.queue <:+ messages) ?_ ?_ ?_ ?_ ?_ ⟨List.suffix_rfl, hs⟩
  · rintro rest s _ ⟨hrest, rfl⟩ _
    exact (hlocal s).symm ▸ hrest
  · rintro s ⟨hrest, hqueue⟩ _
    exact (hlocal s).trans hqueue ▸ hrest
  · rintro s ⟨hrest, hqueue⟩ _
    exact (hlocal s).trans hqueue ▸ hrest
  · rintro msg rest s ⟨hrest, _⟩ _ _
    exact ⟨(List.suffix_cons _ _).trans hrest, hreceive msg rest _⟩
  · rintro msg rest s _ ⟨hrest, _⟩ _ _
    exact (hreceive msg rest _).symm ▸ (List.suffix_cons _ _).trans hrest

theorem queue_pollNext (s : OracleConnection) :
    (s.pollNext recoverAddressFromMsg).2.conn.queue <:+ s.conn.queue := by
  rw [pollNext]
  split
  · exact List.suffix_rfl
  · exact queue_pollLoop rfl

/-- A poll handles commands from the front of the queue. -/
theorem commands_pollNext (s : OracleConnection) :
    (s.pollNext recoverAddressFromMsg).2.commands.queue ⊆ s.commands.queue := by
  refine pollNext_invariant (P := fun c => c.commands.queue ⊆ s.commands.queue) ?_ ?_ ?_ ?_
    (List.Subset.refl _)
  · exact fun _ h => h
  · intro c h
    rcases hcommands : c.commands.queue with _ | ⟨⟨id, sender⟩, rest⟩
    · obtain ⟨-, _, _, hnil, -, heq⟩ := pollLocal_of_nil hcommands
      rw [heq, hnil]
      exact List.nil_subset _
    · rw [pollLocal_command hcommands]
      exact List.subset_of_cons_subset (hcommands ▸ h)
  · exact fun _ _ h => h
  · intro msg _ c h
    rwa [commands_receive]

/-- A ping that is still to be sent is one. -/
theorem ping_pollNext {s : OracleConnection} (hs : ∀ ping ∈ s.initialPing, ping = .ping) :
    ∀ ping ∈ (s.pollNext recoverAddressFromMsg).2.initialPing, ping = .ping := by
  refine pollNext_invariant (P := fun c => ∀ ping ∈ c.initialPing, ping = .ping) ?_ ?_ ?_ ?_ hs
  · exact fun _ _ _ h => by cases h
  · intro c h
    rwa [initialPing_pollLocal]
  · exact fun _ _ h => h
  · intro msg _ c h
    rwa [initialPing_receive]

end OracleConnection

end ExEx.Oracle
