import ExEx.Oracle.Answers

/-!
# Two connections, joined

The connections of two peers, each of which receives what the other sends, in
order. The oracle on either side issues commands and signs tickers at any time,
and messages are delivered and connections polled in any order.

A command for the attestations of a ticker does not ask the peer for them: it
makes the connection send its own, and the answer is the next list that comes,
whatever it was sent for. Every message on the way has a tag, which the code does
not see: the id its attestations were sent for. In every run, a list on the way was
held by its sender, under its tag (`consistent`).
-/

namespace ExEx.Oracle

open Reth (Signature)

/-! ## The system -/

inductive Side
  | left
  | right
  deriving DecidableEq

def Side.other : Side → Side
  | left => right
  | right => left

/-- A message, with its tag. -/
abbrev TaggedMessage := Bytes × Option B256

/-- The lists of attestations in some messages, with their tags. -/
def taggedLists (messages : List TaggedMessage) : List (List Address × Option B256) :=
  messages.filterMap fun m => (carriedAttestations m.1).map fun attestations => (attestations, m.2)

/-- The end of one side, with what is on the way to it. -/
structure End where
  session : Session
  /-- The tags of the messages in the queue. -/
  tags : List (Option B256)
  /-- The messages on the way. -/
  inFlight : List TaggedMessage
  /-- The ids of the commands. The response channel of a command is its place. -/
  issued : List B256
  /-- The tags of the lists that answered. -/
  sentFor : List (Option B256)
  /-- The attestations at every moment so far. -/
  held : List (B256 → List Address)

abbrev Joined := Side → End

inductive JoinedEvent
  | command (side : Side) (id : B256)
  | dropCommands (side : Side)
  | tick (side : Side) (item : Except UInt64 SignedTicker)
  | dropTicks (side : Side)
  /-- The next message on the way to a side arrives. -/
  | deliver (side : Side)
  | disconnect (side : Side)
  | poll (side : Side)

/-- A new end. -/
def End.start (outgoing : Bool) : End := ⟨.start outgoing, [], [], [], [], [fun _ => []]⟩

section

variable (recoverAddressFromMsg : Signature → Bytes → Option Address)

namespace End

variable (e : End)

/-- An input of the connection. -/
def input (event : Event) : End :=
  { e with session := e.session.act recoverAddressFromMsg event }

def command (id : B256) : End :=
  { e.input recoverAddressFromMsg (.command (.attestation id e.issued.length)) with
    issued := e.issued ++ [id] }

def deliver : End :=
  match e.inFlight with
  | [] => e
  | (msg, tag) :: inFlight =>
    { e.input recoverAddressFromMsg (.message msg) with
      tags := e.tags ++ [tag]
      inFlight := inFlight }

/-- The messages a poll handles. -/
def handles : List TaggedMessage :=
  let session := e.session.act recoverAddressFromMsg .poll
  (e.session.connection.conn.queue.zip e.tags).take
    (e.session.connection.handled session.connection).length

/-- The tag of the list that answers in a poll, if one does: it is the first. -/
def answersFor : List (Option B256) :=
  let session := e.session.act recoverAddressFromMsg .poll
  if session.connection.answers = e.session.connection.answers then []
  else ((taggedLists (e.handles recoverAddressFromMsg)).map Prod.snd).take 1

def poll : End :=
  let session := e.session.act recoverAddressFromMsg .poll
  { e with
    session := session
    tags := e.tags.drop (e.session.connection.handled session.connection).length
    sentFor := e.sentFor ++ e.answersFor recoverAddressFromMsg
    held := e.held ++ [session.connection.attestationsOf] }

/-- The message a poll sends, if any. -/
def sends : List TaggedMessage :=
  match e.session.connection.pollNext recoverAddressFromMsg with
  | (.ready (some reply), connection) => [(reply, e.session.connection.repliedId connection)]
  | _ => []

/-- The vectors of attestations are within `isize::MAX` bytes, as vectors are. -/
def Fits : Prop := ∀ entry ∈ e.session.connection.attestations.entries, entry.2.length * 20 < 2 ^ 63

instance instDecidableFits : Decidable e.Fits := by unfold Fits; infer_instance

end End

namespace Joined

/-- The ends after an event. -/
def act (s : Joined) : JoinedEvent → Joined
  | .command side id => Function.update s side ((s side).command recoverAddressFromMsg id)
  | .dropCommands side => Function.update s side ((s side).input recoverAddressFromMsg .dropCommands)
  | .tick side item => Function.update s side ((s side).input recoverAddressFromMsg (.tick item))
  | .dropTicks side => Function.update s side ((s side).input recoverAddressFromMsg .dropTicks)
  | .deliver side => Function.update s side ((s side).deliver recoverAddressFromMsg)
  | .disconnect side => Function.update s side ((s side).input recoverAddressFromMsg .disconnect)
  | .poll side => fun i =>
    if i = side then (s side).poll recoverAddressFromMsg
    else { s i with inFlight := (s i).inFlight ++ (s side).sends recoverAddressFromMsg }

/-- Nothing arrives over a closed connection, and a stream that has ended is not
    polled. -/
def Enabled (s : Joined) : JoinedEvent → Prop
  | .deliver side => (s side).session.connection.conn.closed = false
  | .poll side => (s side).session.ended = false ∧ ((s side).poll recoverAddressFromMsg).Fits
  | _ => True

instance instDecidableEnabled (s : Joined) (event : JoinedEvent) :
    Decidable (Enabled recoverAddressFromMsg s event) := by
  cases event <;> (unfold Enabled; infer_instance)

end Joined

/-- One side has opened the connection. -/
def joined : System Joined JoinedEvent where
  init s := ∃ opener, s = fun side => .start (side = opener)
  step s event s' := Joined.Enabled recoverAddressFromMsg s event ∧
    s' = Joined.act recoverAddressFromMsg s event

end

/-! ## What is on the way -/

/-- The attestations in a message, if it carries some, were held under its tag. -/
def Tagged (peer : List (B256 → List Address)) (msg : Bytes) (tag : Option B256) : Prop :=
  ∀ l, carriedAttestations msg = some l →
    ∃ id, tag = some id ∧ ∃ attestations ∈ peer, attestations id = l

theorem Tagged.mono {peer peer' : List (B256 → List Address)} {msg : Bytes} {tag : Option B256}
    (h : Tagged peer msg tag) (hsub : peer ⊆ peer') : Tagged peer' msg tag := by
  intro l hl
  obtain ⟨id, hid, attestations, hmem, heq⟩ := h l hl
  exact ⟨id, hid, attestations, hsub hmem, heq⟩

/-- Only messages of their kind carry attestations. -/
theorem head?_of_carriedAttestations {msg : Bytes} {l : List Address}
    (h : carriedAttestations msg = some l) :
    msg.head? = some OracleProtoMessageId.attestations.toByte := by
  rcases msg with _ | ⟨id, buf⟩
  · cases h
  rcases hid : OracleProtoMessageId.ofByte id with _ | messageType
  · simp [carriedAttestations, OracleProtoMessage.decodeMessage, hid] at h
  cases messageType with
  | ping => simp [carriedAttestations, OracleProtoMessage.decodeMessage, hid] at h
  | pong => simp [carriedAttestations, OracleProtoMessage.decodeMessage, hid] at h
  | tickData =>
    rcases hdata : SignedTicker.decode buf with _ | ⟨data, rest⟩ <;>
      simp [carriedAttestations, OracleProtoMessage.decodeMessage, hid, hdata] at h
  | attestations => rw [List.head?_cons, OracleProtoMessageId.eq_toByte_of_ofByte hid]

/-- The attestations that are sent are held under their tag. -/
theorem tagged_sent {peer : List (B256 → List Address)} {attestations : B256 → List Address}
    {id : B256} (hmem : attestations ∈ peer) (hlt : (attestations id).length * 20 < 2 ^ 63) :
    Tagged peer (OracleProtoMessage.attestations (attestations id)).encoded (some id) := by
  intro l hl
  have hdecode := OracleProtoMessage.decodes_attestations hlt []
  rw [List.append_nil] at hdecode
  rw [carriedAttestations, hdecode] at hl
  exact ⟨id, rfl, attestations, hmem, Option.some.inj hl⟩

/-- A place in a list is a place in a longer one. -/
theorem getElem?_append_of_eq_some {α : Type} {l l' : List α} {i : ℕ} {a : α}
    (h : l[i]? = some a) : (l ++ l')[i]? = some a := by
  rw [List.getElem?_append_left (List.getElem?_eq_some_iff.1 h).1, h]

namespace End

variable {recoverAddressFromMsg : Signature → Bytes → Option Address}

/-- An end, with a peer that has held the given attestations. -/
structure Consistent (peer : List (B256 → List Address)) (e : End) : Prop where
  ping : ∀ ping ∈ e.session.connection.initialPing, ping = .ping
  commands : ∀ id sender, .attestation id sender ∈ e.session.connection.commands.queue →
    e.issued[sender]? = some id
  pending : ∀ sender ∈ e.session.connection.pendingAtt, ∃ id, e.issued[sender]? = some id
  queue : List.Forall₂ (Tagged peer) e.session.connection.conn.queue e.tags
  inFlight : ∀ m ∈ e.inFlight, Tagged peer m.1 m.2
  held : e.session.connection.attestationsOf ∈ e.held

variable {peer peer' : List (B256 → List Address)} {e : End}

theorem Consistent.start (outgoing : Bool) (peer : List (B256 → List Address)) :
    Consistent peer (.start outgoing) where
  ping ping h := by
    cases outgoing
    · cases h
    · exact (Option.some.inj h).symm
  commands := by exact nofun
  pending := by exact nofun
  queue := .nil
  inFlight := by exact nofun
  held := List.mem_singleton_self _

/-- The peer may hold more. -/
theorem Consistent.mono (h : Consistent peer e) (hsub : peer ⊆ peer') : Consistent peer' e where
  ping := h.ping
  commands := h.commands
  pending := h.pending
  queue := h.queue.imp fun _ _ htagged => htagged.mono hsub
  inFlight m hm := (h.inFlight m hm).mono hsub
  held := h.held

/-- What the peer sends is put on the way. -/
theorem Consistent.append (h : Consistent peer e) {l : List TaggedMessage}
    (hl : ∀ m ∈ l, Tagged peer m.1 m.2) :
    Consistent peer { e with inFlight := e.inFlight ++ l } where
  ping := h.ping
  commands := h.commands
  pending := h.pending
  queue := h.queue
  inFlight m hm := (List.mem_append.1 hm).elim (h.inFlight m) (hl m)
  held := h.held

/-- Tickers, and the end of an input, change neither commands nor messages. -/
theorem Consistent.input (h : Consistent peer e) {event : Event}
    (hevent : (∃ item, event = .tick item) ∨ event = .dropCommands ∨ event = .dropTicks ∨
      event = .disconnect) : Consistent peer (e.input recoverAddressFromMsg event) := by
  rcases hevent with ⟨item, rfl⟩ | rfl | rfl | rfl <;>
    exact ⟨h.ping, h.commands, h.pending, h.queue, h.inFlight, h.held⟩

theorem Consistent.command (h : Consistent peer e) (id : B256) :
    Consistent peer (e.command recoverAddressFromMsg id) where
  ping := h.ping
  commands id' sender hmem := by
    simp only [End.command, End.input, Session.act, Channel.send] at hmem ⊢
    split_ifs at hmem
    · exact getElem?_append_of_eq_some (h.commands id' sender hmem)
    · rcases List.mem_append.1 hmem with hmem | hmem
      · exact getElem?_append_of_eq_some (h.commands id' sender hmem)
      · obtain ⟨rfl, rfl⟩ := OracleCommand.attestation.inj (List.mem_singleton.1 hmem)
        exact List.getElem?_concat_length
  pending sender hsender := by
    obtain ⟨id', hid⟩ := h.pending sender hsender
    exact ⟨id', getElem?_append_of_eq_some hid⟩
  queue := h.queue
  inFlight := h.inFlight
  held := h.held

theorem Consistent.deliver (h : Consistent peer e)
    (hopen : e.session.connection.conn.closed = false) :
    Consistent peer (e.deliver recoverAddressFromMsg) := by
  rw [End.deliver]
  rcases hflight : e.inFlight with _ | ⟨⟨msg, tag⟩, inFlight⟩
  · exact h
  · have htagged : Tagged peer msg tag := h.inFlight (msg, tag) (hflight ▸ List.mem_cons_self)
    refine ⟨h.ping, h.commands, h.pending, ?_, ?_, h.held⟩
    · simp only [End.input, Session.act, Channel.send, hopen, Bool.false_eq_true, if_false]
      exact List.rel_append h.queue (.cons htagged .nil)
    · exact fun m hm => h.inFlight m (hflight ▸ List.mem_cons_of_mem _ hm)

/-- The tags of what a poll leaves in the queue. -/
theorem drop_handled {c c' : OracleConnection} {tags : List (Option B256)}
    (hqueue : c.conn.queue = c.handled c' ++ c'.conn.queue)
    (h : List.Forall₂ (Tagged peer) c.conn.queue tags) :
    List.Forall₂ (Tagged peer) c'.conn.queue (tags.drop (c.handled c').length) := by
  have hdrop := List.forall₂_drop (c.handled c').length h
  rwa [hqueue, List.drop_left] at hdrop

theorem Consistent.poll (h : Consistent peer e) :
    Consistent peer (e.poll recoverAddressFromMsg) := by
  have hpolls := OracleConnection.pollNext_polls recoverAddressFromMsg h.ping
  refine ⟨OracleConnection.ping_pollNext h.ping,
    fun id sender hmem => h.commands id sender (OracleConnection.commands_pollNext _ hmem), ?_,
    drop_handled hpolls.queue h.queue, h.inFlight,
    List.mem_append_right _ (List.mem_singleton_self _)⟩
  intro sender hsender
  simp only [End.poll, Session.act, Session.poll] at hsender
  rcases hnext : e.session.connection.nextCommand with _ | ⟨id, sender'⟩
  · rw [(OracleConnection.pollNext_answers hnext).pending] at hsender
    split_ifs at hsender
    · exact h.pending sender hsender
    · cases hsender
  · rw [OracleConnection.pollNext_command _ hnext] at hsender
    obtain rfl := Option.some.inj hsender
    exact ⟨id, h.commands id sender' (OracleConnection.mem_of_nextCommand hnext)⟩

theorem Fits.length_attestationsOf (h : e.Fits) (id : B256) :
    (e.session.connection.attestationsOf id).length * 20 < 2 ^ 63 := by
  rw [OracleConnection.attestationsOf]
  rcases hlookup : e.session.connection.attestations.lookup id with _ | l
  · norm_num
  · exact h (id, l) (Assoc.mem_entries_iff.2 hlookup)

/-- What a poll sends was held under its tag. -/
theorem tagged_sends (hping : ∀ ping ∈ e.session.connection.initialPing, ping = .ping)
    (hfits : (e.poll recoverAddressFromMsg).Fits) :
    ∀ m ∈ e.sends recoverAddressFromMsg, Tagged (e.poll recoverAddressFromMsg).held m.1 m.2 := by
  intro m hm l hl
  have hpolls := OracleConnection.pollNext_polls recoverAddressFromMsg hping
  rw [sends] at hm
  split at hm
  · rename_i reply connection heq
    rw [heq] at hpolls
    obtain rfl := List.mem_singleton.1 hm
    obtain ⟨id, hid, hreply⟩ := hpolls.reply reply rfl (head?_of_carriedAttestations hl)
    have hconnection : (e.poll recoverAddressFromMsg).session.connection = connection :=
      congrArg Prod.snd heq
    have hlength := hfits.length_attestationsOf id
    rw [hconnection] at hlength
    have hmem : connection.attestationsOf ∈ (e.poll recoverAddressFromMsg).held :=
      hconnection ▸ List.mem_append_right _ (List.mem_singleton_self _)
    rw [hreply] at hl
    obtain ⟨id', hid', hpeer⟩ := tagged_sent hmem hlength l hl
    exact ⟨id', hid.trans hid', hpeer⟩
  · cases hm

theorem held_deliver : (e.deliver recoverAddressFromMsg).held = e.held := by
  rw [End.deliver]
  split <;> rfl

end End

/-! ## Runs -/

variable {recoverAddressFromMsg : Signature → Bytes → Option Address}

theorem Side.other_ne (side : Side) : side.other ≠ side := by
  cases side <;> decide

theorem Side.other_of_ne {i j : Side} (h : i ≠ j) : i.other = j := by
  cases i <;> cases j <;> first | rfl | exact absurd rfl h

/-- Each end, with the other. -/
def Joined.Consistent (s : Joined) : Prop :=
  ∀ side, (s side).Consistent (s side.other).held

/-- What happens to one end only. -/
theorem Joined.Consistent.update {s : Joined} (h : s.Consistent) {side : Side} {e : End}
    (hheld : e.held = (s side).held)
    (he : ∀ peer, (s side).Consistent peer → e.Consistent peer) :
    Joined.Consistent (Function.update s side e) := by
  intro i
  by_cases hi : i = side
  · subst hi
    rw [Function.update_self, Function.update_of_ne i.other_ne]
    exact he _ (h i)
  · have hpeer := h i
    rw [Side.other_of_ne hi] at hpeer ⊢
    rwa [Function.update_self, Function.update_of_ne hi, hheld]

/-- A poll, and the message it sends to the other side. -/
theorem Joined.Consistent.poll {s : Joined} (h : s.Consistent) {side : Side}
    (hfits : ((s side).poll recoverAddressFromMsg).Fits) :
    Joined.Consistent (s.act recoverAddressFromMsg (.poll side)) := by
  intro i
  simp only [act]
  by_cases hi : i = side
  · subst hi
    rw [if_pos rfl, if_neg i.other_ne]
    exact (h i).poll
  · have hpeer := h i
    rw [Side.other_of_ne hi] at hpeer ⊢
    rw [if_pos rfl, if_neg hi]
    exact (hpeer.mono (List.subset_append_left _ _)).append (End.tagged_sends (h side).ping hfits)

/-- In every run, what is on the way was held by who has sent it. -/
theorem consistent {s : Joined} (hs : (joined recoverAddressFromMsg).Reachable s) :
    s.Consistent := by
  refine hs.invariant (I := Joined.Consistent) ?_ ?_
  · rintro s ⟨opener, rfl⟩ side
    exact End.Consistent.start _ _
  rintro s event s' _ h _ ⟨henabled, rfl⟩
  rcases event with ⟨side, id⟩ | side | ⟨side, item⟩ | side | side | side | side
  · exact h.update rfl fun peer he => he.command id
  · exact h.update rfl fun peer he => he.input (.inr (.inl rfl))
  · exact h.update rfl fun peer he => he.input (.inl ⟨item, rfl⟩)
  · exact h.update rfl fun peer he => he.input (.inr (.inr (.inl rfl)))
  · exact h.update End.held_deliver fun peer he => he.deliver henabled
  · exact h.update rfl fun peer he => he.input (.inr (.inr (.inr rfl)))
  · exact h.poll henabled.2

/-! ### A command and a ticker -/

/-- The left oracle asks for the attestations of an id, and signs a ticker. The right
    side receives the ping of the left one, its attestations and the ticker, and the
    left one what is replied to the ping and the ticker. -/
def commandAndTick (id : B256) : List JoinedEvent :=
  [.command .left id, .tick .left (.ok honest), .poll .left, .poll .left, .poll .left,
    .deliver .right, .deliver .right, .deliver .right, .poll .right, .poll .right,
    .deliver .left, .deliver .left, .poll .left]

/-- Before any event, the left side has opened the connection. -/
theorem reachableBy_start {C : Joined → JoinedEvent → Prop} :
    (joined tickerRecover).ReachableBy C fun side => .start (side = .left) :=
  .init ⟨.left, rfl⟩

end ExEx.Oracle
