import ExEx.Oracle.Peer

/-!
# The attestations of a connection

Every signed ticker that is handled, and that its signer signed, is pushed to the
attestations under its id. There is no check that the signer is not among them:
the list has an entry for each of these messages, and not for each signer.

* `Polls`: what a poll does, as seen from outside, of the messages it handles;
* `attestations_counted`: the attestations in every reachable state, and the
  replies that are sent;
* `attests_twice`: a message that comes twice is counted twice.
-/

namespace ExEx.Oracle

open Reth (Signature)

section

variable (recoverAddressFromMsg : Signature → Bytes → Option Address) (id : B256)

/-- Who attests under the id by a message, if anyone: the signer of the ticker that
    it carries, who signed it. -/
def attests (msg : Bytes) : Option Address :=
  match carried msg with
  | some signedData =>
    if signedData.id = id ∧ signedBy recoverAddressFromMsg signedData = some signedData.signer then
      some signedData.signer
    else none
  | none => none

/-- Who attested under the id by one of the messages, in their order. -/
def signers (messages : List Bytes) : List Address :=
  messages.filterMap (attests recoverAddressFromMsg id)

/-- No two of the messages attest under the id for the same signer. -/
def AttestOnce (messages : List Bytes) : Prop :=
  messages.Pairwise fun msg msg' =>
    ∀ a, attests recoverAddressFromMsg id msg = some a →
      attests recoverAddressFromMsg id msg' ≠ some a

end

variable {recoverAddressFromMsg : Signature → Bytes → Option Address}

theorem signers_append {id : B256} (messages messages' : List Bytes) :
    signers recoverAddressFromMsg id (messages ++ messages') =
      signers recoverAddressFromMsg id messages ++ signers recoverAddressFromMsg id messages' :=
  List.filterMap_append

/-- There is a signer for each message that attests. -/
theorem length_signers {id : B256} (messages : List Bytes) :
    (signers recoverAddressFromMsg id messages).length =
      messages.countP fun msg => (attests recoverAddressFromMsg id msg).isSome :=
  List.length_filterMap_eq_countP

theorem nodup_signers_iff {id : B256} {messages : List Bytes} :
    (signers recoverAddressFromMsg id messages).Nodup ↔
      AttestOnce recoverAddressFromMsg id messages := by
  rw [signers, List.Nodup, List.pairwise_filterMap, AttestOnce]
  constructor
  · intro h
    exact h.imp fun hne a ha ha' => hne a ha a ha' rfl
  · intro h
    exact h.imp fun hne a ha a' ha' heq => hne a ha (ha'.trans (congrArg some heq.symm))

/-! ## What a poll does, from outside -/

namespace OracleConnection

/-- The messages handled between two states of a connection. -/
def handled (s s' : OracleConnection) : List Bytes :=
  s.conn.queue.take (s.conn.queue.length - s'.conn.queue.length)

/-- The id a poll replied for: that of the command it handled, or else that of the
    ticker in the last message it handled. -/
def repliedId (s s' : OracleConnection) : Option B256 :=
  match s.commands.queue with
  | .attestation id _ :: _ => some id
  | [] => ((handled s s').getLast?.bind carried).map SignedTicker.id

variable (recoverAddressFromMsg) in
/-- What a poll does of the messages it handles: it takes them off the queue and
    records who attests by them. The attestations it replies are those recorded
    under the id it replies for. -/
structure Polls (s : OracleConnection) (polled : Polled) (s' : OracleConnection) : Prop where
  queue : s.conn.queue = handled s s' ++ s'.conn.queue
  closed : s'.conn.closed = s.conn.closed
  attestations : ∀ id, s'.attestationsOf id =
    s.attestationsOf id ++ signers recoverAddressFromMsg id (handled s s')
  reply : ∀ reply, polled = .ready (some reply) →
    reply.head? = some OracleProtoMessageId.attestations.toByte →
    ∃ id, repliedId s s' = some id ∧
      reply = (OracleProtoMessage.attestations (s'.attestationsOf id)).encoded

theorem handled_eq {s s' : OracleConnection} {messages : List Bytes}
    (h : s.conn.queue = messages ++ s'.conn.queue) : handled s s' = messages := by
  rw [handled, h, List.length_append, Nat.add_sub_cancel, List.take_left']
  rfl

/-- A message is recorded as it attests. -/
theorem attestationsOf_receive (id : B256) (msg : Bytes) (s : OracleConnection) :
    (receive recoverAddressFromMsg msg s).2.attestationsOf id =
      s.attestationsOf id ++ (attests recoverAddressFromMsg id msg).toList := by
  rw [receive, attests, carried]
  rcases OracleProtoMessage.decodeMessage msg with _ | ⟨⟨messageType, message⟩, rest⟩
  · exact (List.append_nil _).symm
  rcases message with _ | _ | signedData | attestations
  · exact (List.append_nil _).symm
  · exact (List.append_nil _).symm
  · simp only [attestationsOf, attestations_attest]
    by_cases hsigned : signedBy recoverAddressFromMsg signedData = some signedData.signer
    · rw [if_pos hsigned, Assoc.lookup_put]
      by_cases hid : signedData.id = id
      · rw [if_pos hid.symm, if_pos ⟨hid, hsigned⟩, hid]
        rfl
      · rw [if_neg (Ne.symm hid), if_neg fun h => hid h.1]
        exact (List.append_nil _).symm
    · rw [if_neg hsigned, if_neg fun h => hsigned h.2]
      exact (List.append_nil _).symm
  · simp only [answer]
    split <;> exact (List.append_nil _).symm

/-- Attestations are replied to a signed ticker only, under its id. -/
theorem receive_reply {msg reply : Bytes} {s : OracleConnection}
    (h : (receive recoverAddressFromMsg msg s).1 = some (.ready (some reply)))
    (hreply : reply.head? = some OracleProtoMessageId.attestations.toByte) :
    ∃ signedData, carried msg = some signedData ∧
      reply = (OracleProtoMessage.attestations
        ((receive recoverAddressFromMsg msg s).2.attestationsOf signedData.id)).encoded := by
  rw [receive] at h ⊢
  rw [carried]
  rcases hd : OracleProtoMessage.decodeMessage msg with _ | ⟨⟨messageType, message⟩, rest⟩ <;>
    simp only [hd] at h ⊢
  · cases h
  rcases message with _ | _ | signedData | attestations <;> simp only at h ⊢
  · obtain rfl := Option.some.inj (Polled.ready.inj (Option.some.inj h))
    exact absurd hreply (by decide)
  · cases h
  · refine ⟨signedData, rfl, ?_⟩
    simp only [attest] at h ⊢
    rcases hsig : Signature.tryFrom signedData.signature with _ | sig <;> simp only [hsig] at h ⊢
    · cases h
    · rcases haddr : recoverAddressFromMsg sig signedData.ticker.encode with _ | addr <;>
        simp only [haddr] at h ⊢
      · cases h
      · exact (Option.some.inj (Polled.ready.inj (Option.some.inj h))).symm
  · cases h

/-- Attestations are replied to a command, under its id. -/
theorem pollLocal_reply {s : OracleConnection} {reply : Bytes}
    (h : (pollLocal s).1 = some (.ready (some reply)))
    (hreply : reply.head? = some OracleProtoMessageId.attestations.toByte) :
    ∃ id sender rest, s.commands.queue = .attestation id sender :: rest ∧
      reply = (OracleProtoMessage.attestations (s.attestationsOf id)).encoded := by
  rcases hc : s.commands.queue with _ | ⟨⟨id, sender⟩, rest⟩
  · rw [(pollLocal_of_nil hc).1] at h
    rcases ht : s.signedTicks.queue with _ | ⟨_ | tick, ticks⟩ <;> simp only [ht] at h
    · cases h
    · cases h
    · -- The reply is a ticker.
      obtain rfl := Option.some.inj (Polled.ready.inj (Option.some.inj h))
      exact absurd (Option.some.inj hreply) (show ¬(0x02 : UInt8) = 0x03 by decide)
  · rw [pollLocal_command hc] at h
    exact ⟨id, sender, rest, rfl, (Option.some.inj (Polled.ready.inj (Option.some.inj h))).symm⟩

/-- When nothing local is ready, there is no command. -/
theorem commands_of_pollLocal {s : OracleConnection} (h : (pollLocal s).1 = none) :
    s.commands.queue = [] := by
  rcases hc : s.commands.queue with _ | ⟨⟨id, sender⟩, rest⟩
  · rfl
  · rw [pollLocal_command hc] at h
    cases h

/-- Where the loop of a poll is: it has handled some of the messages of `s`, and the
    given ones are left. -/
structure Turn (recoverAddressFromMsg : Signature → Bytes → Option Address)
    (s : OracleConnection) (messages : List Bytes) (t : OracleConnection) : Prop where
  queue : t.conn.queue = messages
  closed : t.conn.closed = s.conn.closed
  taken : ∃ taken, s.conn.queue = taken ++ messages ∧
    ∀ id, t.attestationsOf id = s.attestationsOf id ++ signers recoverAddressFromMsg id taken

theorem Turn.start (s : OracleConnection) : Turn recoverAddressFromMsg s s.conn.queue s where
  queue := rfl
  closed := rfl
  taken := ⟨[], rfl, fun _ => (List.append_nil _).symm⟩

section

variable {s t t' : OracleConnection} {messages : List Bytes}

/-- A turn is about the messages and the attestations only. -/
theorem Turn.frame (h : Turn recoverAddressFromMsg s messages t)
    (hattestations : t'.attestations = t.attestations) (hqueue : t'.conn.queue = t.conn.queue)
    (hclosed : t'.conn.closed = t.conn.closed) : Turn recoverAddressFromMsg s messages t' where
  queue := hqueue.trans h.queue
  closed := hclosed.trans h.closed
  taken := by
    obtain ⟨taken, htaken, hsigners⟩ := h.taken
    refine ⟨taken, htaken, fun id => ?_⟩
    rw [← hsigners, attestationsOf, hattestations, attestationsOf]

theorem Turn.pollLocal (h : Turn recoverAddressFromMsg s messages t) :
    Turn recoverAddressFromMsg s messages t.pollLocal.2 :=
  h.frame (attestations_pollLocal t) (congrArg _ (conn_pollLocal t)) (congrArg _ (conn_pollLocal t))

/-- A message is taken and handled. -/
theorem Turn.receive {msg : Bytes} (h : Turn recoverAddressFromMsg s (msg :: messages) t) :
    Turn recoverAddressFromMsg s messages
        (receive recoverAddressFromMsg msg (t.withMessages messages)).2 ∧
      (handled s (OracleConnection.receive recoverAddressFromMsg msg
        (t.withMessages messages)).2).getLast? = some msg := by
  obtain ⟨taken, htaken, hsigners⟩ := h.taken
  have hconn := conn_receive recoverAddressFromMsg msg (t.withMessages messages)
  have htaken' : s.conn.queue = (taken ++ [msg]) ++ messages := by
    rw [htaken, List.append_assoc]; rfl
  refine ⟨⟨by rw [hconn]; rfl, by rw [hconn]; exact h.closed, taken ++ [msg], htaken', ?_⟩, ?_⟩
  · intro id
    have hsigner : signers recoverAddressFromMsg id [msg] =
        (attests recoverAddressFromMsg id msg).toList := by
      rw [signers]
      rcases hattests : attests recoverAddressFromMsg id msg with _ | a
      · rw [List.filterMap_cons_none hattests]; rfl
      · rw [List.filterMap_cons_some hattests]; rfl
    rw [attestationsOf_receive, signers_append, hsigner, ← List.append_assoc, ← hsigners]
    rfl
  · rw [handled_eq (htaken'.trans (congrArg _ (by rw [hconn]; rfl))), List.getLast?_append]
    rfl

/-- What a poll did when it ended with this turn. -/
theorem Turn.polls {polled : Polled} (h : Turn recoverAddressFromMsg s messages t)
    (hreply : ∀ reply, polled = .ready (some reply) →
      reply.head? = some OracleProtoMessageId.attestations.toByte →
      ∃ id, repliedId s t = some id ∧
        reply = (OracleProtoMessage.attestations (t.attestationsOf id)).encoded) :
    Polls recoverAddressFromMsg s polled t := by
  obtain ⟨taken, htaken, hsigners⟩ := h.taken
  have heq : s.conn.queue = taken ++ t.conn.queue := h.queue ▸ htaken
  refine ⟨by rw [handled_eq heq, ← heq], h.closed, ?_, hreply⟩
  rw [handled_eq heq]
  exact hsigners

end

theorem pollLoop_polls (s : OracleConnection) :
    Polls recoverAddressFromMsg s (pollLoop recoverAddressFromMsg s.conn.queue s).1
      (pollLoop recoverAddressFromMsg s.conn.queue s).2 := by
  refine pollLoop_rule
    (P := fun messages t => Turn recoverAddressFromMsg s messages t ∧
      t.commands.queue = s.commands.queue)
    (Q := Polls recoverAddressFromMsg s) ?_ ?_ ?_ ?_ ?_ ⟨.start s, rfl⟩
  · rintro messages t polled ⟨h, hcommands⟩ hlocal
    refine h.pollLocal.polls ?_
    rintro reply rfl hhead
    obtain ⟨id, sender, rest, hnext, heq⟩ := pollLocal_reply hlocal hhead
    refine ⟨id, by rw [repliedId, ← hcommands, hnext], ?_⟩
    rw [heq, attestationsOf, attestationsOf, attestations_pollLocal]
  · rintro t ⟨h, _⟩ _
    refine h.pollLocal.polls fun reply hready => ?_
    cases hready
  · rintro t ⟨h, _⟩ _
    apply Turn.polls
    · exact h.pollLocal.frame rfl rfl rfl
    · intro reply hready
      cases hready
  · rintro msg messages t ⟨h, hcommands⟩ hlocal _
    refine ⟨h.pollLocal.receive.1, ?_⟩
    obtain ⟨-, commands, signedTicks, hnil, -, heq⟩ := pollLocal_of_nil (commands_of_pollLocal hlocal)
    rw [commands_receive, heq, ← hcommands, commands_of_pollLocal hlocal]
    exact hnil
  · rintro msg messages t polled ⟨h, hcommands⟩ hlocal hreceive
    obtain ⟨hturn, hlast⟩ := h.pollLocal.receive
    refine hturn.polls ?_
    rintro reply rfl hhead
    obtain ⟨signedData, hcarried, heq⟩ := receive_reply hreceive hhead
    refine ⟨signedData.id, ?_, heq⟩
    rw [repliedId, ← hcommands, commands_of_pollLocal hlocal]
    simp only [hlast, Option.bind_some, hcarried, Option.map_some]

variable (recoverAddressFromMsg) in
/-- A connection that starts with a ping sends it first. -/
theorem pollNext_polls {s : OracleConnection} (h : ∀ ping ∈ s.initialPing, ping = .ping) :
    Polls recoverAddressFromMsg s (s.pollNext recoverAddressFromMsg).1
      (s.pollNext recoverAddressFromMsg).2 := by
  rw [pollNext]
  rcases hping : s.initialPing with _ | ping
  · exact pollLoop_polls s
  · obtain rfl := h ping hping
    refine Turn.polls ((Turn.start s).frame rfl rfl rfl) fun reply hready hhead => ?_
    obtain rfl := Option.some.inj (Polled.ready.inj hready)
    exact absurd hhead (by decide)

end OracleConnection

/-! ## Runs -/

/-- These are the messages of the peer that were handled: those it has sent, up to
    those in the queue and those that came after the connection was closed. -/
def Handled (messages : List Bytes) (s : Session) : Prop :=
  messages ++ s.connection.conn.queue <+: s.received ∧
    (s.connection.conn.closed = false → messages ++ s.connection.conn.queue = s.received)

/-- The ping to send, if it was not sent yet, is one. -/
theorem initialPing_eq {s : Session} (hs : (sessions recoverAddressFromMsg).Reachable s) :
    ∀ ping ∈ s.connection.initialPing, ping = .ping := by
  refine hs.invariant (I := fun s => ∀ ping ∈ s.connection.initialPing, ping = .ping) ?_ ?_
  · rintro s ⟨_ | _, rfl⟩ ping h
    · cases h
    · exact (Option.some.inj h).symm
  rintro s e s' _ hping _ ⟨_, rfl⟩
  rcases e with msg | _ | c | _ | item | _ | _
  · exact hping
  · exact hping
  · exact hping
  · exact hping
  · exact hping
  · exact hping
  · exact OracleConnection.ping_pollNext hping

/-- What has been recorded is what the messages that were handled attest. -/
theorem handled_of_reachable {s : Session} (hs : (sessions recoverAddressFromMsg).Reachable s) :
    ∃ messages, Handled messages s ∧
      ∀ id, s.connection.attestationsOf id = signers recoverAddressFromMsg id messages := by
  refine hs.invariant (I := fun s => ∃ messages, Handled messages s ∧
    ∀ id, s.connection.attestationsOf id = signers recoverAddressFromMsg id messages) ?_ ?_
  · rintro s ⟨outgoing, rfl⟩
    exact ⟨[], ⟨List.nil_prefix, fun _ => rfl⟩, fun _ => rfl⟩
  rintro s e s' hr ⟨messages, hhandled, hsigners⟩ _ ⟨_, rfl⟩
  rcases e with msg | _ | c | _ | item | _ | _
  · refine ⟨messages, ?_, hsigners⟩
    rw [Handled]
    simp only [Session.act, Channel.send]
    split_ifs with hclosed
    · -- Nobody reads the message.
      exact ⟨hhandled.1.trans (List.prefix_append _ _), fun h => absurd hclosed (by simp [h])⟩
    · have heq := hhandled.2 (Bool.eq_false_iff.2 hclosed)
      rw [← List.append_assoc, heq]
      exact ⟨List.prefix_rfl, fun _ => rfl⟩
  · refine ⟨messages, ⟨hhandled.1, fun h => ?_⟩, hsigners⟩
    cases h
  · exact ⟨messages, hhandled, hsigners⟩
  · exact ⟨messages, hhandled, hsigners⟩
  · exact ⟨messages, hhandled, hsigners⟩
  · exact ⟨messages, hhandled, hsigners⟩
  · have hpolls := OracleConnection.pollNext_polls recoverAddressFromMsg (initialPing_eq hr)
    refine ⟨messages ++ s.connection.handled (s.act recoverAddressFromMsg .poll).connection,
      ?_, ?_⟩
    · have hqueue : messages ++ s.connection.conn.queue =
          messages ++ s.connection.handled (s.act recoverAddressFromMsg .poll).connection ++
            (s.act recoverAddressFromMsg .poll).connection.conn.queue := by
        rw [List.append_assoc]
        exact congrArg _ hpolls.queue
      exact ⟨hqueue ▸ hhandled.1, fun h => hqueue ▸ hhandled.2 (hpolls.closed ▸ h)⟩
    · intro id
      rw [signers_append, ← hsigners]
      exact hpolls.attestations id

/-- The attestations of a connection count the messages of the peer that were handled. -/
structure Counted (recoverAddressFromMsg : Signature → Bytes → Option Address)
    (messages : List Bytes) (s : Session) : Prop where
  handled : Handled messages s
  /-- Each of them that attests under an id is an entry there. -/
  attestations : ∀ id, s.connection.attestationsOf id = signers recoverAddressFromMsg id messages
  /-- No address is twice there iff no two of them attest the same. -/
  nodup : ∀ id, (s.connection.attestationsOf id).Nodup ↔
    AttestOnce recoverAddressFromMsg id messages
  /-- A reply of attestations has one for each of them that attests. -/
  reply : ∀ reply, (s.connection.pollNext recoverAddressFromMsg).1 = .ready (some reply) →
    reply.head? = some OracleProtoMessageId.attestations.toByte →
    ∃ id attestations,
      s.connection.repliedId (s.connection.pollNext recoverAddressFromMsg).2 = some id ∧
      reply = (OracleProtoMessage.attestations attestations).encoded ∧
      attestations.length =
        (messages ++ s.connection.handled (s.connection.pollNext recoverAddressFromMsg).2).countP
          fun msg => (attests recoverAddressFromMsg id msg).isSome

/-- In every reachable state, the attestations count the messages, and not the
    signers. -/
theorem attestations_counted {s : Session} (hs : (sessions recoverAddressFromMsg).Reachable s) :
    ∃ messages, Counted recoverAddressFromMsg messages s := by
  obtain ⟨messages, hhandled, hsigners⟩ := handled_of_reachable hs
  have hpolls := OracleConnection.pollNext_polls recoverAddressFromMsg (initialPing_eq hs)
  refine ⟨messages, hhandled, hsigners, fun id => ?_, fun reply hready hhead => ?_⟩
  · rw [hsigners, nodup_signers_iff]
  · obtain ⟨id, hid, hreply⟩ := hpolls.reply reply hready hhead
    refine ⟨id, _, hid, hreply, ?_⟩
    rw [hpolls.attestations, hsigners, ← signers_append, length_signers]

theorem reachable_attested : (sessions tickerRecover).Reachable (attested honest) :=
  (reachableBy_attested (Q := fun _ => True) trivial).reachable

/-- The session once the message came again, and it was polled. -/
def attestedTwice : Session :=
  ((attested honest).act tickerRecover (.message (tickerMessage honest))).act tickerRecover .poll

theorem reachable_attestedTwice : (sessions tickerRecover).Reachable attestedTwice := by
  have hsent : (sessions tickerRecover).Reachable
      ((attested honest).act tickerRecover (.message (tickerMessage honest))) :=
    .step reachable_attested (e := .message (tickerMessage honest)) trivial ⟨nofun, rfl⟩
  exact .step hsent (e := .poll) trivial ⟨fun _ => by decide +kernel, rfl⟩

theorem attestedTwice_counted : ∃ messages, Counted tickerRecover messages attestedTwice :=
  attestations_counted reachable_attestedTwice

/-- A signer is twice among the attestations when its message comes twice. -/
theorem attests_twice :
    ¬∀ s, (sessions tickerRecover).Reachable s → ∀ id, (s.connection.attestationsOf id).Nodup := by
  intro h
  have htwice : attestedTwice.connection.attestationsOf tickerHash = [tickerSigner, tickerSigner] := by
    decide +kernel
  have hnodup := h attestedTwice reachable_attestedTwice tickerHash
  rw [htwice] at hnodup
  exact absurd hnodup (by decide)

end ExEx.Oracle
