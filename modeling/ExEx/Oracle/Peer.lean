import ExEx.Oracle.Connection

/-!
# What a peer can do to a connection

A peer may send any byte strings. Two things go wrong with some of them.

* A connection records an attestation under the id that the signed ticker names,
  and never compares it with the hash of the ticker. A peer can have attestations
  of a ticker recorded under any id (`authentic`, `forged_attestation`).
* The conversion of the signature of a signed ticker is unwrapped, so a signature
  that is not one makes the poll panic (`poll_ne_panic`, `short_signature_panics`).
-/

namespace ExEx.Oracle

open Reth (Signature)

/-- The signed ticker in a message, if it carries one. -/
def carried (msg : Bytes) : Option SignedTicker :=
  match OracleProtoMessage.decodeMessage msg with
  | some (⟨_, .signedTicker signedData⟩, _) => some signedData
  | _ => none

section

variable (keccak256 : Bytes → B256) (recoverAddressFromMsg : Signature → Bytes → Option Address)

/-- The address a signed ticker was signed by, if its signature is one. -/
def signedBy (signedData : SignedTicker) : Option Address :=
  (Signature.tryFrom signedData.signature).bind fun sig =>
    recoverAddressFromMsg sig signedData.ticker.encode

/-- Every attestation is of a signer who signed a ticker with that id, and the
    peer has sent it. -/
def Authentic (received : List Bytes) (s : OracleConnection) : Prop :=
  ∀ id, ∀ a ∈ s.attestationsOf id, ∃ msg ∈ received, ∃ signedData, carried msg = some signedData ∧
    keccak256 signedData.ticker.encode = id ∧
    signedBy recoverAddressFromMsg signedData = some a

/-- A signed ticker in the message, if its signer signed it, has its own id. -/
def HonestId (msg : Bytes) : Prop :=
  ∀ signedData, carried msg = some signedData →
    signedBy recoverAddressFromMsg signedData = some signedData.signer →
    signedData.id = keccak256 signedData.ticker.encode

/-- The message carries a ticker whose signature is not one. -/
def Malformed (msg : Bytes) : Prop :=
  ∃ signedData, carried msg = some signedData ∧ Signature.tryFrom signedData.signature = none

/-- Messages meet `Q`. -/
def Messages (Q : Bytes → Prop) (_ : Session) (e : Event) : Prop := ∀ msg, e = .message msg → Q msg

end

variable {keccak256 : Bytes → B256} {recoverAddressFromMsg : Signature → Bytes → Option Address}

namespace OracleConnection

/-! ## What a message does -/

variable (recoverAddressFromMsg) in
/-- A signed ticker is recorded under its id when its signer signed it. -/
theorem attestations_attest (signedData : SignedTicker) (s : OracleConnection) :
    (attest recoverAddressFromMsg signedData s).2.attestations =
      if signedBy recoverAddressFromMsg signedData = some signedData.signer then
        s.attestations.put signedData.id (s.attestationsOf signedData.id ++ [signedData.signer])
      else s.attestations := by
  rw [attest, signedBy]
  rcases Signature.tryFrom signedData.signature with _ | sig
  · simp
  · rcases hrecovered : recoverAddressFromMsg sig signedData.ticker.encode with _ | addr
    · simp [hrecovered]
    · by_cases haddr : addr = signedData.signer <;> simp [hrecovered, haddr]

variable (recoverAddressFromMsg) in
/-- Only signed tickers are recorded. -/
theorem attestations_receive (msg : Bytes) (s : OracleConnection) :
    (receive recoverAddressFromMsg msg s).2.attestations = s.attestations ∨
      ∃ signedData, carried msg = some signedData ∧
        signedBy recoverAddressFromMsg signedData = some signedData.signer ∧
        (receive recoverAddressFromMsg msg s).2.attestations =
          s.attestations.put signedData.id
            (s.attestationsOf signedData.id ++ [signedData.signer]) := by
  rw [receive, carried]
  rcases OracleProtoMessage.decodeMessage msg with _ | ⟨⟨messageType, message⟩, rest⟩
  · exact .inl rfl
  rcases message with _ | _ | signedData | attestations
  · exact .inl rfl
  · exact .inl rfl
  · have hattest := attestations_attest recoverAddressFromMsg signedData s
    split_ifs at hattest with hsigned
    · exact .inr ⟨signedData, rfl, hsigned, hattest⟩
    · exact .inl hattest
  · refine .inl ?_
    simp only [answer]
    split <;> rfl

variable (recoverAddressFromMsg) in
/-- Handling a message panics iff it is malformed. -/
theorem receive_eq_panic_iff {msg : Bytes} {s : OracleConnection} :
    (receive recoverAddressFromMsg msg s).1 = some .panic ↔ Malformed msg := by
  simp only [receive, Malformed, carried]
  rcases OracleProtoMessage.decodeMessage msg with _ | ⟨⟨messageType, message⟩, rest⟩
  · simp
  rcases message with _ | _ | signedData | attestations
  · simp
  · simp
  · -- The conversion is the only step that can panic: the recovery is matched on.
    simp only [Option.some.injEq, exists_eq_left', attest]
    rcases Signature.tryFrom signedData.signature with _ | sig
    · simp
    · rcases hrecovered : recoverAddressFromMsg sig signedData.ticker.encode with _ | addr <;>
        simp [hrecovered]
  · simp

/-- A poll does not panic unless a message of the peer is malformed. -/
theorem pollLoop_ne_panic {messages : List Bytes} (hm : ∀ msg ∈ messages, ¬Malformed msg)
    (s : OracleConnection) : (pollLoop recoverAddressFromMsg messages s).1 ≠ .panic := by
  refine pollLoop_rule (P := fun messages _ => ∀ msg ∈ messages, ¬Malformed msg)
    (Q := fun polled _ => polled ≠ .panic) ?_ ?_ ?_ ?_ ?_ hm
  · rintro _ s polled _ hlocal rfl
    exact pollLocal_ne_panic s hlocal
  · exact fun _ _ _ => Polled.noConfusion
  · exact fun _ _ _ => Polled.noConfusion
  · exact fun _ _ _ h _ _ m hmem => h m (List.mem_cons_of_mem _ hmem)
  · rintro msg _ _ polled h _ hreceive rfl
    exact h msg List.mem_cons_self ((receive_eq_panic_iff recoverAddressFromMsg).1 hreceive)

theorem pollNext_ne_panic {s : OracleConnection} (hm : ∀ msg ∈ s.conn.queue, ¬Malformed msg) :
    (s.pollNext recoverAddressFromMsg).1 ≠ .panic := by
  rw [pollNext]
  split
  · exact Polled.noConfusion
  · exact pollLoop_ne_panic hm s

/-- Nothing is to be done, until a message comes. -/
structure Idle (s : OracleConnection) : Prop where
  ping : s.initialPing = none
  commands : s.commands.queue = []
  ticks : s.signedTicks.queue = []
  messages : s.conn.queue = []
  connected : s.conn.closed = false

/-- Nothing local is ready when there is no command and no ticker. -/
theorem pollLocal_of_queue {s : OracleConnection} (hc : s.commands.queue = [])
    (ht : s.signedTicks.queue = []) : s.pollLocal.1 = none := by
  rw [pollLocal]
  simp only [Channel.pollNext, hc]
  split_ifs <;> (simp only [pollTicks, Channel.pollNext, ht]; split_ifs <;> rfl)

variable (recoverAddressFromMsg) in
theorem pollLoop_of_malformed {msg : Bytes} (hm : Malformed msg) (messages : List Bytes)
    {s : OracleConnection} (hs : s.pollLocal.1 = none) :
    (pollLoop recoverAddressFromMsg (msg :: messages) s).1 = .panic := by
  rw [pollLoop]
  rcases hp : s.pollLocal with ⟨_ | polled, s₁⟩ <;> rw [hp] at hs
  · have hr := (receive_eq_panic_iff recoverAddressFromMsg
      (s := { s₁ with conn := ⟨messages, s₁.conn.closed, false⟩ })).2 hm
    simp only
    rcases hq : receive recoverAddressFromMsg msg
      { s₁ with conn := ⟨messages, s₁.conn.closed, false⟩ } with ⟨_ | polled, s₂⟩ <;> rw [hq] at hr
    · cases hr
    · exact Option.some.inj hr
  · cases hs

/-- An idle connection panics at the message that comes iff it is malformed. -/
theorem Idle.pollNext_send {s : OracleConnection} (h : s.Idle) (msg : Bytes) :
    ({ s with conn := s.conn.send msg }.pollNext recoverAddressFromMsg).1 = .panic ↔
      Malformed msg := by
  have hqueue : (s.conn.send msg).queue = [msg] := by
    simp [Channel.send, h.connected, h.messages]
  constructor
  · intro hpanic
    by_contra hm
    refine pollNext_ne_panic (fun m hmem => ?_) hpanic
    rw [show m = msg from List.mem_singleton.1 (hqueue ▸ hmem)]
    exact hm
  · intro hm
    have hloop := pollLoop_of_malformed recoverAddressFromMsg hm []
      (s := { s with conn := s.conn.send msg }) (pollLocal_of_queue h.commands h.ticks)
    rw [← hqueue] at hloop
    rw [pollNext]
    split
    · rename_i hping
      cases h.ping.symm.trans hping
    · exact hloop

end OracleConnection

/-! ## Runs -/

/-- A message in the queue is one that the peer sent. -/
theorem queue_sent {Q : Bytes → Prop} {s : Session}
    (hs : (sessions recoverAddressFromMsg).ReachableBy (Messages Q) s) :
    ∀ msg ∈ s.connection.conn.queue, msg ∈ s.received ∧ Q msg := by
  refine hs.invariant
    (I := fun s => ∀ msg ∈ s.connection.conn.queue, msg ∈ s.received ∧ Q msg) ?_ ?_
  · rintro s ⟨outgoing, rfl⟩
    exact nofun
  rintro s e s' _ hq hmsg ⟨_, rfl⟩
  rcases e with msg | _ | c | _ | item | _ | _
  · intro m hm
    simp only [Session.act, Channel.send] at hm ⊢
    split_ifs at hm
    · exact ⟨List.mem_append_left _ (hq m hm).1, (hq m hm).2⟩
    · rcases List.mem_append.1 hm with hm | hm
      · exact ⟨List.mem_append_left _ (hq m hm).1, (hq m hm).2⟩
      · obtain rfl := List.mem_singleton.1 hm
        exact ⟨List.mem_append_right _ hm, hmsg m rfl⟩
  · exact hq
  · exact hq
  · exact hq
  · exact hq
  · exact hq
  · exact fun m hm => hq m ((OracleConnection.queue_pollNext s.connection).subset hm)

/-- More messages do not invalidate an attestation. -/
theorem Authentic.mono {received received' : List Bytes} {s : OracleConnection}
    (h : Authentic keccak256 recoverAddressFromMsg received s) (hr : received ⊆ received') :
    Authentic keccak256 recoverAddressFromMsg received' s := fun id a ha =>
  have ⟨msg, hmsg, hd⟩ := h id a ha
  ⟨msg, hr hmsg, hd⟩

/-- A message the peer sent, whose signed ticker has its own id, leaves the
    attestations authentic. -/
theorem Authentic.receive {received : List Bytes} {s : OracleConnection}
    (h : Authentic keccak256 recoverAddressFromMsg received s) {msg : Bytes} (hmsg : msg ∈ received)
    (hid : HonestId keccak256 recoverAddressFromMsg msg) :
    Authentic keccak256 recoverAddressFromMsg received
      (s.receive recoverAddressFromMsg msg).2 := by
  intro id a ha
  rw [OracleConnection.attestationsOf] at ha
  rcases OracleConnection.attestations_receive recoverAddressFromMsg msg s
    with heq | ⟨signedData, hd, hsigned, heq⟩ <;> rw [heq] at ha
  · exact h id a ha
  rw [Assoc.lookup_put] at ha
  split_ifs at ha with hkey
  · -- The list that changed: either its new last element, or one it had before.
    subst hkey
    rcases List.mem_append.1 ha with ha | ha
    · exact h _ a ha
    · rw [List.mem_singleton.1 ha]
      exact ⟨msg, hmsg, signedData, hd, (hid signedData hd hsigned).symm, hsigned⟩
  · exact h id a ha

/-- Attestations are authentic in every run in which the peer sends no signed
    ticker, signed by the signer it names, under an id that is not its own. -/
theorem authentic {s : Session}
    (hs : (sessions recoverAddressFromMsg).ReachableBy
      (Messages (HonestId keccak256 recoverAddressFromMsg)) s) :
    Authentic keccak256 recoverAddressFromMsg s.received s.connection := by
  refine hs.invariant
    (I := fun s => Authentic keccak256 recoverAddressFromMsg s.received s.connection) ?_ ?_
  · rintro s ⟨outgoing, rfl⟩
    exact nofun
  rintro s e s' hr ha _ ⟨_, rfl⟩
  rcases e with msg | _ | c | _ | item | _ | _
  · exact Authentic.mono ha (List.subset_append_left _ _)
  · exact ha
  · exact ha
  · exact ha
  · exact ha
  · exact ha
  · -- Only the messages of the peer change the attestations.
    refine OracleConnection.pollNext_invariant
      (P := Authentic keccak256 recoverAddressFromMsg s.received) ?_ ?_ ?_ ?_ ha
    · exact fun _ h => h
    · intro c h id a hc
      rw [OracleConnection.attestationsOf, OracleConnection.attestations_pollLocal] at hc
      exact h id a hc
    · exact fun _ _ h => h
    · exact fun msg hmsg c h => h.receive (queue_sent hr msg hmsg).1 (queue_sent hr msg hmsg).2

/-- No poll panics in a run in which the peer sends no malformed message, and an
    idle connection panics at each malformed one. -/
theorem poll_ne_panic {s : Session}
    (hs : (sessions recoverAddressFromMsg).ReachableBy (Messages fun msg => ¬Malformed msg) s) :
    (s.connection.pollNext recoverAddressFromMsg).1 ≠ .panic ∧
      (s.connection.Idle → ∀ msg,
        ((s.act recoverAddressFromMsg (.message msg)).connection.pollNext recoverAddressFromMsg).1 =
            .panic ↔ Malformed msg) :=
  ⟨OracleConnection.pollNext_ne_panic fun msg hmsg => (queue_sent hs msg hmsg).2,
    fun hidle msg => hidle.pollNext_send msg⟩

/-! ### A signed ticker -/

/-- The text `1.0`. -/
def price : Utf8 := ⟨[0x31, 0x2e, 0x30], rfl⟩

/-- A ticker of `BTCUSDT`. -/
def ticker : Ticker where
  eventType := ⟨[0x32, 0x34, 0x68, 0x72, 0x54, 0x69, 0x63, 0x6b, 0x65, 0x72], rfl⟩
  eventTime := 1622548800000
  symbol := ⟨[0x42, 0x54, 0x43, 0x55, 0x53, 0x44, 0x54], rfl⟩
  priceChange := price
  priceChangePercent := price
  weightedAvgPrice := price
  prevClosePrice := price
  lastPrice := price
  lastQuantity := price
  bestBidPrice := price
  bestBidQuantity := price
  bestAskPrice := price
  bestAskQuantity := price
  openPrice := price
  highPrice := price
  lowPrice := price
  volume := price
  quoteVolume := price
  openTime := 1622462400000
  closeTime := 1622548800000
  firstTradeId := 100000
  lastTradeId := 100100
  numTrades := 100

/-- The hash of its encoding. -/
def tickerHash : B256 :=
  ⟨[0x4e, 0x4b, 0x62, 0x0b, 0x9e, 0xe8, 0x92, 0x1c, 0x0a, 0xea, 0x94, 0xf0, 0xfa, 0x89, 0x4a,
    0xc1, 0xea, 0xb8, 0xf6, 0x35, 0xbc, 0x33, 0xf3, 0xcd, 0x5d, 0x0c, 0xb2, 0x19, 0x2d, 0x49,
    0x28, 0xf4],
    rfl⟩

/-- The address of the key `1`. -/
def tickerSigner : Address :=
  ⟨[0x7e, 0x5f, 0x45, 0x52, 0x09, 0x1a, 0x69, 0x12, 0x5d, 0x5d, 0xfc, 0xb7, 0xb8, 0xc2, 0x65,
    0x90, 0x29, 0x39, 0x5b, 0xdf],
    rfl⟩

/-- A signature of the ticker by the key `1`. -/
def tickerSignature : Signature where
  r := 0xbd7d29aa8f98aa713bac4e52c80dcb1c4cc617850b8535650dd4a0e986be7199
  s := 0x0d95899c922284ca7ca00e0e2d93994daf884d1657bdfebd19463d44a877c49f
  yParity := true

/-- The hash function, at the ticker. -/
def tickerKeccak256 (b : Bytes) : B256 := if b = ticker.encode then tickerHash else .zero

/-- The recovery, at the ticker and its signature. -/
def tickerRecover (sig : Signature) (b : Bytes) : Option Address :=
  if sig = tickerSignature ∧ b = ticker.encode then some tickerSigner else none

/-- The signed ticker of an honest signer. -/
def honest : SignedTicker := .new tickerKeccak256 ticker tickerSignature tickerSigner

/-- The message of a signed ticker. -/
def tickerMessage (signedData : SignedTicker) : Bytes :=
  (OracleProtoMessage.signedTicker signedData).encoded

/-- A session whose peer has sent a signed ticker. -/
def sent (signedData : SignedTicker) : Session :=
  (Session.start false).act tickerRecover (.message (tickerMessage signedData))

/-- The session once it was polled. -/
def attested (signedData : SignedTicker) : Session := (sent signedData).act tickerRecover .poll

theorem reachableBy_sent {Q : Bytes → Prop} {signedData : SignedTicker}
    (h : Q (tickerMessage signedData)) :
    (sessions tickerRecover).ReachableBy (Messages Q) (sent signedData) :=
  .step (.init ⟨false, rfl⟩) (e := .message (tickerMessage signedData))
    (fun _ hmsg => Event.message.inj hmsg ▸ h) ⟨nofun, rfl⟩

theorem reachableBy_attested {Q : Bytes → Prop} {signedData : SignedTicker}
    (h : Q (tickerMessage signedData)) :
    (sessions tickerRecover).ReachableBy (Messages Q) (attested signedData) :=
  .step (reachableBy_sent h) (e := .poll) nofun ⟨fun _ => rfl, rfl⟩

/-- Under another id, a signed ticker is recorded all the same. -/
theorem forged_attestation :
    (sessions tickerRecover).Reachable (attested { honest with id := .zero }) ∧
      (attested { honest with id := .zero }).connection.attestationsOf .zero = [tickerSigner] ∧
      ∀ keccak256, keccak256 ticker.encode = tickerHash →
        ¬Authentic keccak256 tickerRecover (attested { honest with id := .zero }).received
          (attested { honest with id := .zero }).connection := by
  have hattested : (attested { honest with id := .zero }).connection.attestationsOf .zero =
      [tickerSigner] := by decide +kernel
  refine ⟨(reachableBy_attested (Q := fun _ => True) trivial).reachable, hattested, ?_⟩
  intro keccak256 hkeccak h
  obtain ⟨msg, hmsg, signedData, hd, hhash, _⟩ :=
    h .zero tickerSigner (hattested ▸ List.mem_singleton_self _)
  -- The only ticker sent has another hash.
  have hsent : (attested { honest with id := .zero }).received =
      [tickerMessage { honest with id := .zero }] := by decide +kernel
  rw [hsent, List.mem_singleton] at hmsg
  have hcarried : carried (tickerMessage { honest with id := .zero }) =
      some { honest with id := .zero } := by decide +kernel
  rw [hmsg, hcarried] at hd
  obtain rfl := Option.some.inj hd
  exact absurd (hkeccak.symm.trans hhash) (by decide +kernel)

/-- Under its own id, its attestation is authentic. -/
theorem authentic_attested :
    (attested honest).connection.attestationsOf tickerHash = [tickerSigner] ∧
      Authentic tickerKeccak256 tickerRecover (attested honest).received
        (attested honest).connection := by
  refine ⟨by decide +kernel, authentic (reachableBy_attested fun signedData hd _ => ?_)⟩
  have hcarried : carried (tickerMessage honest) = some honest := by decide +kernel
  rw [hcarried] at hd
  obtain rfl := Option.some.inj hd
  exact SignedTicker.id_new _ _ _ _

/-- A ticker with an empty signature makes the poll panic. -/
theorem short_signature_panics :
    (sessions tickerRecover).Reachable (sent { honest with signature := [] }) ∧
      (sent { honest with signature := [] }).ended = false ∧
      ((sent { honest with signature := [] }).connection.pollNext tickerRecover).1 = .panic :=
  ⟨(reachableBy_sent (Q := fun _ => True) trivial).reachable, rfl, by decide +kernel⟩

/-- A ticker with a signature does not. -/
theorem poll_attested_ne_panic :
    ((attested honest).connection.pollNext tickerRecover).1 ≠ .panic ∧
      ((attested honest).connection.Idle → ∀ msg,
        (((attested honest).act tickerRecover (.message msg)).connection.pollNext tickerRecover).1 =
            .panic ↔ Malformed msg) := by
  refine poll_ne_panic (reachableBy_attested ?_)
  rintro ⟨signedData, hd, hnone⟩
  have hcarried : carried (tickerMessage honest) = some honest := by decide +kernel
  rw [hcarried] at hd
  obtain rfl := Option.some.inj hd
  exact absurd hnone (by decide +kernel)

end ExEx.Oracle
