import ExEx.Oracle.Binance

/-!
# The signed tickers of an oracle

An oracle takes the tickers of its feed until there is none, signs each of them and
sends it to its connections. It ends when signing fails, or the feed does.

In every run, what it sends are the tickers of each socket up to its first error, in
order, each once, and each with a signature that recovers to the oracle and the hash of
the ticker as its id (`broadcast_signed`). The loop of a poll ends (`ends_pollFeed`).
-/

namespace ExEx.Oracle

open Reth (Signature)

/-! ## Signers -/

/-- A signature is read back from its bytes. -/
theorem Signature.tryFrom_asBytes (signature : Signature) :
    Signature.tryFrom (Signature.asBytes signature) = some signature := by
  have hword (x : U256) (before after : Bytes) :
      wordAt (before ++ (B256.ofU256 x).toVec ++ after) before.length = x := by
    rw [wordAt, List.append_assoc, List.drop_left, List.take_left' (B256.ofU256 x).length_toVec,
      B256.ofU256, List.reverse_reverse, leValue_toLeBytes_of_lt x.isLt, BitVec.ofNat_toNat,
      BitVec.setWidth_eq]
  have hr : wordAt (Signature.asBytes signature) 0 = signature.r := by
    rw [Signature.asBytes, List.append_assoc]
    exact hword signature.r [] _
  have hs : wordAt (Signature.asBytes signature) 32 = signature.s := by
    have hs := hword signature.s (B256.ofU256 signature.r).toVec
      [if signature.yParity then 28 else 27]
    rwa [(B256.ofU256 signature.r).length_toVec] at hs
  have hlength : (Signature.asBytes signature).length = 65 := by
    rw [Signature.asBytes, List.length_append, List.length_append, FixedBytes.length_toVec,
      FixedBytes.length_toVec, List.length_singleton]
  have hlast : (Signature.asBytes signature).getD 64 0 = if signature.yParity then 28 else 27 := by
    have hwords : ((B256.ofU256 signature.r).toVec ++ (B256.ofU256 signature.s).toVec).length =
        64 := by
      rw [List.length_append, FixedBytes.length_toVec, FixedBytes.length_toVec]
    rw [Signature.asBytes, List.getD_eq_getElem?_getD, List.getElem?_append_right hwords.le, hwords]
    rfl
  rw [Signature.tryFrom, if_pos hlength, hr, hs, hlast]
  rcases signature with ⟨r, s, _ | _⟩ <;> rfl

/-- The key of an oracle: the messages it signs recover to its address. -/
structure PrivateKeySigner (recoverAddressFromMsg : Signature → Bytes → Option Address) where
  address : Address
  signMessageSync : Bytes → Except Error Signature
  recovers : ∀ b signature, signMessageSync b = .ok signature →
    recoverAddressFromMsg signature b = some address

section

variable {recoverAddressFromMsg : Signature → Bytes → Option Address} (keccak256 : Bytes → B256)
  (signer : PrivateKeySigner recoverAddressFromMsg)

/-- The signed ticker that the oracle sends for a ticker. -/
def PrivateKeySigner.sign (ticker : Ticker) : Except Error SignedTicker :=
  (signer.signMessageSync ticker.encode).map fun signature =>
    .new keccak256 ticker signature signer.address

/-- A signed ticker says what it should: it is for the ticker, by the signer, who has
    signed it, and with the hash of the ticker. -/
def Attests (ticker : Ticker) (signedData : SignedTicker) : Prop :=
  signedData.ticker = ticker ∧ signedData.id = keccak256 ticker.encode ∧
    signedData.signer = signer.address ∧
    signedBy recoverAddressFromMsg signedData = some signer.address

theorem PrivateKeySigner.attests_of_sign {ticker : Ticker} {signedData : SignedTicker}
    (h : signer.sign keccak256 ticker = .ok signedData) :
    Attests keccak256 signer ticker signedData := by
  rw [sign] at h
  rcases hsign : signer.signMessageSync ticker.encode with e | signature <;> rw [hsign] at h
  · cases h
  · obtain rfl := Except.ok.inj h
    refine ⟨rfl, rfl, rfl, ?_⟩
    simp only [Oracle.signedBy, SignedTicker.new, Signature.tryFrom_asBytes, Option.bind_some]
    exact signer.recovers _ _ hsign

end

/-! ## The feed of the oracle -/

/-- The data of a feed. -/
inductive DataFeeds
  | binance (ticker : Ticker)

inductive DataFeederError (ε : Type)
  | binance (e : BinanceDataFeederError ε)

structure DataFeederStream (ε μ : Type) where
  binance : BinanceConnection ε μ

/-- Why a poll of the oracle fails. -/
inductive OracleError (ε : Type)
  | signer (e : Error)
  | feed (e : DataFeederError ε)

section

variable {ε μ : Type} (intoText : μ → Option Text) (fromStr : Text → Option BinanceResponse)

def DataFeederStream.pollNext (fresh : Option (Attempt ε μ)) (s : DataFeederStream ε μ) :
    Poll (Option (Except (DataFeederError ε) DataFeeds)) × DataFeederStream ε μ :=
  match s.binance.pollNext intoText fromStr fresh with
  | (⟨.ready (some (.ok ticker)), _⟩, binance) =>
    (.ready (some (.ok (.binance ticker))), ⟨binance⟩)
  | (⟨.ready (some (.error e)), _⟩, binance) =>
    (.ready (some (.error (.binance e))), ⟨binance⟩)
  | (⟨.ready none, _⟩, binance) => (.ready none, ⟨binance⟩)
  | (⟨.pending, _⟩, binance) => (.pending, ⟨binance⟩)

variable {recoverAddressFromMsg : Signature → Bytes → Option Address} (keccak256 : Bytes → B256)
  (signer : PrivateKeySigner recoverAddressFromMsg)

/-- The feed of an oracle, and the signed tickers it has sent to its connections. -/
structure OracleFeed (ε μ : Type) where
  feed : Feed ε μ
  toPeers : List SignedTicker

/-- A turn of the loop over the feed. -/
def feedTurn (fresh : Option (Attempt ε μ)) (s : OracleFeed ε μ) :
    Turn (OracleFeed ε μ) (Except (OracleError ε) Unit × OracleFeed ε μ) :=
  let feed := s.feed.poll intoText fromStr fresh
  match (DataFeederStream.pollNext intoText fromStr fresh ⟨s.feed.connection⟩).1 with
  | .ready (some (.ok (.binance ticker))) =>
    match signer.sign keccak256 ticker with
    | .error e => .stop (.error (.signer e), { s with feed := feed })
    | .ok signedTicker => .again ⟨feed, s.toPeers ++ [signedTicker]⟩
  | .ready (some (.error e)) => .stop (.error (.feed e), { s with feed := feed })
  | .ready none => .stop (.ok (), { s with feed := feed })
  | .pending => .stop (.ok (), { s with feed := feed })

/-- Takes what the feed has. -/
def pollFeed (fresh : Option (Attempt ε μ)) :
    OracleFeed ε μ → ℕ → Option (Except (OracleError ε) Unit × OracleFeed ε μ) :=
  iterate (feedTurn intoText fromStr keccak256 signer fresh)

/-- An oracle, with whether it has failed. -/
structure SigningOracle (ε μ : Type) extends OracleFeed ε μ where
  failed : Bool

/-- An oracle whose feed is for some symbols. One that has failed is not polled. -/
def signing (symbols : List Text) : System (SigningOracle ε μ) (FeedEvent ε μ) where
  init s := (∃ socket, s.feed = .start symbols socket) ∧ s.toPeers = [] ∧ s.failed = false
  step s event s' :=
    match event with
    | .poll fresh => s.failed = false ∧ ∃ r,
      EndsWith (pollFeed intoText fromStr keccak256 signer fresh s.toOracleFeed) r ∧
        s' = ⟨r.2, r.1.toBool = false⟩
    | event => s.feed.Enabled event ∧
      s' = { s with feed := s.feed.act intoText fromStr event }

/-- What an oracle has sent: the tickers of each socket up to its first error, but for the
    one that it has failed to sign. -/
structure SigningOracle.Signed (symbols : List Text) (s : SigningOracle ε μ) : Prop where
  served : s.feed.Served intoText fromStr symbols
  sent : ∃ tickers unsigned, s.feed.answers.filterMap FeedItem.ticker = tickers ++ unsigned ∧
    List.Forall₂ (Attests keccak256 signer) tickers s.toPeers ∧ (s.failed = false → unsigned = [])
  failure : s.failed = false → s.feed.failure = false

/-! ## What a poll sends -/

/-- Where the loop is: everything the feed has answered is sent. -/
structure OracleFeed.Sent (symbols : List Text) (s : OracleFeed ε μ) : Prop where
  served : s.feed.Served intoText fromStr symbols
  failure : s.feed.failure = false
  sent : List.Forall₂ (Attests keccak256 signer) (s.feed.answers.filterMap FeedItem.ticker) s.toPeers

variable {intoText fromStr keccak256 signer}

/-- A turn, by what the connection of the feed answers. -/
theorem feedTurn_eq (fresh : Option (Attempt ε μ)) (s : OracleFeed ε μ) :
    feedTurn intoText fromStr keccak256 signer fresh s =
      match (s.feed.connection.pollNext intoText fromStr fresh).1.answer with
      | .ready (some (.ok ticker)) =>
        match signer.sign keccak256 ticker with
        | .error e =>
          .stop (.error (.signer e), { s with feed := s.feed.poll intoText fromStr fresh })
        | .ok signedTicker =>
          .again ⟨s.feed.poll intoText fromStr fresh, s.toPeers ++ [signedTicker]⟩
      | .ready (some (.error e)) =>
        .stop (.error (.feed (.binance e)), { s with feed := s.feed.poll intoText fromStr fresh })
      | _ => .stop (.ok (), { s with feed := s.feed.poll intoText fromStr fresh }) := by
  simp only [feedTurn, DataFeederStream.pollNext]
  rcases s.feed.connection.pollNext intoText fromStr fresh with
    ⟨⟨_ | _ | e | ticker, woken⟩, connection⟩ <;> rfl

variable (intoText fromStr) in
theorem Feed.answers_poll (fresh : Option (Attempt ε μ)) (s : Feed ε μ) :
    (s.poll intoText fromStr fresh).answers =
      s.answers ++ (s.connection.pollNext intoText fromStr fresh).1.answer.items := by
  rw [poll]
  split <;> rfl

variable {symbols : List Text} {fresh : Option (Attempt ε μ)} {s s' : OracleFeed ε μ}

variable (intoText fromStr fresh) in
/-- The tickers that the feed has answered after a poll, and whether it has failed. -/
theorem Feed.failure_poll {feed : Feed ε μ} (h : feed.failure = false)
    (hanswer : ∀ e, (feed.connection.pollNext intoText fromStr fresh).1.answer ≠
      .ready (some (.error e))) : (feed.poll intoText fromStr fresh).failure = false := by
  refine failure_eq_false_iff.2 fun e hmem => ?_
  rw [answers_poll] at hmem
  rcases List.mem_append.1 hmem with hmem | hmem
  · exact failure_eq_false_iff.1 h e hmem
  · rcases hpoll : (feed.connection.pollNext intoText fromStr fresh).1.answer with _ | item <;>
      rw [hpoll] at hmem
    · cases hmem
    · exact hanswer e (hpoll.trans (congrArg Poll.ready (List.mem_singleton.1 hmem).symm))

theorem OracleFeed.Sent.again (h : s.Sent intoText fromStr keccak256 signer symbols)
    (hturn : feedTurn intoText fromStr keccak256 signer fresh s = .again s') :
    s'.Sent intoText fromStr keccak256 signer symbols := by
  have hfailure := Feed.failure_poll intoText fromStr fresh h.failure
  have hanswers := s.feed.answers_poll intoText fromStr fresh
  rw [feedTurn_eq] at hturn
  rcases hanswer : (s.feed.connection.pollNext intoText fromStr fresh).1.answer with
    _ | _ | e | ticker <;> simp only [hanswer] at hturn hanswers hfailure
  · cases hturn
  · cases hturn
  · cases hturn
  rcases hsign : signer.sign keccak256 ticker with e | signedTicker <;> rw [hsign] at hturn <;>
    cases hturn
  refine ⟨h.served.poll h.failure fresh, hfailure (fun e heq => by cases heq), ?_⟩
  rw [hanswers, List.filterMap_append]
  exact List.rel_append h.sent (.cons (signer.attests_of_sign keccak256 hsign) .nil)

/-- A poll that has not failed has sent everything. -/
theorem OracleFeed.Sent.signed (h : s.Sent intoText fromStr keccak256 signer symbols)
    (failed : Bool) :
    SigningOracle.Signed intoText fromStr keccak256 signer symbols ⟨s, failed⟩ where
  served := h.served
  sent := ⟨_, [], (List.append_nil _).symm, h.sent, fun _ => rfl⟩
  failure _ := h.failure

theorem OracleFeed.Sent.stop (h : s.Sent intoText fromStr keccak256 signer symbols)
    {r : Except (OracleError ε) Unit × OracleFeed ε μ}
    (hturn : feedTurn intoText fromStr keccak256 signer fresh s = .stop r) :
    SigningOracle.Signed intoText fromStr keccak256 signer symbols ⟨r.2, r.1.toBool = false⟩ := by
  have hserved := h.served.poll h.failure fresh
  have hfailure := Feed.failure_poll intoText fromStr fresh h.failure
  have hanswers := s.feed.answers_poll intoText fromStr fresh
  rw [feedTurn_eq] at hturn
  rcases hanswer : (s.feed.connection.pollNext intoText fromStr fresh).1.answer with
    _ | _ | e | ticker <;> simp only [hanswer] at hturn hanswers hfailure
  · obtain rfl := Turn.stop.inj hturn
    refine OracleFeed.Sent.signed ⟨hserved, hfailure (fun e heq => by cases heq), ?_⟩ _
    rw [hanswers, List.filterMap_append]
    exact (List.append_nil _).symm ▸ h.sent
  · obtain rfl := Turn.stop.inj hturn
    refine OracleFeed.Sent.signed ⟨hserved, hfailure (fun e heq => by cases heq), ?_⟩ _
    rw [hanswers, List.filterMap_append]
    exact (List.append_nil _).symm ▸ h.sent
  · obtain rfl := Turn.stop.inj hturn
    refine ⟨hserved, ⟨_, [], ?_, h.sent, fun _ => rfl⟩, fun hfalse => by cases hfalse⟩
    rw [hanswers, List.filterMap_append]
    rfl
  · rcases hsign : signer.sign keccak256 ticker with e | signedTicker <;> rw [hsign] at hturn <;>
      cases hturn
    -- The ticker that could not be signed is not sent.
    refine ⟨hserved, ⟨_, [ticker], ?_, h.sent, fun hfalse => by cases hfalse⟩,
      fun hfalse => by cases hfalse⟩
    rw [hanswers, List.filterMap_append]
    rfl

theorem SigningOracle.Signed.step {s s' : SigningOracle ε μ} {event : FeedEvent ε μ}
    (h : s.Signed intoText fromStr keccak256 signer symbols)
    (hstep : (signing intoText fromStr keccak256 signer symbols).step s event s') :
    s'.Signed intoText fromStr keccak256 signer symbols := by
  rcases event with item | _ | attempt | _ | fresh
  · obtain ⟨henabled, rfl⟩ := hstep
    exact ⟨h.served.act _ henabled, h.sent, h.failure⟩
  · obtain ⟨henabled, rfl⟩ := hstep
    exact ⟨h.served.act _ henabled, h.sent, h.failure⟩
  · obtain ⟨henabled, rfl⟩ := hstep
    exact ⟨h.served.act _ henabled, h.sent, h.failure⟩
  · obtain ⟨henabled, rfl⟩ := hstep
    exact ⟨h.served.act _ henabled, h.sent, h.failure⟩
  · obtain ⟨hfailed, r, hends, rfl⟩ := hstep
    obtain ⟨tickers, unsigned, htickers, hsent, hunsigned⟩ := h.sent
    obtain rfl := hunsigned hfailed
    refine hends.rule (I := OracleFeed.Sent intoText fromStr keccak256 signer symbols)
      (Q := fun r => SigningOracle.Signed intoText fromStr keccak256 signer symbols
        ⟨r.2, r.1.toBool = false⟩) ?_ ?_ ⟨h.served, h.failure hfailed, ?_⟩
    · exact fun s s' hs hturn => hs.again hturn
    · exact fun s r hs hturn => hs.stop hturn
    · rw [htickers, List.append_nil]
      exact hsent

theorem SigningOracle.Signed.start {s : SigningOracle ε μ}
    (h : (signing intoText fromStr keccak256 signer symbols).init s) :
    s.Signed intoText fromStr keccak256 signer symbols := by
  obtain ⟨⟨_, _⟩, _⟩ := s
  obtain ⟨⟨socket, rfl⟩, rfl, rfl⟩ := h
  exact OracleFeed.Sent.signed ⟨Feed.Served.start socket, rfl, .nil⟩ _

/-- In every run, the oracle has sent the tickers of each socket up to its first error, in
    order, each with a signature of its own. -/
theorem broadcast_signed {s : SigningOracle ε μ}
    (hs : (signing intoText fromStr keccak256 signer symbols).Reachable s) :
    s.Signed intoText fromStr keccak256 signer symbols :=
  hs.invariant (fun _ => .start) fun _ _ _ _ h _ hstep => h.step hstep

/-! ## The end of a poll -/

/-- What a poll of a connection can take off its socket, or the one that is answered. -/
def BinanceConnection.size (fresh : Option (Attempt ε μ)) (s : BinanceConnection ε μ) : ℕ :=
  s.inner.inner.queue.length +
    match s.reconnection.bind fun future => future.answered fresh with
    | some (.ok socket) => socket.queue.length + 1
    | _ => 0

theorem BinanceConnection.length_pollInner {s : BinanceConnection ε μ} {ticker : Ticker}
    (h : (s.pollInner intoText fromStr).1.answer = .ready (some (.ok ticker))) :
    (s.pollInner intoText fromStr).2.reconnection = s.reconnection ∧
      (s.pollInner intoText fromStr).2.inner.inner.queue.length + 1 =
        s.inner.inner.queue.length := by
  rcases hqueue : s.inner.inner.queue with _ | ⟨e | msg, queue⟩
  · obtain ⟨inner, -, -, hanswer | hanswer⟩ :=
      BinanceConnection.pollInner_nil intoText fromStr hqueue <;>
      rw [hanswer] at h <;> cases h
  · rw [BinanceConnection.pollInner_error hqueue] at h
    cases h
  · rw [BinanceConnection.pollInner_ok hqueue]
    exact ⟨rfl, rfl⟩

/-- A ticker that is answered was on the socket. -/
theorem BinanceConnection.size_pollNext {s : BinanceConnection ε μ} {ticker : Ticker}
    (h : (s.pollNext intoText fromStr fresh).1.answer = .ready (some (.ok ticker))) :
    (s.pollNext intoText fromStr fresh).2.size fresh < s.size fresh := by
  rcases hfuture : s.reconnection with _ | future
  · rw [pollNext_of_open hfuture] at h ⊢
    obtain ⟨hopen, hlength⟩ := length_pollInner h
    simp only [size, hopen, hfuture, Option.bind_none]
    omega
  · simp only [pollNext, hfuture] at h ⊢
    rcases hanswered : future.answered fresh with _ | (e | socket)
    · obtain ⟨waits, hpoll, -⟩ := Reconnection.poll_of_not_answered hanswered
      simp only [hpoll] at h
      cases h
    · have hpoll := Reconnection.poll_of_answered hanswered
      rw [Reconnection.tried_error] at hpoll
      split_ifs at hpoll <;> simp only [hpoll] at h <;> cases h
    · have hpoll := Reconnection.poll_of_answered hanswered
      simp only [hpoll, Reconnection.tried] at h ⊢
      obtain ⟨hopen, hlength⟩ := length_pollInner h
      dsimp only at hlength
      simp only [size, hopen, hfuture, Option.bind_some, Option.bind_none, hanswered]
      rw [← hlength]
      exact (Nat.lt_succ_of_lt (Nat.lt_succ_self _)).trans_le (Nat.le_add_left _ _)

theorem Feed.connection_poll (fresh : Option (Attempt ε μ)) (s : Feed ε μ) :
    (s.poll intoText fromStr fresh).connection =
      (s.connection.pollNext intoText fromStr fresh).2 := by
  rw [poll]
  split <;> rfl

/-- A poll takes what the feed has, and ends. -/
theorem ends_pollFeed (s : OracleFeed ε μ) :
    Ends (pollFeed intoText fromStr keccak256 signer fresh s) := by
  refine ends_of_lt (fun s => s.feed.connection.size fresh) (fun s s' hturn => ?_) s
  rw [feedTurn_eq] at hturn
  rcases hanswer : (s.feed.connection.pollNext intoText fromStr fresh).1.answer with
    _ | _ | e | ticker <;> simp only [hanswer] at hturn
  · cases hturn
  · cases hturn
  · cases hturn
  rcases hsign : signer.sign keccak256 ticker with e | signedTicker <;> rw [hsign] at hturn <;>
    cases hturn
  rw [Feed.connection_poll]
  exact BinanceConnection.size_pollNext hanswer

variable (intoText fromStr keccak256 signer)

/-- An oracle after an event, when its poll takes no more turns than there is fuel. -/
def SigningOracle.act (fuel : ℕ) (s : SigningOracle ε μ) :
    FeedEvent ε μ → Option (SigningOracle ε μ)
  | .poll fresh =>
    if s.failed = false then
      (pollFeed intoText fromStr keccak256 signer fresh s.toOracleFeed fuel).map fun r =>
        ⟨r.2, r.1.toBool = false⟩
    else none
  | event =>
    if s.feed.Enabled event then some { s with feed := s.feed.act intoText fromStr event } else none

theorem SigningOracle.step_of_act {fuel : ℕ} {s s' : SigningOracle ε μ} {event : FeedEvent ε μ}
    (h : s.act intoText fromStr keccak256 signer fuel event = some s') :
    (signing intoText fromStr keccak256 signer symbols).step s event s' := by
  rcases event with _ | _ | _ | _ | fresh <;> simp only [act] at h <;> split_ifs at h with hif
  · exact ⟨hif, (Option.some.inj h).symm⟩
  · exact ⟨hif, (Option.some.inj h).symm⟩
  · exact ⟨hif, (Option.some.inj h).symm⟩
  · exact ⟨hif, (Option.some.inj h).symm⟩
  · obtain ⟨r, hr, rfl⟩ := Option.map_eq_some_iff.1 h
    exact ⟨hif, r, ⟨fuel, hr⟩, rfl⟩

end

/-! ### A run -/

/-- The key `1`, at the ticker. -/
def keyOne : PrivateKeySigner tickerRecover where
  address := tickerSigner
  signMessageSync b := if b = ticker.encode then .ok tickerSignature else .error ""
  recovers b signature h := by
    split_ifs at h with hb
    obtain rfl := Except.ok.inj h
    exact if_pos ⟨rfl, hb⟩

/-- An oracle whose socket fails. -/
def reconnectingOracle : Option (SigningOracle Unit Text) :=
  reconnecting.foldlM (SigningOracle.act some readText tickerKeccak256 keyOne 4)
    ⟨⟨.start [['b', 't', 'c']] failingSocket, []⟩, false⟩

/-- It has signed a ticker of each socket. -/
theorem reconnectingOracle_signed :
    ∃ s ∈ reconnectingOracle, s.toPeers = [honest, honest] ∧
      s.Signed some readText tickerKeccak256 keyOne [['b', 't', 'c']] := by
  have hpeers : reconnectingOracle.map (·.toPeers) = some [honest, honest] := by decide +kernel
  obtain ⟨s, hs, hsent⟩ := Option.map_eq_some_iff.1 hpeers
  refine ⟨s, hs, hsent, broadcast_signed (System.ReachableBy.foldlM ?_
    (.init ⟨⟨failingSocket, rfl⟩, rfl, rfl⟩) hs)⟩
  exact fun s event s' h => ⟨trivial, SigningOracle.step_of_act some readText tickerKeccak256 keyOne h⟩

end ExEx.Oracle
