import ExEx.Lib.Broadcast
import ExEx.Oracle.Gossip

/-!
# From the exchange to the peer

Two oracles are connected, again and again. Each signs the tickers of its own feed and
broadcasts them to its connections, whose receivers take them from the channel. A receiver
that is too far behind misses some of them.

The connections of `Traffic` are given their tickers by the receivers here, and the
receivers what the oracles of `Signing` send. What holds in the runs of these holds of the
parts of this system (`Pair.valid`), and together it tells what a peer knows of the
exchange (`peer_attests`): the tickers it has recorded are those which the sockets of the
other oracle have brought since the connection was made, in their order, but for the ones
that were missed, and those on the way.
-/

namespace ExEx.Oracle

open Reth (Signature)

/-! ## The system -/

/-- The size of the broadcast channel. -/
def BROADCAST_CHANNEL_SIZE : ℕ := 200

/-- The channel keeps as many messages as the next power of two. -/
def toPeersCapacity : ℕ := BROADCAST_CHANNEL_SIZE.nextPowerOfTwo

/-- The receiver of a connection: where it began, where it is, and how many messages it was
    told that it has missed. -/
structure Receiver where
  first : ℕ
  next : ℕ
  missed : ℕ

/-- A receiver of what is sent from now on. -/
def Receiver.subscribe (sent : List SignedTicker) : Receiver := ⟨sent.length, sent.length, 0⟩

/-- The receiver after what it has got. -/
def Receiver.after (receiver : Receiver) :
    Except Broadcast.RecvError SignedTicker × ℕ → Receiver
  | (.error (.lagged missed), next) => ⟨receiver.first, next, receiver.missed + missed⟩
  | (_, next) => ⟨receiver.first, next, receiver.missed⟩

/-- What the connection of a side is given by its receiver. -/
def JoinedEvent.received (side : Side) : Except Broadcast.RecvError SignedTicker → JoinedEvent
  | .ok signedTicker => .tick side (.ok signedTicker)
  | .error (.lagged missed) => .tick side (.error (.ofNat missed))
  | .error .closed => .dropTicks side

/-- Whether an event is one that comes from a receiver. -/
def JoinedEvent.fromReceiver : JoinedEvent → Bool
  | .tick _ _ => true
  | .dropTicks _ => true
  | _ => false

/-- A connection that a side has opened. -/
def Traffic.connected (opener : Side) : Traffic :=
  ⟨fun side => .start (side = opener), opener, fun _ => [], fun _ => []⟩

/-- Two oracles, with the receivers of their connections. -/
structure Pair (ε μ : Type) where
  oracles : Side → SigningOracle ε μ
  /-- Whether the senders of a side are gone. -/
  dropped : Side → Bool
  receivers : Side → Receiver
  traffic : Traffic

inductive PairEvent (ε μ : Type)
  /-- Something happens to the feed of a side, or its oracle is polled. -/
  | feed (side : Side) (event : FeedEvent ε μ)
  | drop (side : Side)
  /-- A side opens another connection, in place of the one there is. -/
  | connect (opener : Side)
  /-- The receiver of a side takes what is next, for the poll that sends it. -/
  | recv (side : Side)
  /-- Something else happens to the connection. -/
  | joined (event : JoinedEvent)

section

variable {ε μ : Type} (intoText : μ → Option Text) (fromStr : Text → Option BinanceResponse)
  {recoverAddressFromMsg : Signature → Bytes → Option Address} (keccak256 : Bytes → B256)
  (signer : Side → PrivateKeySigner recoverAddressFromMsg)

namespace Pair

def withOracle (s : Pair ε μ) (side : Side) (oracle : SigningOracle ε μ) : Pair ε μ :=
  { s with oracles := Function.update s.oracles side oracle }

def drop (s : Pair ε μ) (side : Side) : Pair ε μ :=
  { s with dropped := Function.update s.dropped side true }

def connect (s : Pair ε μ) (opener : Side) : Pair ε μ :=
  { s with
    receivers := fun side => .subscribe (s.oracles side).toPeers
    traffic := .connected opener }

/-- What the receiver of a side gets next. -/
def recv (s : Pair ε μ) (side : Side) :
    Option (Except Broadcast.RecvError SignedTicker × ℕ) :=
  Broadcast.recv toPeersCapacity (s.oracles side).toPeers (s.dropped side) (s.receivers side).next

variable (recoverAddressFromMsg) in
/-- The receiver of a side hands on what it has got. -/
def received (s : Pair ε μ) (side : Side)
    (r : Except Broadcast.RecvError SignedTicker × ℕ) : Pair ε μ :=
  { s with
    receivers := Function.update s.receivers side ((s.receivers side).after r)
    traffic := s.traffic.act recoverAddressFromMsg (.received side r.1) }

variable (recoverAddressFromMsg) in
def withEvent (s : Pair ε μ) (event : JoinedEvent) : Pair ε μ :=
  { s with traffic := s.traffic.act recoverAddressFromMsg event }

/-- A stream of tickers that has ended takes no more of them. The messages of the others
    are within `isize::MAX` bytes, as buffers are. -/
def CanReceive (s : Pair ε μ) (side : Side) : Prop :=
  (s.traffic.ends side).session.connection.signedTicks.closed = false ∧
    ∀ signedTicker ∈ (s.oracles side).toPeers,
      (OracleProtoMessage.signedTicker signedTicker).encoded.length < 2 ^ 63

instance instDecidableCanReceive (s : Pair ε μ) (side : Side) : Decidable (s.CanReceive side) :=
  inferInstanceAs (Decidable (_ ∧ _))

end Pair

/-- Two oracles with feeds for some symbols. -/
def pair (symbols : Side → List Text) : System (Pair ε μ) (PairEvent ε μ) where
  init s := ∃ opener,
    (∀ side, (signing intoText fromStr keccak256 (signer side) (symbols side)).init
      (s.oracles side)) ∧
    s = Pair.connect ⟨s.oracles, fun _ => false, s.receivers, s.traffic⟩ opener
  step s event s' :=
    match event with
    | .feed side event => s.dropped side = false ∧ ∃ oracle,
      (signing intoText fromStr keccak256 (signer side) (symbols side)).step (s.oracles side) event
        oracle ∧ s' = s.withOracle side oracle
    | .drop side => s' = s.drop side
    | .connect opener => s' = s.connect opener
    | .recv side => s.CanReceive side ∧ ∃ r, s.recv side = some r ∧
      s' = s.received recoverAddressFromMsg side r
    | .joined event => event.fromReceiver = false ∧
      Joined.Enabled recoverAddressFromMsg s.traffic.ends event ∧
        s' = s.withEvent recoverAddressFromMsg event

/-- The tickers on the way from the receiver of the other side to what a side records. -/
def Traffic.onTheWay (s : Traffic) (side : Side) : List Ticker :=
  ((s.ends side).arrives ++ (s.ends side.other).ticks).map SignedTicker.ticker

/-- What a side knows of the tickers of the other: it has recorded some, of those that the
    other oracle has sent. -/
structure Pair.Knows (symbols : Side → List Text) (s : Pair ε μ) (side : Side)
    (sent recorded : List Ticker) : Prop where
  feed : (s.oracles side.other).feed.Served intoText fromStr (symbols side.other)
  /-- Those sent are what the feed has answered, but for one that could not be signed. -/
  answered : ∃ unsigned,
    (s.oracles side.other).feed.answers.filterMap FeedItem.ticker = sent ++ unsigned ∧
      ((s.oracles side.other).failed = false → unsigned = [])
  /-- Those received are recorded, or on the way. -/
  received : Broadcast.Receives sent (s.receivers side.other).first (s.receivers side.other).next
    (recorded ++ s.traffic.onTheWay side) (s.receivers side.other).missed
  /-- There are no gaps where none were missed. -/
  whole : (s.receivers side.other).missed = 0 → recorded ++ s.traffic.onTheWay side =
    (sent.take (s.receivers side.other).next).drop (s.receivers side.other).first
  attestations : ∀ id, (s.traffic.ends side).session.connection.attestationsOf id =
    List.replicate (recorded.countP fun ticker => keccak256 ticker.encode = id)
      (signer side.other).address

/-! ## The parts -/

variable {intoText fromStr keccak256 signer}

section

variable {fresh : Option (Attempt ε μ)} {symbols : List Text}
  {signer : PrivateKeySigner recoverAddressFromMsg}

theorem toPeers_of_again {s s' : OracleFeed ε μ}
    (hturn : feedTurn intoText fromStr keccak256 signer fresh s = .again s') :
    s.toPeers <+: s'.toPeers := by
  rw [feedTurn_eq] at hturn
  rcases hanswer : (s.feed.connection.pollNext intoText fromStr fresh).1.answer with
    _ | _ | e | ticker <;> simp only [hanswer] at hturn
  · cases hturn
  · cases hturn
  · cases hturn
  · rcases hsign : signer.sign keccak256 ticker with e | signedTicker <;> rw [hsign] at hturn <;>
      cases hturn
    exact List.prefix_append _ _

theorem toPeers_of_stop {s : OracleFeed ε μ} {r : Except (OracleError ε) Unit × OracleFeed ε μ}
    (hturn : feedTurn intoText fromStr keccak256 signer fresh s = .stop r) :
    r.2.toPeers = s.toPeers := by
  rw [feedTurn_eq] at hturn
  rcases hanswer : (s.feed.connection.pollNext intoText fromStr fresh).1.answer with
    _ | _ | e | ticker <;> simp only [hanswer] at hturn
  · exact Turn.stop.inj hturn ▸ rfl
  · exact Turn.stop.inj hturn ▸ rfl
  · exact Turn.stop.inj hturn ▸ rfl
  · rcases hsign : signer.sign keccak256 ticker with e | signedTicker <;> rw [hsign] at hturn
    · exact Turn.stop.inj hturn ▸ rfl
    · cases hturn

/-- What an oracle has sent stays sent. -/
theorem SigningOracle.toPeers_prefix {s s' : SigningOracle ε μ} {event : FeedEvent ε μ}
    (hstep : (signing intoText fromStr keccak256 signer symbols).step s event s') :
    s.toPeers <+: s'.toPeers := by
  rcases event with _ | _ | _ | _ | fresh
  · obtain ⟨-, rfl⟩ := hstep
    exact List.prefix_refl _
  · obtain ⟨-, rfl⟩ := hstep
    exact List.prefix_refl _
  · obtain ⟨-, rfl⟩ := hstep
    exact List.prefix_refl _
  · obtain ⟨-, rfl⟩ := hstep
    exact List.prefix_refl _
  · obtain ⟨-, r, hends, rfl⟩ := hstep
    refine hends.rule (I := fun t => s.toPeers <+: t.toPeers)
      (Q := fun r => s.toPeers <+: r.2.toPeers) ?_ ?_ (List.prefix_refl _)
    · exact fun t t' h hturn => h.trans (toPeers_of_again hturn)
    · exact fun t r h hturn => toPeers_of_stop hturn ▸ h

/-- The tickers that were signed are those in what was sent. -/
theorem eq_map_of_attests {tickers : List Ticker} {sent : List SignedTicker}
    (h : List.Forall₂ (Attests keccak256 signer) tickers sent) :
    tickers = sent.map SignedTicker.ticker := by
  have heq := List.forall₂_map_right_iff.2 (h.imp fun _ _ hattests => hattests.1.symm)
  rwa [List.forall₂_eq_eq_eq] at heq

/-- What an oracle has sent attests for the tickers in it. -/
theorem SigningOracle.Signed.attests {s : SigningOracle ε μ}
    (h : s.Signed intoText fromStr keccak256 signer symbols) :
    ∀ signedTicker ∈ s.toPeers, Attests keccak256 signer signedTicker.ticker signedTicker := by
  obtain ⟨tickers, _, -, hsent, -⟩ := h.sent
  rw [eq_map_of_attests hsent] at hsent
  exact List.forall₂_same.1 (List.forall₂_map_left_iff.1 hsent)

end

variable {symbols : Side → List Text} {s : Pair ε μ}

variable (intoText fromStr keccak256 signer symbols) in
/-- The oracles are as they are in their runs, the connection is one of honest oracles, and
    its tickers are those the receivers have got. -/
structure Pair.Valid (s : Pair ε μ) : Prop where
  oracles : ∀ side, (s.oracles side).Signed intoText fromStr keccak256 (signer side) (symbols side)
  traffic : (Oracle.traffic recoverAddressFromMsg).ReachableBy (HonestTicks keccak256 signer)
    s.traffic
  receives : ∀ side, Broadcast.Receives (s.oracles side).toPeers (s.receivers side).first
    (s.receivers side).next (s.traffic.handed side) (s.receivers side).missed

namespace Pair.Valid

theorem withOracle (h : s.Valid intoText fromStr keccak256 signer symbols) {side : Side}
    {event : FeedEvent ε μ} {oracle : SigningOracle ε μ}
    (hstep : (signing intoText fromStr keccak256 (signer side) (symbols side)).step
      (s.oracles side) event oracle) :
    (s.withOracle side oracle).Valid intoText fromStr keccak256 signer symbols := by
  refine ⟨fun i => ?_, h.traffic, fun i => ?_⟩
  · by_cases hi : i = side
    · subst hi
      simp only [Pair.withOracle, Function.update_self]
      exact (h.oracles i).step hstep
    · simp only [Pair.withOracle, Function.update_of_ne hi]
      exact h.oracles i
  · by_cases hi : i = side
    · subst hi
      obtain ⟨more, hmore⟩ := SigningOracle.toPeers_prefix hstep
      simp only [Pair.withOracle, Function.update_self, ← hmore]
      exact (h.receives i).append more
    · simp only [Pair.withOracle, Function.update_of_ne hi]
      exact h.receives i

theorem connect (h : s.Valid intoText fromStr keccak256 signer symbols) (opener : Side) :
    (s.connect opener).Valid intoText fromStr keccak256 signer symbols where
  oracles := h.oracles
  traffic := .init ⟨rfl, fun _ => rfl, fun _ => rfl⟩
  receives _ := .start _

/-- A receiver hands on something, which is no ticker, or an honest one. -/
theorem handsOn (h : s.Valid intoText fromStr keccak256 signer symbols) {side : Side}
    {r : Except Broadcast.RecvError SignedTicker × ℕ}
    (hhonest : HonestTicks keccak256 signer s.traffic (.received side r.1))
    (henabled : Joined.Enabled recoverAddressFromMsg s.traffic.ends (.received side r.1))
    (hother : ∀ i ≠ side, (JoinedEvent.received side r.1).hands i = [])
    (hreceives : Broadcast.Receives (s.oracles side).toPeers ((s.receivers side).after r).first
      ((s.receivers side).after r).next
      (s.traffic.handed side ++ (JoinedEvent.received side r.1).hands side)
      ((s.receivers side).after r).missed) :
    (s.received recoverAddressFromMsg side r).Valid intoText fromStr keccak256 signer symbols := by
  refine ⟨h.oracles, h.traffic.step hhonest ⟨henabled, rfl⟩, fun i => ?_⟩
  by_cases hi : i = side
  · subst hi
    simp only [Pair.received, Function.update_self]
    exact hreceives
  · simp only [Pair.received, Function.update_of_ne hi, Traffic.handed_act, hother i hi,
      List.append_nil]
    exact h.receives i

/-- A receiver that gets a ticker gets an honest one. -/
theorem received (h : s.Valid intoText fromStr keccak256 signer symbols) {side : Side}
    {r : Except Broadcast.RecvError SignedTicker × ℕ} (hcan : s.CanReceive side)
    (hrecv : s.recv side = some r) :
    (s.received recoverAddressFromMsg side r).Valid intoText fromStr keccak256 signer symbols := by
  have hreceives := h.receives side
  obtain ⟨(missed | _) | signedTicker, next⟩ := r
  · refine h.handsOn trivial trivial (fun _ _ => rfl) ?_
    simp only [JoinedEvent.received, JoinedEvent.hands, List.append_nil]
    exact hreceives.lagged hrecv
  · refine h.handsOn trivial trivial (fun _ _ => rfl) ?_
    simp only [JoinedEvent.received, JoinedEvent.hands, List.append_nil]
    obtain rfl := Broadcast.Receives.next_eq_of_closed hrecv
    exact hreceives
  · have hmem : signedTicker ∈ (s.oracles side).toPeers :=
      List.mem_of_getElem? (Broadcast.recv_ok hrecv).1
    refine h.handsOn ⟨hcan.1, ⟨_, (h.oracles side).attests signedTicker hmem⟩, ?_⟩ trivial
      (fun i hi => if_neg hi.symm) ?_
    · exact (hcan.2 signedTicker hmem).trans (by decide)
    · rw [JoinedEvent.received, JoinedEvent.hands, if_pos rfl]
      exact hreceives.ok hrecv

/-- Other events bring no tickers. -/
theorem withEvent (h : s.Valid intoText fromStr keccak256 signer symbols) {event : JoinedEvent}
    (hevent : event.fromReceiver = false)
    (henabled : Joined.Enabled recoverAddressFromMsg s.traffic.ends event) :
    (s.withEvent recoverAddressFromMsg event).Valid intoText fromStr keccak256 signer symbols := by
  have hhands (side : Side) : event.hands side = [] := by
    cases event <;> first
      | rfl
      | cases hevent
  refine ⟨h.oracles, h.traffic.step ?_ ⟨henabled, rfl⟩, fun side => ?_⟩
  · cases event <;> first
      | exact trivial
      | cases hevent
  · simp only [Pair.withEvent, Traffic.handed_act, hhands, List.append_nil]
    exact h.receives side

end Pair.Valid

theorem Pair.valid
    (hs : (pair intoText fromStr keccak256 signer symbols).Reachable s) :
    s.Valid intoText fromStr keccak256 signer symbols := by
  refine hs.invariant (I := Pair.Valid intoText fromStr keccak256 signer symbols) ?_ ?_
  · rintro s ⟨opener, horacles, heq⟩
    rw [heq]
    exact ⟨fun side => .start (horacles side), .init ⟨rfl, fun _ => rfl, fun _ => rfl⟩,
      fun side => .start _⟩
  · rintro s event _ _ h _ hstep
    rcases event with ⟨side, event⟩ | side | opener | side | event
    · obtain ⟨-, oracle, horacle, rfl⟩ := hstep
      exact h.withOracle horacle
    · obtain rfl := hstep
      exact ⟨h.oracles, h.traffic, h.receives⟩
    · obtain rfl := hstep
      exact h.connect opener
    · obtain ⟨hcan, r, hr, rfl⟩ := hstep
      exact h.received hcan hr
    · obtain ⟨hevent, henabled, rfl⟩ := hstep
      exact h.withEvent hevent henabled

/-- What a side has recorded, and what is on the way, is what its receiver has got. -/
theorem Pair.Valid.knows (h : s.Valid intoText fromStr keccak256 signer symbols) (side : Side) :
    ∃ recorded, s.Knows intoText fromStr keccak256 signer symbols side
      ((s.oracles side.other).toPeers.map SignedTicker.ticker) recorded := by
  have horacle := h.oracles side.other
  obtain ⟨recorded, hrecorded, hattestations⟩ := (Traffic.gossips h.traffic).records side
  obtain ⟨tickers, unsigned, hanswers, hsent, hunsigned⟩ := horacle.sent
  have hreceives := (h.receives side.other).map SignedTicker.ticker
  rw [hrecorded, List.map_append] at hreceives
  refine ⟨recorded.map SignedTicker.ticker, horacle.served, ⟨unsigned, ?_, hunsigned⟩,
    hreceives, hreceives.eq_of_missed, fun id => ?_⟩
  · rw [hanswers, eq_map_of_attests hsent]
  · rw [hattestations, List.countP_map]
    -- The id of a recorded ticker is its hash.
    congr 1
    refine List.countP_congr fun signedTicker hmem => ?_
    have hattests := horacle.attests signedTicker
      ((h.receives side.other).mem (hrecorded ▸ List.mem_append_left _ hmem))
    rw [hattests.2.1]
    rfl

/-- In every run, each side has recorded, once and in order, the tickers that the sockets of
    the other have brought since they were connected, but for those that were missed, and
    those that are on the way. -/
theorem peer_attests (hs : (pair intoText fromStr keccak256 signer symbols).Reachable s)
    (side : Side) : ∃ recorded, s.Knows intoText fromStr keccak256 signer symbols side
      ((s.oracles side.other).toPeers.map SignedTicker.ticker) recorded :=
  (Pair.valid hs).knows side

variable (intoText fromStr keccak256 signer)

/-- The pair after an event, when its polls take no more turns than there is fuel. -/
def Pair.act (fuel : ℕ) (s : Pair ε μ) : PairEvent ε μ → Option (Pair ε μ)
  | .feed side event =>
    if s.dropped side = false then
      ((s.oracles side).act intoText fromStr keccak256 (signer side) fuel event).map
        (s.withOracle side)
    else none
  | .drop side => some (s.drop side)
  | .connect opener => some (s.connect opener)
  | .recv side =>
    if s.CanReceive side then (s.recv side).map (s.received recoverAddressFromMsg side) else none
  | .joined event =>
    if event.fromReceiver = false ∧ Joined.Enabled recoverAddressFromMsg s.traffic.ends event then
      some (s.withEvent recoverAddressFromMsg event)
    else none

theorem Pair.step_of_act {fuel : ℕ} {s s' : Pair ε μ} {event : PairEvent ε μ}
    (h : s.act intoText fromStr keccak256 signer fuel event = some s') :
    (pair intoText fromStr keccak256 signer symbols).step s event s' := by
  rcases event with ⟨side, event⟩ | side | opener | side | event <;> rw [act] at h
  · split_ifs at h with hdropped
    obtain ⟨oracle, horacle, rfl⟩ := Option.map_eq_some_iff.1 h
    exact ⟨hdropped, oracle, SigningOracle.step_of_act _ _ _ _ horacle, rfl⟩
  · exact (Option.some.inj h).symm
  · exact (Option.some.inj h).symm
  · split_ifs at h with hcan
    obtain ⟨r, hr, rfl⟩ := Option.map_eq_some_iff.1 h
    exact ⟨hcan, r, hr, rfl⟩
  · split_ifs at h with henabled
    exact ⟨henabled.1, henabled.2, (Option.some.inj h).symm⟩

end

/-! ### A ticker of each connection -/

/-- The oracle of a socket on which a ticker is. -/
def oneTickerOracle : SigningOracle Unit Text :=
  ⟨⟨.start [['b', 't', 'c']] ⟨[.ok tickerText], false, false⟩, []⟩, false⟩

/-- The left oracle sends a ticker, and another one once the sides are connected again. That
    one comes to the right side, behind the ping. -/
def tickerOfEach : List (PairEvent Unit Text) :=
  [.feed .left (.poll none), .connect .left, .feed .left (.frame (.ok tickerText)),
    .feed .left (.poll none), .recv .left, .joined (.poll .left), .joined (.poll .left),
    .joined (.deliver .right), .joined (.deliver .right), .joined (.poll .right),
    .joined (.poll .right)]

/-- The pair after some events. -/
def pairAfter (events : List (PairEvent Unit Text)) : Option (Pair Unit Text) :=
  events.foldlM (Pair.act some readText tickerKeccak256 (fun _ => keyOne) 4)
    (.connect ⟨fun _ => oneTickerOracle, fun _ => false, fun _ => ⟨0, 0, 0⟩, .connected .left⟩
      .left)

theorem reachable_pairAfter {events : List (PairEvent Unit Text)} {s : Pair Unit Text}
    (hs : pairAfter events = some s) :
    (pair some readText tickerKeccak256 (fun _ => keyOne)
      (fun _ => [['b', 't', 'c']])).Reachable s :=
  System.ReachableBy.foldlM (fun _ _ _ h => ⟨trivial, Pair.step_of_act _ _ _ _ h⟩)
    (.init ⟨.left, fun _ => ⟨⟨_, rfl⟩, rfl, rfl⟩, rfl⟩) hs

/-- The right side has recorded one ticker of the two. -/
theorem tickerOfEach_attests : ∃ s ∈ pairAfter tickerOfEach,
    (s.traffic.ends .right).session.connection.attestationsOf tickerHash = [tickerSigner] ∧
      (s.oracles .left).toPeers = [honest, honest] ∧
      ∃ recorded, s.Knows some readText tickerKeccak256 (fun _ => keyOne)
        (fun _ => [['b', 't', 'c']]) .right ((s.oracles .left).toPeers.map SignedTicker.ticker)
        recorded := by
  have hrun : (pairAfter tickerOfEach).map (fun s =>
      ((s.traffic.ends .right).session.connection.attestationsOf tickerHash,
        (s.oracles .left).toPeers)) = some ([tickerSigner], [honest, honest]) := by decide +kernel
  obtain ⟨s, hs, hattests⟩ := Option.map_eq_some_iff.1 hrun
  obtain ⟨hright, hleft⟩ := Prod.mk.inj hattests
  exact ⟨s, hs, hright, hleft, peer_attests (reachable_pairAfter hs) .right⟩

end ExEx.Oracle
