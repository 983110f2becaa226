import ExEx.Oracle.Peer
import ExEx.Oracle.Polling
import Mathlib.Data.List.TakeWhile

/-!
# The feed of the exchange

The tickers come from a websocket of the exchange. When the socket fails, the connection
opens another one, for the same symbols, and goes on with it; that is tried ten times,
with a pause after each failure, and then given up. A message that is no text, or no
response, is skipped.

The connection hides all this from who polls it. In every run (`feed_served`):

* the tickers it has answered are those of each socket up to its first error, in order,
  none twice and none left out;
* the only error it answers is that ten attempts have failed, one after another;
* every socket is for the symbols of the first one.

What is on the socket is delivered by as many polls (`polls_deliver`), and a poll that is
pending wakes the task again, unless a connection is being opened (`woken_or_waits`).
-/

namespace ExEx.Oracle

/-! ## The feeder -/

/-- What a text of the exchange says. -/
structure BinanceResponse where
  stream : Utf8
  data : Ticker

/-- `ε` are the errors of the websocket. -/
inductive BinanceDataFeederError (ε : Type)
  | connection (e : ε)
  | decode (e : Error)
  | maxRetriesExceeded
  deriving DecidableEq

/-- A feeder, with the websocket, on which messages come or errors. -/
structure BinanceDataFeeder (ε μ : Type) where
  inner : Channel (Except ε μ)
  symbols : List Text

/-- What a feed answers. -/
abbrev FeedItem (ε : Type) := Option (Except (BinanceDataFeederError ε) Ticker)

/-- The address of the stream of some symbols. -/
def streamUrl (symbols : List Text) : Text :=
  "wss://stream.binance.com/stream?streams=".toList ++
    ['/'].intercalate (symbols.map fun symbol => symbol ++ "@ticker".toList)

section

variable {ε μ : Type} (intoText : μ → Option Text) (fromStr : Text → Option BinanceResponse)

/-- The ticker in a message, if it is the text of a response. -/
def readTicker (msg : μ) : Option Ticker :=
  ((intoText msg).bind fromStr).map BinanceResponse.data

/-- Takes the next message. One that cannot be read is skipped, without taking another. -/
def BinanceDataFeeder.pollNext (s : BinanceDataFeeder ε μ) :
    Poll (FeedItem ε) × BinanceDataFeeder ε μ :=
  match s.inner.pollNext with
  | (.pending, inner) => (.pending, { s with inner := inner })
  | (.ready (some (.ok msg)), inner) =>
    match intoText msg with
    | none => (.pending, { s with inner := inner })
    | some text =>
      match fromStr text with
      | none => (.pending, { s with inner := inner })
      | some response => (.ready (some (.ok response.data)), { s with inner := inner })
  | (.ready (some (.error e)), inner) =>
    (.ready (some (.error (.connection e))), { s with inner := inner })
  | (.ready none, inner) => (.ready none, { s with inner := inner })

/-! ## Reconnections -/

/-- What the attempt to open a websocket comes to. -/
abbrev Attempt (ε μ : Type) := Except ε (Channel (Except ε μ))

/-- What the future of a new feeder waits for. -/
inductive Waits (ε μ : Type)
  | connect (answer : Option (Attempt ε μ))
  | sleep (elapsed : Bool)

/-- The future of a new feeder. -/
structure Reconnection (ε μ : Type) where
  symbols : List Text
  url : Text
  attempts : ℕ
  waits : Waits ε μ

def maxRetries : ℕ := 10

namespace Reconnection

/-- The future of a feeder for some symbols. -/
def new (symbols : List Text) : Reconnection ε μ := ⟨symbols, streamUrl symbols, 0, .connect none⟩

/-- The future once an attempt is answered. -/
def tried (r : Reconnection ε μ) : Attempt ε μ →
    Poll (Except (BinanceDataFeederError ε) (BinanceDataFeeder ε μ)) × Reconnection ε μ
  | .ok socket => (.ready (.ok ⟨socket, r.symbols⟩), r)
  | .error _ =>
    let r := { r with attempts := r.attempts + 1 }
    if r.attempts < maxRetries then (.pending, { r with waits := .sleep false })
    else (.ready (.error .maxRetriesExceeded), r)

/-- Polls the future. An attempt that is begun may be answered at once. -/
def poll (fresh : Option (Attempt ε μ)) (r : Reconnection ε μ) :
    Poll (Except (BinanceDataFeederError ε) (BinanceDataFeeder ε μ)) × Reconnection ε μ :=
  match r.waits with
  | .connect none => (.pending, r)
  | .connect (some answer) => r.tried answer
  | .sleep false => (.pending, r)
  | .sleep true =>
    match fresh with
    | none => (.pending, { r with waits := .connect none })
    | some answer => r.tried answer

/-- The answer that a poll handles, if there is one. -/
def answered (fresh : Option (Attempt ε μ)) (r : Reconnection ε μ) : Option (Attempt ε μ) :=
  match r.waits with
  | .connect answer => answer
  | .sleep false => none
  | .sleep true => fresh

end Reconnection

/-! ## The connection -/

structure BinanceConnection (ε μ : Type) where
  inner : BinanceDataFeeder ε μ
  reconnection : Option (Reconnection ε μ)

/-- What a connection answers, and whether it has woken its task. -/
structure FeedPoll (ε : Type) where
  answer : Poll (FeedItem ε)
  woken : Bool

namespace BinanceConnection

/-- Polls the feeder. An error begins a reconnection. -/
def pollInner (s : BinanceConnection ε μ) : FeedPoll ε × BinanceConnection ε μ :=
  match s.inner.pollNext intoText fromStr with
  | (.ready (some (.ok msg)), inner) => (⟨.ready (some (.ok msg)), false⟩, { s with inner := inner })
  | (.ready (some (.error _)), inner) =>
    (⟨.pending, true⟩, ⟨inner, some (.new inner.symbols)⟩)
  | (.ready none, inner) => (⟨.ready none, false⟩, { s with inner := inner })
  | (.pending, inner) => (⟨.pending, true⟩, { s with inner := inner })

/-- Polls the connection: first the reconnection, if there is one. -/
def pollNext (fresh : Option (Attempt ε μ)) (s : BinanceConnection ε μ) :
    FeedPoll ε × BinanceConnection ε μ :=
  match s.reconnection with
  | some future =>
    match future.poll fresh with
    | (.ready (.ok conn), _) => pollInner intoText fromStr ⟨conn, none⟩
    | (.ready (.error e), _) => (⟨.ready (some (.error e)), false⟩, { s with reconnection := none })
    | (.pending, future) => (⟨.pending, false⟩, { s with reconnection := some future })
  | none => pollInner intoText fromStr s

end BinanceConnection

/-! ## Runs -/

/-- The ticker that was answered, if one was. -/
def FeedItem.ticker : FeedItem ε → Option Ticker
  | some (.ok ticker) => some ticker
  | _ => none

/-- The item that is answered, if one is. -/
def Poll.items {α : Type} : Poll α → List α
  | .ready item => [item]
  | .pending => []

/-- The tickers in what comes on a socket, up to the first error. -/
def tickersOf (frames : List (Except ε μ)) : List Ticker :=
  (frames.takeWhile (·.isOk)).filterMap fun
    | .ok msg => readTicker intoText fromStr msg
    | .error _ => none

/-- A connection, with what was on its sockets and what it has answered. -/
structure Feed (ε μ : Type) where
  connection : BinanceConnection ε μ
  /-- What came on each of the sockets before this one. -/
  earlier : List (List (Except ε μ))
  /-- What came on the socket. -/
  current : List (Except ε μ)
  /-- How many attempts have failed since the last one that did not. -/
  failed : ℕ
  answers : List (FeedItem ε)

inductive FeedEvent (ε μ : Type)
  /-- A message or an error comes on the socket. -/
  | frame (item : Except ε μ)
  | close
  /-- The attempt to open a socket is answered. -/
  | answer (attempt : Attempt ε μ)
  | elapse
  | poll (fresh : Option (Attempt ε μ))

namespace Feed

/-- The feed of a socket that was opened for some symbols. -/
def start (symbols : List Text) (socket : Channel (Except ε μ)) : Feed ε μ :=
  ⟨⟨⟨socket, symbols⟩, none⟩, [], socket.queue, 0, []⟩

/-- An error was answered: who polls the feed stops. -/
def failure (s : Feed ε μ) : Bool :=
  s.answers.any fun
    | some (.error _) => true
    | _ => false

/-- The socket is changed. -/
def onSocket (f : Channel (Except ε μ) → Channel (Except ε μ)) (s : Feed ε μ) : Feed ε μ :=
  { s with connection.inner.inner := f s.connection.inner.inner }

/-- What the reconnection waits for is there. -/
def onWaits (f : Waits ε μ → Waits ε μ) (s : Feed ε μ) : Feed ε μ :=
  { s with connection.reconnection :=
      s.connection.reconnection.map fun future => { future with waits := f future.waits } }

/-- The connection is polled. When an attempt is answered with a socket, the next messages
    come on it. -/
def poll (fresh : Option (Attempt ε μ)) (s₀ : Feed ε μ) : Feed ε μ :=
  let r := s₀.connection.pollNext intoText fromStr fresh
  let s := { s₀ with connection := r.2, answers := s₀.answers ++ r.1.answer.items }
  match s₀.connection.reconnection.bind fun future => future.answered fresh with
  | none => s
  | some (.ok socket) =>
    { s with earlier := s.earlier ++ [s.current], current := socket.queue, failed := 0 }
  | some (.error _) => { s with failed := s.failed + 1 }

def act (s : Feed ε μ) : FeedEvent ε μ → Feed ε μ
  | .frame item => { s.onSocket (·.send item) with current := s.current ++ [item] }
  | .close => s.onSocket Channel.close
  | .answer attempt => s.onWaits fun
    | .connect none => .connect (some attempt)
    | waits => waits
  | .elapse => s.onWaits fun
    | .sleep _ => .sleep true
    | waits => waits
  | .poll fresh => s.poll intoText fromStr fresh

/-- Nothing comes on a closed socket, and a feed that has failed is not polled. -/
def Enabled (s : Feed ε μ) : FeedEvent ε μ → Prop
  | .frame _ => s.connection.inner.inner.closed = false
  | .poll _ => s.failure = false
  | _ => True

instance instDecidableEnabled (s : Feed ε μ) (event : FeedEvent ε μ) :
    Decidable (s.Enabled event) := by
  cases event <;> (unfold Enabled; infer_instance)

end Feed

/-- The feed for some symbols. -/
def feed (symbols : List Text) : System (Feed ε μ) (FeedEvent ε μ) where
  init s := ∃ socket, s = .start symbols socket
  step s event s' := s.Enabled event ∧ s' = s.act intoText fromStr event

/-- What a feed for some symbols has answered. -/
structure Feed.Served (symbols : List Text) (s : Feed ε μ) : Prop where
  /-- The sockets were opened for the symbols. -/
  socket : s.connection.inner.symbols = symbols
  future : ∀ future ∈ s.connection.reconnection, future.symbols = symbols ∧
    future.url = streamUrl symbols ∧ future.attempts = s.failed ∧ s.failed < maxRetries
  idle : s.connection.reconnection = none → s.failure = false → s.failed = 0
  /-- An error is that the attempts have failed. -/
  errors : ∀ e, some (.error e) ∈ s.answers → e = .maxRetriesExceeded ∧ s.failed = maxRetries
  /-- The tickers are those of the earlier sockets, and of what was taken off this one. -/
  tickers : ∃ taken, s.current = taken ++ s.connection.inner.inner.queue ∧
    s.answers.filterMap FeedItem.ticker =
      s.earlier.flatMap (tickersOf intoText fromStr) ++ tickersOf intoText fromStr taken ∧
    ((∀ frame ∈ taken, frame.isOk = true) ↔
      s.connection.reconnection = none ∧ s.failure = false)

/-! ## What a poll does -/

variable {intoText : μ → Option Text} {fromStr : Text → Option BinanceResponse}

namespace Reconnection

variable {r : Reconnection ε μ} {fresh : Option (Attempt ε μ)}

theorem poll_of_answered {answer : Attempt ε μ} (h : r.answered fresh = some answer) :
    r.poll fresh = r.tried answer := by
  rcases hwaits : r.waits with (_ | answer') | (_ | _) <;> simp only [answered, hwaits] at h
  · cases h
  · obtain rfl := Option.some.inj h
    simp only [poll, hwaits]
  · cases h
  · simp only [poll, hwaits, h]

/-- The future waits for something that is not there. -/
def Waiting (r : Reconnection ε μ) : Prop := r.waits = .connect none ∨ r.waits = .sleep false

/-- An attempt that is not answered is waited for. -/
theorem poll_of_not_answered (h : r.answered fresh = none) :
    ∃ waits, r.poll fresh = (.pending, { r with waits := waits }) ∧
      Waiting { r with waits := waits } := by
  rcases hwaits : r.waits with (_ | answer) | (_ | _) <;> simp only [answered, hwaits] at h
  · exact ⟨.connect none, by simp only [poll, hwaits]; rw [← hwaits], .inl rfl⟩
  · cases h
  · exact ⟨.sleep false, by simp only [poll, hwaits]; rw [← hwaits], .inr rfl⟩
  · exact ⟨.connect none, by simp only [poll, hwaits, h], .inl rfl⟩

/-- An attempt that has failed is tried again after a pause, but for the tenth. -/
theorem tried_error (r : Reconnection ε μ) (e : ε) :
    r.tried (.error e) =
      if r.attempts + 1 < maxRetries then
        (.pending, { r with attempts := r.attempts + 1, waits := .sleep false })
      else (.ready (.error .maxRetriesExceeded), { r with attempts := r.attempts + 1 }) := rfl

end Reconnection

namespace BinanceConnection

variable {s : BinanceConnection ε μ} {queue : List (Except ε μ)}

theorem pollNext_of_open (h : s.reconnection = none) (fresh : Option (Attempt ε μ)) :
    s.pollNext intoText fromStr fresh = s.pollInner intoText fromStr := by
  rw [pollNext, h]

variable (intoText fromStr) in
theorem pollInner_nil (h : s.inner.inner.queue = []) :
    ∃ inner, inner.queue = [] ∧
      (pollInner intoText fromStr s).2 = { s with inner.inner := inner } ∧
      ((pollInner intoText fromStr s).1 = ⟨.pending, true⟩ ∨
        (pollInner intoText fromStr s).1 = ⟨.ready none, false⟩) := by
  rw [pollInner, BinanceDataFeeder.pollNext]
  rcases hclosed : s.inner.inner.closed
  · rw [Channel.pollNext_of_open h hclosed]
    exact ⟨{ s.inner.inner with waker := true }, h, rfl, .inl rfl⟩
  · rw [Channel.pollNext_of_closed h hclosed]
    exact ⟨s.inner.inner, h, rfl, .inr rfl⟩

theorem pollInner_ok {msg : μ} (h : s.inner.inner.queue = .ok msg :: queue) :
    pollInner intoText fromStr s =
      (match readTicker intoText fromStr msg with
        | some ticker => ⟨.ready (some (.ok ticker)), false⟩
        | none => ⟨.pending, true⟩,
      { s with inner.inner := ⟨queue, s.inner.inner.closed, false⟩ }) := by
  rw [pollInner, BinanceDataFeeder.pollNext, Channel.pollNext_of_cons h, readTicker]
  rcases hmsg : intoText msg with _ | text
  · simp [hmsg]
  · rcases hresponse : fromStr text with _ | response <;> simp [hmsg, hresponse]

theorem pollInner_error {e : ε} (h : s.inner.inner.queue = .error e :: queue) :
    pollInner intoText fromStr s = (⟨.pending, true⟩,
      ⟨⟨⟨queue, s.inner.inner.closed, false⟩, s.inner.symbols⟩, some (.new s.inner.symbols)⟩) := by
  rw [pollInner, BinanceDataFeeder.pollNext, Channel.pollNext_of_cons h]

end BinanceConnection

/-! ## What was answered -/

theorem tickersOf_append {l l' : List (Except ε μ)} (h : ∀ frame ∈ l, frame.isOk = true) :
    tickersOf intoText fromStr (l ++ l') =
      tickersOf intoText fromStr l ++ tickersOf intoText fromStr l' := by
  rw [tickersOf, tickersOf, tickersOf, List.takeWhile_append_of_pos h,
    List.takeWhile_eq_self_iff.2 h, List.filterMap_append]

/-- What comes after an error is not read. -/
theorem tickersOf_append_of_error {l l' : List (Except ε μ)}
    (h : ¬∀ frame ∈ l, frame.isOk = true) :
    tickersOf intoText fromStr (l ++ l') = tickersOf intoText fromStr l := by
  have hlength : (l.takeWhile (·.isOk)).length ≠ l.length := fun heq =>
    h (List.takeWhile_eq_self_iff.1 ((List.takeWhile_prefix _).eq_of_length heq))
  rw [tickersOf, tickersOf, List.takeWhile_append, if_neg hlength]

namespace Feed

variable {symbols : List Text} {s : Feed ε μ}

theorem failure_eq_true_iff : s.failure = true ↔ ∃ e, some (.error e) ∈ s.answers := by
  rw [failure, List.any_eq_true]
  constructor
  · rintro ⟨_ | e | ticker, hmem, h⟩
    · cases h
    · exact ⟨e, hmem⟩
    · cases h
  · rintro ⟨e, hmem⟩
    exact ⟨_, hmem, rfl⟩

theorem failure_eq_false_iff : s.failure = false ↔ ∀ e, some (.error e) ∉ s.answers := by
  rw [← Bool.not_eq_true, failure_eq_true_iff, not_exists]

/-- What is read off the socket is answered, unless it is an error. -/
theorem Served.read (h : s.Served intoText fromStr symbols) (read : List (Except ε μ))
    (hopen : s.connection.reconnection = none) (hfailure : s.failure = false)
    {connection : BinanceConnection ε μ} {items : List (FeedItem ε)}
    (hqueue : s.connection.inner.inner.queue = read ++ connection.inner.inner.queue)
    (hsymbols : connection.inner.symbols = s.connection.inner.symbols)
    (hreconnection : ((∀ frame ∈ read, frame.isOk = true) ∧ connection.reconnection = none) ∨
      ((¬∀ frame ∈ read, frame.isOk = true) ∧
        connection.reconnection = some (.new s.connection.inner.symbols)))
    (hitems : items.filterMap FeedItem.ticker = tickersOf intoText fromStr read)
    (herrors : ∀ e, some (.error e) ∉ items) :
    { s with connection := connection, answers := s.answers ++ items }.Served
      intoText fromStr symbols := by
  obtain ⟨taken, hcurrent, htickers, htaken⟩ := h.tickers
  have hok := htaken.2 ⟨hopen, hfailure⟩
  have hnone := failure_eq_false_iff.1 hfailure
  have hsame : { s with connection := connection, answers := s.answers ++ items }.failure = false :=
    failure_eq_false_iff.2 fun e hmem => (List.mem_append.1 hmem).elim (hnone e) (herrors e)
  refine ⟨hsymbols.trans h.socket, ?_, fun _ _ => h.idle hopen hfailure, ?_,
    taken ++ read, ?_, ?_, ?_⟩
  · intro future hfuture
    rcases hreconnection with ⟨-, heq⟩ | ⟨-, heq⟩ <;> rw [Option.mem_def, heq] at hfuture
    · cases hfuture
    · obtain rfl := Option.some.inj hfuture
      refine ⟨h.socket, congrArg streamUrl h.socket, (h.idle hopen hfailure).symm, ?_⟩
      exact (h.idle hopen hfailure).trans_lt (by decide)
  · intro e hmem
    exact absurd hmem (failure_eq_false_iff.1 hsame e)
  · rw [hcurrent, hqueue, List.append_assoc]
  · rw [List.filterMap_append, htickers, hitems, tickersOf_append hok, List.append_assoc]
  · rw [and_iff_left hsame]
    simp only [List.forall_mem_append, and_iff_right hok]
    rcases hreconnection with ⟨hread, heq⟩ | ⟨hread, heq⟩
    · exact iff_of_true hread heq
    · exact iff_of_false hread (by rw [heq]; exact Option.some_ne_none _)

/-- A feed that has not failed, and whose connection is not being opened, goes on with its
    socket. -/
theorem Served.pollInner (h : s.Served intoText fromStr symbols)
    (hopen : s.connection.reconnection = none) (hfailure : s.failure = false) :
    { s with
      connection := (s.connection.pollInner intoText fromStr).2
      answers := s.answers ++ (s.connection.pollInner intoText fromStr).1.answer.items
      }.Served intoText fromStr symbols := by
  rcases hqueue : s.connection.inner.inner.queue with _ | ⟨e | msg, queue⟩
  · obtain ⟨inner, hinner, hconnection, hanswer⟩ :=
      BinanceConnection.pollInner_nil intoText fromStr hqueue
    rw [hconnection]
    refine h.read [] hopen hfailure ?_ rfl (.inl ⟨nofun, hopen⟩) ?_ ?_
    · rw [hqueue, List.nil_append]
      exact hinner.symm
    · rcases hanswer with hanswer | hanswer <;> rw [hanswer] <;> rfl
    · rcases hanswer with hanswer | hanswer <;> rw [hanswer] <;> intro e hmem
      · cases hmem
      · exact absurd (List.mem_singleton.1 hmem) (by intro heq; cases heq)
  · rw [BinanceConnection.pollInner_error hqueue]
    refine h.read [.error e] hopen hfailure hqueue rfl (.inr ⟨?_, rfl⟩) rfl ?_
    · exact fun hall => absurd (hall _ (List.mem_singleton_self _)) Bool.false_ne_true
    · exact fun e hmem => by cases hmem
  · rw [BinanceConnection.pollInner_ok hqueue]
    refine h.read [.ok msg] hopen hfailure hqueue rfl (.inl ⟨?_, hopen⟩) ?_ ?_
    · exact fun frame hframe => List.mem_singleton.1 hframe ▸ rfl
    · rcases hmsg : readTicker intoText fromStr msg with _ | ticker <;>
        simp [tickersOf, Except.isOk, Except.toBool, hmsg, Poll.items, FeedItem.ticker]
    · rcases hmsg : readTicker intoText fromStr msg with _ | ticker <;> simp [Poll.items]

/-- The socket that was opened is the next one. -/
theorem Served.connected (h : s.Served intoText fromStr symbols)
    {future : Reconnection ε μ} (hfuture : s.connection.reconnection = some future)
    (hfailure : s.failure = false) (socket : Channel (Except ε μ)) :
    { s with
      connection := ⟨⟨socket, future.symbols⟩, none⟩
      earlier := s.earlier ++ [s.current]
      current := socket.queue
      failed := 0 }.Served intoText fromStr symbols := by
  obtain ⟨taken, hcurrent, htickers, htaken⟩ := h.tickers
  have herror : ¬∀ frame ∈ taken, frame.isOk = true := fun hok => by
    rw [(htaken.1 hok).1] at hfuture
    cases hfuture
  refine ⟨(h.future future hfuture).1, by exact nofun, fun _ _ => rfl, ?_, [], rfl, ?_, ?_⟩
  · exact fun e hmem => absurd hmem (failure_eq_false_iff.1 hfailure e)
  · rw [htickers, List.flatMap_append, List.flatMap_singleton, hcurrent,
      tickersOf_append_of_error herror]
    exact (List.append_nil _).symm
  · exact iff_of_true nofun ⟨rfl, hfailure⟩

/-- A poll that goes on waiting for a socket. -/
theorem Served.waits (h : s.Served intoText fromStr symbols) {future : Reconnection ε μ}
    (future' : Reconnection ε μ) (hfuture : s.connection.reconnection = some future)
    (hfailure : s.failure = false) (hsymbols : future'.symbols = future.symbols)
    (hurl : future'.url = future.url) {failed : ℕ} (hattempts : future'.attempts = failed)
    (hlt : failed < maxRetries) :
    { s with connection.reconnection := some future', failed := failed }.Served
      intoText fromStr symbols := by
  obtain ⟨taken, hcurrent, htickers, htaken⟩ := h.tickers
  obtain ⟨hfor, haddress, -⟩ := h.future future hfuture
  refine ⟨h.socket, ?_, by exact nofun, ?_, taken, hcurrent, htickers, ?_⟩
  · intro next hnext
    obtain rfl := Option.some.inj hnext
    exact ⟨hsymbols.trans hfor, hurl.trans haddress, hattempts, hlt⟩
  · exact fun e hmem => absurd hmem (failure_eq_false_iff.1 hfailure e)
  · rw [htaken, hfuture]
    exact iff_of_false (by exact nofun) (by exact nofun)

/-- The attempts have failed. -/
theorem Served.fails (h : s.Served intoText fromStr symbols) {future : Reconnection ε μ}
    (hfuture : s.connection.reconnection = some future) {failed : ℕ}
    (hfailed : failed = maxRetries) (hfailure : s.failure = false) :
    { s with
      connection.reconnection := none
      answers := s.answers ++ [some (Except.error BinanceDataFeederError.maxRetriesExceeded)]
      failed := failed }.Served intoText fromStr symbols := by
  obtain ⟨taken, hcurrent, htickers, htaken⟩ := h.tickers
  have hfailed' : ({ s with
      connection.reconnection := none
      answers := s.answers ++ [some (Except.error BinanceDataFeederError.maxRetriesExceeded)]
      failed := failed } : Feed ε μ).failure = true :=
    failure_eq_true_iff.2 ⟨_, List.mem_append_right _ (List.mem_singleton_self _)⟩
  refine ⟨h.socket, by exact nofun, ?_, ?_, taken, hcurrent, ?_, ?_⟩
  · intro _ hfalse
    rw [hfailed'] at hfalse
    cases hfalse
  · intro e hmem
    refine ⟨?_, hfailed⟩
    rcases List.mem_append.1 hmem with hmem | hmem
    · exact absurd hmem (failure_eq_false_iff.1 hfailure e)
    · exact Except.error.inj (Option.some.inj (List.mem_singleton.1 hmem))
  · rw [List.filterMap_append, htickers]
    exact List.append_nil _
  · rw [htaken, hfuture, hfailed']
    exact iff_of_false (by exact nofun) (by exact nofun)

theorem Served.poll (h : s.Served intoText fromStr symbols) (hfailure : s.failure = false)
    (fresh : Option (Attempt ε μ)) :
    (s.poll intoText fromStr fresh).Served intoText fromStr symbols := by
  rcases hfuture : s.connection.reconnection with _ | future
  · have hinner := h.pollInner hfuture hfailure
    rw [Feed.poll, BinanceConnection.pollNext_of_open hfuture, hfuture]
    exact hinner
  obtain ⟨-, -, hattempts, hlt⟩ := h.future future hfuture
  rcases hanswered : future.answered fresh with _ | (e | socket)
  · obtain ⟨waits, hpoll, -⟩ := Reconnection.poll_of_not_answered hanswered
    have hwaits := h.waits { future with waits := waits } hfuture hfailure rfl rfl hattempts hlt
    simp only [Feed.poll, BinanceConnection.pollNext, hfuture, hpoll, Option.bind_some, hanswered,
      Poll.items, List.append_nil]
    exact hwaits
  · have hpoll := Reconnection.poll_of_answered hanswered
    rw [Reconnection.tried_error] at hpoll
    by_cases hretry : future.attempts + 1 < maxRetries
    · rw [if_pos hretry] at hpoll
      have hwaits := h.waits
        { future with attempts := future.attempts + 1, waits := .sleep false } hfuture hfailure rfl rfl
        (congrArg (· + 1) hattempts) (hattempts ▸ hretry)
      simp only [Feed.poll, BinanceConnection.pollNext, hfuture, hpoll, Option.bind_some, hanswered,
        Poll.items, List.append_nil]
      exact hwaits
    · rw [if_neg hretry] at hpoll
      have hlast : s.failed + 1 = maxRetries := by omega
      simp only [Feed.poll, BinanceConnection.pollNext, hfuture, hpoll, Option.bind_some, hanswered,
        Poll.items]
      exact h.fails hfuture hlast hfailure
  · have hpoll := Reconnection.poll_of_answered hanswered
    have hconnected := h.connected hfuture hfailure socket
    simp only [Feed.poll, BinanceConnection.pollNext, hfuture, hpoll, Reconnection.tried,
      Option.bind_some, hanswered]
    exact hconnected.pollInner rfl hfailure

/-- What comes on the socket is not read yet. -/
theorem Served.frame (h : s.Served intoText fromStr symbols)
    (hopen : s.connection.inner.inner.closed = false) (item : Except ε μ) :
    (s.act intoText fromStr (.frame item)).Served intoText fromStr symbols := by
  obtain ⟨taken, hcurrent, htickers, htaken⟩ := h.tickers
  refine ⟨h.socket, h.future, h.idle, h.errors, taken, ?_, htickers, htaken⟩
  simp only [act, onSocket, Channel.send, hopen, Bool.false_eq_true, if_false]
  rw [hcurrent, List.append_assoc]

/-- What a reconnection waits for changes nothing else. -/
theorem Served.onWaits (h : s.Served intoText fromStr symbols) (f : Waits ε μ → Waits ε μ) :
    (s.onWaits f).Served intoText fromStr symbols := by
  obtain ⟨taken, hcurrent, htickers, htaken⟩ := h.tickers
  refine ⟨h.socket, ?_, ?_, h.errors, taken, hcurrent, htickers, ?_⟩
  · rintro _ hmem
    obtain ⟨future, hfuture, rfl⟩ := Option.map_eq_some_iff.1 hmem
    exact h.future future hfuture
  · exact fun hnone => h.idle (Option.map_eq_none_iff.1 hnone)
  · rw [htaken]
    exact and_congr_left' Option.map_eq_none_iff.symm

end Feed

/-- What a feed for some symbols answers stays so. -/
theorem Feed.Served.act {symbols : List Text} {s : Feed ε μ} (h : s.Served intoText fromStr symbols)
    (event : FeedEvent ε μ) (henabled : s.Enabled event) :
    (s.act intoText fromStr event).Served intoText fromStr symbols := by
  cases event with
  | frame item => exact h.frame henabled item
  | close => exact ⟨h.socket, h.future, h.idle, h.errors, h.tickers⟩
  | answer attempt =>
    rw [Feed.act]
    exact h.onWaits _
  | elapse =>
    rw [Feed.act]
    exact h.onWaits _
  | poll fresh => exact h.poll henabled fresh

theorem Feed.Served.start {symbols : List Text} (socket : Channel (Except ε μ)) :
    (Feed.start symbols socket).Served intoText fromStr symbols := by
  refine ⟨rfl, by exact nofun, fun _ _ => rfl, by exact nofun, [], rfl, rfl, ?_⟩
  exact iff_of_true nofun ⟨rfl, rfl⟩

/-- In every run, the tickers are those of each socket up to its first error, and the only
    error is that ten attempts have failed to open another one. -/
theorem feed_served {symbols : List Text} {s : Feed ε μ}
    (hs : (feed intoText fromStr symbols).Reachable s) : s.Served intoText fromStr symbols := by
  refine hs.invariant (I := Feed.Served intoText fromStr symbols) ?_ ?_
  · rintro _ ⟨socket, rfl⟩
    exact .start socket
  · rintro s event _ _ h _ ⟨henabled, rfl⟩
    exact h.act event henabled

/-! ## Progress -/

/-- A connection that is pending has woken its task, or waits for a socket or for the pause
    before the next attempt. -/
theorem BinanceConnection.woken_or_waits (s : BinanceConnection ε μ)
    (fresh : Option (Attempt ε μ))
    (h : (s.pollNext intoText fromStr fresh).1.answer = .pending) :
    (s.pollNext intoText fromStr fresh).1.woken = true ∨
      ∃ future ∈ (s.pollNext intoText fromStr fresh).2.reconnection, future.Waiting := by
  have hinner (s : BinanceConnection ε μ)
      (h : (s.pollInner intoText fromStr).1.answer = .pending) :
      (s.pollInner intoText fromStr).1.woken = true := by
    rw [pollInner] at h ⊢
    split <;> rename_i heq <;> rw [heq] at h <;> first
      | rfl
      | cases h
  rcases hfuture : s.reconnection with _ | future <;>
    simp only [pollNext, hfuture] at h ⊢
  · exact .inl (hinner s h)
  rcases hanswered : future.answered fresh with _ | (e | socket)
  · obtain ⟨waits, hpoll, hwaits⟩ := Reconnection.poll_of_not_answered hanswered
    simp only [hpoll]
    exact .inr ⟨_, rfl, hwaits⟩
  · have hpoll := Reconnection.poll_of_answered hanswered
    rw [Reconnection.tried_error] at hpoll
    by_cases hretry : future.attempts + 1 < maxRetries
    · rw [if_pos hretry] at hpoll
      simp only [hpoll]
      exact .inr ⟨_, rfl, .inr rfl⟩
    · rw [if_neg hretry] at hpoll
      simp only [hpoll] at h
      cases h
  · have hpoll := Reconnection.poll_of_answered hanswered
    simp only [hpoll, Reconnection.tried] at h ⊢
    exact .inl (hinner _ h)

/-- What is on the socket, up to an error, is delivered by as many polls. -/
theorem Feed.polls_deliver {s : Feed ε μ} (hopen : s.connection.reconnection = none)
    {messages : List μ} {rest : List (Except ε μ)}
    (hqueue : s.connection.inner.inner.queue = messages.map .ok ++ rest) :
    ((Feed.poll intoText fromStr none)^[messages.length] s).connection.inner.inner.queue = rest ∧
      ((Feed.poll intoText fromStr none)^[messages.length] s).answers =
        s.answers ++ (messages.filterMap (readTicker intoText fromStr)).map fun ticker =>
          some (.ok ticker) := by
  induction messages generalizing s with
  | nil => exact ⟨hqueue, (List.append_nil _).symm⟩
  | cons msg messages ih =>
    rw [List.length_cons, Function.iterate_succ_apply]
    have hstep : s.poll intoText fromStr none = { s with
        connection.inner.inner := ⟨messages.map .ok ++ rest, s.connection.inner.inner.closed, false⟩
        answers := s.answers ++ (readTicker intoText fromStr msg).toList.map fun ticker =>
          some (.ok ticker) } := by
      rw [Feed.poll, BinanceConnection.pollNext_of_open hopen, hopen,
        BinanceConnection.pollInner_ok hqueue]
      rcases hmsg : readTicker intoText fromStr msg with _ | ticker <;> simp [hopen, Poll.items]
    obtain ⟨hrest, hanswers⟩ := ih (s := s.poll intoText fromStr none) (by rw [hstep]; exact hopen)
      (by rw [hstep])
    refine ⟨hrest, ?_⟩
    rw [hanswers, hstep, List.filterMap_cons]
    rcases readTicker intoText fromStr msg with _ | ticker <;> simp

end

/-! ### A socket that fails -/

/-- A text stands for the ticker. -/
def tickerText : Text := ['t']

def readText (text : Text) : Option BinanceResponse :=
  if text = tickerText then some ⟨ticker.symbol, ticker⟩ else none

/-- A message that is skipped, a ticker, an error, and a ticker that is lost. -/
def failingSocket : Channel (Except Unit Text) :=
  ⟨[.ok [], .ok tickerText, .error (), .ok tickerText], false, false⟩

/-- The socket fails, and so does the first attempt to open another one. The second one is
    answered at once. -/
def reconnecting : List (FeedEvent Unit Text) :=
  [.poll none, .poll none, .poll none, .answer (.error ()), .poll none, .elapse,
    .poll (some (.ok ⟨[.ok tickerText], false, false⟩))]

/-- The feed then. -/
def reconnected : Feed Unit Text :=
  reconnecting.foldl (Feed.act some readText) (.start [['b', 't', 'c']] failingSocket)

/-- It has answered the tickers before the error, and those of the next socket. -/
theorem reconnected_served :
    reconnected.answers = [some (.ok ticker), some (.ok ticker)] ∧
      reconnected.Served some readText [['b', 't', 'c']] := by
  refine ⟨by decide +kernel, feed_served (System.ReachableBy.run
    (fun s event => decide (s.Enabled event)) ?_ (.init ⟨failingSocket, rfl⟩) (by decide +kernel))⟩
  exact fun s event h => ⟨trivial, of_decide_eq_true h, rfl⟩

end ExEx.Oracle
