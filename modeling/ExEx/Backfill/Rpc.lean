import ExEx.Backfill.Bookkeeping

/-!
# The calls of the RPC module

A call of the RPC sends a message to the extension with the sender of a channel of
its own, and returns what comes over the channel. It fails if the extension is no
more, and so it does if the extension comes to an end before it has responded. Its
caller may go while it waits. The message is handled all the same, and the response
is lost.

* Messages are responded to one by one, in the order of the calls. So in every
  state (`calls_answered`) the calls that have returned come first, each with what
  handling its message came to, and the others are those whose messages are held.
  All this is but for the callers that are gone.
* Jobs are those that calls have returned, with the same ids, and those that were
  started for callers that are gone.
* No call is forgotten: those that wait can be brought to return, with nothing done
  but what the extension and the tasks it has cancelled do by themselves.
-/

namespace ExEx.Backfill

/-! ## Calls -/

structure ErrorObject where
  code : Int
  message : String
  deriving DecidableEq

namespace ErrorObject

def internalErrorCode : Int := -32603

def internal (message : String) : ErrorObject := ⟨internalErrorCode, message⟩

def notSent : ErrorObject :=
  .internal "failed to send backfill message request: SendError \x7b .. \x7d"

def notReceived : ErrorObject :=
  .internal "failed to receive backfill message response: RecvError(())"

end ErrorObject

/-- The receiver of a response. -/
inductive Receiver (α : Type)
  | waiting
  | returned (result : Except ErrorObject α)
  /-- It was dropped before there was a response. -/
  | dropped

namespace Receiver

variable {α : Type}

/-- A response is sent, which fails if the receiver was dropped. -/
def send (result : Except ErrorObject α) : Receiver α → Receiver α
  | .waiting => .returned result
  | receiver => receiver

def drop : Receiver α → Receiver α
  | .waiting => .dropped
  | receiver => receiver

def waits : Receiver α → Bool
  | .waiting => true
  | _ => false

end Receiver

/-- A call, with the receiver of its response. -/
inductive Call
  | start (range : BlockRange) (receiver : Receiver UInt64)
  | cancel (jobId : UInt64) (receiver : Receiver Unit)

namespace Call

/-- The call that a message is sent by, while it waits. -/
def of : BackfillMessage → Option Call
  | .start range => some (.start range .waiting)
  | .cancel jobId => some (.cancel jobId .waiting)
  | .finish _ => none

/-- A call that waits returns an error. -/
def fail (e : ErrorObject) : Call → Call
  | .start range receiver => .start range (receiver.send (.error e))
  | .cancel jobId receiver => .cancel jobId (receiver.send (.error e))

/-- A call that waits returns the response. -/
def receive (response : Outcome) (call : Call) : Call :=
  match call, response with
  | .start range receiver, .start _ result =>
    .start range (receiver.send (result.mapError .internal))
  | .cancel jobId receiver, .cancel _ result =>
    .cancel jobId (receiver.send (result.mapError .internal))
  | call, _ => call

/-- The caller goes. -/
def drop : Call → Call
  | .start range receiver => .start range receiver.drop
  | .cancel jobId receiver => .cancel jobId receiver.drop

def waits : Call → Bool
  | .start _ receiver => receiver.waits
  | .cancel _ receiver => receiver.waits

/-- The id of the job that a call has started. -/
def startedJob : Call → Option UInt64
  | .start _ (.returned (.ok jobId)) => some jobId
  | _ => none

/-- The job that a call has cancelled. -/
def cancelledJob : Call → Option UInt64
  | .cancel jobId (.returned (.ok ())) => some jobId
  | _ => none

end Call

/-- The extension with the calls that were made. -/
structure BackfillRpcExt where
  exex : BackfillExEx
  calls : List Call
  /-- The calls that wait for the messages the extension holds: the one it is at, if it waits
      for an acknowledgement, and those in its queue. -/
  responses : List (Option ℕ)

namespace BackfillRpcExt

variable (s : BackfillRpcExt) (exex : BackfillExEx)

/-- Makes a call. -/
def sendBackfillMessage (call : Call) : BackfillRpcExt :=
  if s.exex.control = .stopped then { s with exex, calls := s.calls ++ [call.fail .notSent] }
  else ⟨exex, s.calls ++ [call], s.responses ++ [some s.calls.length]⟩

/-- The senders that the extension holds are dropped with it. -/
def dropSenders : BackfillRpcExt where
  exex := exex
  calls := s.calls.mapIdx fun i call =>
    if some i ∈ s.responses then call.fail .notReceived else call
  responses := []

/-- The extension has gone on, and responds unless it still waits. -/
def respond : BackfillRpcExt :=
  match exex.control, exex.outcomes.getLast?, s.responses with
  | .stopped, _, _ => s.dropSenders exex
  | .ready, some outcome, some i :: responses =>
    ⟨exex, s.calls.modify i (Call.receive outcome), responses⟩
  | .ready, _, _ :: responses => { s with exex, responses }
  | _, _, _ => { s with exex }

/-- The state after an event of the extension, if it can happen. -/
def act (e : Event) : Option BackfillRpcExt :=
  (s.exex.act e).map fun exex =>
    match e with
    | .start range => s.sendBackfillMessage exex (.start range .waiting)
    | .cancel jobId => s.sendBackfillMessage exex (.cancel jobId .waiting)
    | .handle => s.respond exex
    | .resume => s.respond exex
    | .stop => s.dropSenders exex
    | .finish _ =>
      if s.exex.control = .stopped then { s with exex }
      else { s with exex, responses := s.responses ++ [none] }
    | _ => { s with exex }

end BackfillRpcExt

inductive RpcEvent
  | exex (e : Event)
  /-- The caller of a call that waits goes. -/
  | drop (i : ℕ)

/-- The state after an event, if it can happen. -/
def BackfillRpcExt.next (s : BackfillRpcExt) : RpcEvent → Option BackfillRpcExt
  | .exex e => s.act e
  | .drop i =>
    if (s.calls[i]?).any Call.waits then some { s with calls := s.calls.modify i Call.drop }
    else none

/-- Runs of the extension, with the calls that are made. -/
def backfillRpc (backfillLimit : ℕ) : System BackfillRpcExt RpcEvent where
  init s := s = ⟨.new backfillLimit, [], []⟩
  step s e s' := s.next e = some s'

/-! ## What the extension holds -/

/-- The message that is responded to with an outcome. -/
def Outcome.message : Outcome → BackfillMessage
  | .start range _ => .start range
  | .cancel jobId _ => .cancel jobId
  | .finish jobId => .finish jobId

/-- The call that an outcome is returned by. -/
def Outcome.call (outcome : Outcome) : Option Call :=
  (Call.of outcome.message).map (Call.receive outcome)

namespace BackfillExEx

variable {s s' : BackfillExEx}

/-- The messages that the extension has not responded to. -/
def held (s : BackfillExEx) : List BackfillMessage :=
  match s.control with
  | .awaiting jobId _ => .cancel jobId :: s.backfillRx
  | _ => s.backfillRx

/-- The extension goes on with the first of the messages it holds: it comes to an outcome,
    waits for an acknowledgement, or comes to an end. -/
inductive GoesOn (s s' : BackfillExEx) : Prop
  | responds (outcome : Outcome) (hheld : s.held = outcome.message :: s'.backfillRx)
    (hready : s'.control = .ready) (houtcomes : s'.outcomes = s.outcomes ++ [outcome])
  | awaits (jobId : UInt64) (task : ℕ) (hcontrol : s'.control = .awaiting jobId task)
    (hheld : s'.held = s.held) (houtcomes : s'.outcomes = s.outcomes)
  | stops (hstopped : s'.control = .stopped) (houtcomes : s'.outcomes = s.outcomes)

theorem goesOn_startBackfill (range : BlockRange)
    (hheld : s.held = .start range :: s'.backfillRx) (houtcomes : s'.outcomes = s.outcomes)
    (hready : s'.control = .ready) : GoesOn s (s'.startBackfill range) := by
  rw [startBackfill]
  split_ifs
  · exact .responds (.start range (.error _)) hheld hready (by rw [answer, houtcomes])
  · exact .stops rfl houtcomes
  · exact .responds (.start range (.ok s'.nextBackfillJobId)) hheld hready (by rw [houtcomes])

theorem goesOn_cancelBackfill (jobId : UInt64)
    (hheld : s.held = .cancel jobId :: s'.backfillRx) (houtcomes : s'.outcomes = s.outcomes) :
    GoesOn s (s'.cancelBackfill jobId) := by
  rw [cancelBackfill]
  rcases s'.backfillJobs.lookup jobId with _ | task
  · exact .responds (.cancel jobId _) hheld rfl (by rw [answerCancel, houtcomes])
  · simp only
    rcases s'.receiver task with _ | job
    · exact .responds (.cancel jobId _) hheld rfl (by rw [answerCancel, houtcomes])
    · exact .awaits jobId task rfl hheld.symm houtcomes

theorem goesOn_handle (h : s.act .handle = some s') : GoesOn s s' := by
  obtain ⟨hready, message, rest, hrx, rfl⟩ := act_handle.1 h
  have hheld : s.held = message :: rest := by simp only [held, hready, hrx]
  rcases message with range | jobId | jobId
  · exact goesOn_startBackfill range hheld rfl hready
  · exact goesOn_cancelBackfill jobId hheld rfl
  · exact .responds (.finish jobId) hheld hready rfl

theorem goesOn_resume (h : s.act .resume = some s') : GoesOn s s' := by
  obtain ⟨jobId, task, hcontrol, -, rfl⟩ := act_resume.1 h
  exact .responds (.cancel jobId (.ok ())) (by simp only [held, hcontrol]; rfl) rfl rfl

/-- The steps of the tasks leave the extension where it is. -/
structure SameExtension (s s' : BackfillExEx) : Prop where
  control : s'.control = s.control
  backfillRx : s'.backfillRx = s.backfillRx
  outcomes : s'.outcomes = s.outcomes

theorem sameExtension_advance {task : ℕ} {enabled : Job → Bool} {f : Job → Job}
    (h : s.advance task enabled f = some s') : SameExtension s s' := by
  obtain ⟨job, -, -, rfl⟩ := advance_eq_some.1 h
  exact ⟨rfl, rfl, rfl⟩

theorem SameExtension.held (h : SameExtension s s') : s'.held = s.held := by
  rw [BackfillExEx.held, BackfillExEx.held, h.control, h.backfillRx]

end BackfillExEx

/-! ## The calls of the messages -/

section

variable (n : ℕ) (messages messages' : List BackfillMessage)

/-- The calls of messages that wait for their responses. -/
def waiting : List Call := messages.filterMap Call.of

/-- What is responded to with messages, when the first of their calls is the `n`-th. -/
def responsesOf : ℕ → List BackfillMessage → List (Option ℕ)
  | _, [] => []
  | n, .finish _ :: messages => none :: responsesOf n messages
  | n, _ :: messages => some n :: responsesOf (n + 1) messages

theorem waiting_cons (message : BackfillMessage) :
    waiting (message :: messages) = (Call.of message).toList ++ waiting messages := by
  cases message <;> rfl

theorem waiting_append :
    waiting (messages ++ messages') = waiting messages ++ waiting messages' :=
  List.filterMap_append

theorem responsesOf_cons (message : BackfillMessage) : responsesOf n (message :: messages) =
    (Call.of message).map (fun _ => n) ::
      responsesOf (n + (Call.of message).toList.length) messages := by
  cases message <;> rfl

theorem responsesOf_append : responsesOf n (messages ++ messages') =
    responsesOf n messages ++ responsesOf (n + (waiting messages).length) messages' := by
  induction messages generalizing n with
  | nil => rfl
  | cons message messages ih =>
    rw [List.cons_append, responsesOf_cons, responsesOf_cons, ih, waiting_cons, List.length_append,
      Nat.add_assoc, List.cons_append]

theorem mem_responsesOf {i : ℕ} : some i ∈ responsesOf n messages ↔
    n ≤ i ∧ i < n + (waiting messages).length := by
  induction messages generalizing n with
  | nil => simp [responsesOf, waiting]
  | cons message messages ih =>
    cases message <;> simp [responsesOf, ih, waiting_cons, Call.of] <;> omega

end

theorem modify_length_append (calls calls' : List Call) (call : Call) (f : Call → Call) :
    (calls ++ call :: calls').modify calls.length f = calls ++ f call :: calls' := by
  induction calls with
  | nil => rfl
  | cons c calls ih => simp [ih]

/-- What is done to the calls that wait is done to none of those before them. -/
theorem mapIdx_responsesOf (calls : List Call) (messages : List BackfillMessage) (f : Call → Call) :
    ((calls ++ waiting messages).mapIdx fun i call =>
        if some i ∈ responsesOf calls.length messages then f call else call) =
      calls ++ (waiting messages).map f := by
  refine List.ext_getElem (by simp) fun i hi hi' => ?_
  simp only [List.getElem_mapIdx, mem_responsesOf]
  rcases Nat.lt_or_ge i calls.length with hlt | hge
  · rw [if_neg (fun h => Nat.not_le_of_lt hlt h.1), List.getElem_append_left hlt,
      List.getElem_append_left hlt]
  · rw [if_pos ⟨hge, by simpa using hi⟩, List.getElem_append_right hge,
      List.getElem_append_right hge, List.getElem_map]

/-- The calls that have returned what messages came to. -/
def answered (outcomes : List Outcome) : List Call := outcomes.filterMap Outcome.call

theorem answered_concat (outcomes : List Outcome) (outcome : Outcome) :
    answered (outcomes ++ [outcome]) = answered outcomes ++ outcome.call.toList := by
  rw [answered, List.filterMap_append]
  cases outcome <;> rfl

theorem waits_of_mem_answered {outcomes : List Outcome} {call : Call}
    (h : call ∈ answered outcomes) : call.waits = false := by
  obtain ⟨outcome, -, hcall⟩ := List.mem_filterMap.1 h
  cases outcome <;> cases hcall <;> rfl

theorem waits_fail (e : ErrorObject) (call : Call) : (call.fail e).waits = false := by
  rcases call with ⟨range, _ | _ | _⟩ | ⟨jobId, _ | _ | _⟩ <;> rfl

namespace BackfillRpcExt

theorem exex_respond (s : BackfillRpcExt) (exex : BackfillExEx) : (s.respond exex).exex = exex := by
  rw [respond]
  split <;> rfl

/-- The first of the calls that wait returns what its message came to. -/
theorem respond_of_ready (s : BackfillRpcExt) {exex : BackfillExEx} {outcomes : List Outcome}
    {outcome : Outcome} (hready : exex.control = .ready)
    (houtcomes : exex.outcomes = outcomes ++ [outcome])
    (hcalls : s.calls =
      answered outcomes ++ ((Call.of outcome.message).toList ++ waiting exex.backfillRx))
    (hresponses : s.responses =
      responsesOf (answered outcomes).length (outcome.message :: exex.backfillRx)) :
    (s.respond exex).calls = answered exex.outcomes ++ waiting exex.backfillRx ∧
      (s.respond exex).responses =
        responsesOf (answered exex.outcomes).length exex.backfillRx := by
  have hlast : exex.outcomes.getLast? = some outcome := by simp [houtcomes]
  rw [houtcomes, answered_concat, Outcome.call]
  rw [responsesOf_cons] at hresponses
  rcases hcall : Call.of outcome.message with _ | call <;> rw [hcall] at hcalls hresponses
  · have hrespond : s.respond exex =
        { s with exex, responses := responsesOf (answered outcomes).length exex.backfillRx } := by
      simp [respond, hready, hlast, hresponses]
    rw [hrespond]
    exact ⟨by simpa using hcalls, by simp⟩
  · have hrespond : s.respond exex =
        ⟨exex, s.calls.modify (answered outcomes).length (Call.receive outcome),
          responsesOf ((answered outcomes).length + 1) exex.backfillRx⟩ := by
      simp [respond, hready, hlast, hresponses]
    rw [hrespond, hcalls]
    exact ⟨by simp [modify_length_append], by simp⟩

/-- Calls return in their order, each with what its message came to, when no caller goes. -/
structure InOrder (s : BackfillRpcExt) : Prop where
  calls : s.exex.control ≠ .stopped →
    s.calls = answered s.exex.outcomes ++ waiting s.exex.held
  responses : s.exex.control ≠ .stopped →
    s.responses = responsesOf (answered s.exex.outcomes).length s.exex.held
  /-- The calls that waited as the extension came to an end have failed, and so have those
      that were made since. -/
  stopped : s.exex.control = .stopped → s.responses = [] ∧
    ∃ dropped refused : List BackfillMessage,
      s.calls = answered s.exex.outcomes ++ (waiting dropped).map (Call.fail .notReceived) ++
        (waiting refused).map (Call.fail .notSent)

namespace InOrder

variable {s : BackfillRpcExt} {exex : BackfillExEx}

theorem congr (h : s.InOrder) (hsame : s.exex.SameExtension exex) :
    ({ s with exex } : BackfillRpcExt).InOrder where
  calls hcontrol := by
    rw [hsame.control] at hcontrol
    rw [hsame.outcomes, hsame.held, h.calls hcontrol]
  responses hcontrol := by
    rw [hsame.control] at hcontrol
    rw [hsame.outcomes, hsame.held, h.responses hcontrol]
  stopped hcontrol := by
    rw [hsame.control] at hcontrol
    rw [hsame.outcomes]
    exact h.stopped hcontrol

/-- A message is sent, with a call or without one. -/
theorem send (h : s.InOrder) (message : BackfillMessage) (hcontrol : s.exex.control ≠ .stopped) :
    (⟨s.exex.send message, s.calls ++ (Call.of message).toList,
      s.responses ++ responsesOf s.calls.length [message]⟩ : BackfillRpcExt).InOrder := by
  have hheld : (s.exex.send message).held = s.exex.held ++ [message] := by
    rw [BackfillExEx.send, if_neg hcontrol]
    simp only [BackfillExEx.held]
    cases s.exex.control <;> rfl
  have houtcomes : (s.exex.send message).outcomes = s.exex.outcomes := by
    rw [BackfillExEx.send, if_neg hcontrol]
  have hsent : (s.exex.send message).control = s.exex.control := by
    rw [BackfillExEx.send, if_neg hcontrol]
  refine ⟨fun _ => ?_, fun _ => ?_, fun hstopped => absurd (hsent ▸ hstopped) hcontrol⟩
  · rw [houtcomes, hheld, waiting_append, ← List.append_assoc, ← h.calls hcontrol, waiting_cons]
    simp [waiting]
  · rw [houtcomes, hheld, responsesOf_append, ← h.responses hcontrol, h.calls hcontrol,
      List.length_append]

/-- A call is made after the extension has come to an end. -/
theorem refuse (h : s.InOrder) (message : BackfillMessage) (hcontrol : s.exex.control = .stopped) :
    ({ s with
      exex := s.exex.send message
      calls := s.calls ++ (Call.of message).toList.map (Call.fail .notSent)
      } : BackfillRpcExt).InOrder := by
  rw [BackfillExEx.send, if_pos hcontrol]
  refine ⟨fun hne => absurd hcontrol hne, fun hne => absurd hcontrol hne, fun _ => ?_⟩
  obtain ⟨hresponses, dropped, refused, hcalls⟩ := h.stopped hcontrol
  refine ⟨hresponses, dropped, refused ++ [message], ?_⟩
  rw [hcalls, waiting_append, waiting_cons]
  simp [waiting]

/-- The extension comes to an end. -/
theorem dropSenders (h : s.InOrder) (hcontrol : exex.control = .stopped)
    (houtcomes : exex.outcomes = s.exex.outcomes) : (s.dropSenders exex).InOrder := by
  refine ⟨fun hne => absurd hcontrol hne, fun hne => absurd hcontrol hne, fun _ => ⟨rfl, ?_⟩⟩
  rw [BackfillRpcExt.dropSenders, houtcomes]
  by_cases hstopped : s.exex.control = .stopped
  · obtain ⟨hresponses, dropped, refused, hcalls⟩ := h.stopped hstopped
    have hsame : s.calls.mapIdx (fun _ call => call) = s.calls :=
      List.ext_getElem? fun i => by simp
    refine ⟨dropped, refused, ?_⟩
    simp only [hresponses, List.not_mem_nil, if_false]
    rw [hsame, hcalls]
  · refine ⟨s.exex.held, [], ?_⟩
    rw [h.responses hstopped, h.calls hstopped, mapIdx_responsesOf]
    simp [waiting]

/-- The extension goes on. -/
theorem respond (h : s.InOrder) (hgoesOn : s.exex.GoesOn exex)
    (hcontrol : s.exex.control ≠ .stopped) : (s.respond exex).InOrder := by
  rcases hgoesOn with ⟨outcome, hheld, hready, houtcomes⟩ | ⟨jobId, task, hawaits, hheld, houtcomes⟩ |
    ⟨hstopped, houtcomes⟩
  · have hresponses := h.responses hcontrol
    have hcalls := h.calls hcontrol
    rw [hheld, waiting_cons] at hcalls
    rw [hheld] at hresponses
    obtain ⟨hcalls', hresponses'⟩ := s.respond_of_ready hready houtcomes hcalls hresponses
    have hheld' : (s.respond exex).exex.held = exex.backfillRx := by
      rw [exex_respond, BackfillExEx.held, hready]
    refine ⟨fun _ => ?_, fun _ => ?_, fun hstopped => ?_⟩
    · rw [hcalls', hheld', exex_respond]
    · rw [hresponses', hheld', exex_respond]
    · rw [exex_respond, hready] at hstopped
      cases hstopped
  · have hsame : s.respond exex = { s with exex } := by simp [BackfillRpcExt.respond, hawaits]
    rw [hsame]
    refine ⟨fun _ => ?_, fun _ => ?_, fun hstopped => by rw [hawaits] at hstopped; cases hstopped⟩
    · rw [houtcomes, hheld, ← h.calls hcontrol]
    · rw [houtcomes, hheld, ← h.responses hcontrol]
  · have hdrop : s.respond exex = s.dropSenders exex := by
      simp [BackfillRpcExt.respond, hstopped]
    exact hdrop ▸ h.dropSenders hstopped houtcomes

/-- The calls that are made are those of the messages that are sent. -/
theorem sendBackfillMessage (h : s.InOrder) {message : BackfillMessage} {call : Call}
    (hcall : Call.of message = some call) (hsend : exex = s.exex.send message) :
    (s.sendBackfillMessage exex call).InOrder := by
  subst hsend
  rw [BackfillRpcExt.sendBackfillMessage]
  split_ifs with hcontrol
  · have hrefuse := h.refuse message hcontrol
    rwa [hcall] at hrefuse
  · have hsent := h.send message hcontrol
    rwa [hcall, responsesOf_cons, hcall] at hsent

theorem act (h : s.InOrder) {e : Event} {s' : BackfillRpcExt} (hact : s.act e = some s') :
    s'.InOrder := by
  obtain ⟨exex, hexex, rfl⟩ := Option.map_eq_some_iff.1 hact
  cases e with
  | start range => exact h.sendBackfillMessage rfl (Option.some.inj hexex).symm
  | cancel jobId => exact h.sendBackfillMessage rfl (Option.some.inj hexex).symm
  | handle =>
    refine h.respond (BackfillExEx.goesOn_handle hexex) fun hstopped => ?_
    obtain ⟨hready, -⟩ := BackfillExEx.act_handle.1 hexex
    rw [hready] at hstopped
    cases hstopped
  | resume =>
    refine h.respond (BackfillExEx.goesOn_resume hexex) fun hstopped => ?_
    obtain ⟨jobId, task, hawaiting, -⟩ := BackfillExEx.act_resume.1 hexex
    rw [hawaiting] at hstopped
    cases hstopped
  | stop =>
    obtain rfl := Option.some.inj hexex
    exact h.dropSenders rfl rfl
  | finish task =>
    obtain ⟨job, -, -, rfl⟩ := BackfillExEx.act_finish.1 hexex
    have hexiting : ({ s with exex.tasks := s.exex.tasks.set task { job with phase := .exiting } } :
      BackfillRpcExt).InOrder := h.congr ⟨rfl, rfl, rfl⟩
    dsimp only
    split_ifs with hcontrol
    · simpa [Call.of] using hexiting.refuse (.finish job.jobId) hcontrol
    · simpa [Call.of, responsesOf] using hexiting.send (.finish job.jobId) hcontrol
  | release task =>
    obtain ⟨job, -, -, rfl⟩ := BackfillExEx.act_release.1 hexex
    exact h.congr ⟨rfl, rfl, rfl⟩
  | process task => exact h.congr (BackfillExEx.sameExtension_advance hexex)
  | complete task => exact h.congr (BackfillExEx.sameExtension_advance hexex)
  | cancelled task => exact h.congr (BackfillExEx.sameExtension_advance hexex)
  | acknowledge task => exact h.congr (BackfillExEx.sameExtension_advance hexex)

end InOrder

end BackfillRpcExt

/-! ## Callers that go -/

/-- A call, and what is left of it when its caller may be gone. -/
inductive Call.Kept : Call → Call → Prop
  | same (call : Call) : Kept call call
  | start (range : BlockRange) (receiver : Receiver UInt64) :
    Kept (.start range receiver) (.start range .dropped)
  | cancel (jobId : UInt64) (receiver : Receiver Unit) :
    Kept (.cancel jobId receiver) (.cancel jobId .dropped)

namespace Call.Kept

variable {call call' : Call}

theorem fail (h : Kept call call') (e : ErrorObject) : Kept (call.fail e) (call'.fail e) := by
  cases h with
  | same => exact .same _
  | start range receiver => exact .start range _
  | cancel jobId receiver => exact .cancel jobId _

theorem receive (h : Kept call call') (response : Outcome) :
    Kept (call.receive response) (call'.receive response) := by
  cases h with
  | same => exact .same _
  | start range receiver => cases response <;> exact .start range _
  | cancel jobId receiver => cases response <;> exact .cancel jobId _

theorem drop (h : Kept call call') : Kept call call'.drop := by
  cases h with
  | same =>
    rcases call with ⟨range, _ | _ | _⟩ | ⟨jobId, _ | _ | _⟩ <;> first
      | exact .same _
      | exact .start _ _
      | exact .cancel _ _
  | start range receiver => exact .start range receiver
  | cancel jobId receiver => exact .cancel jobId receiver

theorem waits (h : Kept call call') (hwaits : call.waits = false) : call'.waits = false := by
  cases h with
  | same => exact hwaits
  | start => rfl
  | cancel => rfl

theorem startedJob (h : Kept call call') :
    call'.startedJob = call.startedJob ∨ call'.startedJob = none := by
  cases h with
  | same => exact .inl rfl
  | start => exact .inr rfl
  | cancel => exact .inr rfl

end Call.Kept

theorem forall₂_modify {α β : Type} {R : α → β → Prop} {f : α → α} {g : β → β} {l : List α}
    {l' : List β} (h : List.Forall₂ R l l') (hfg : ∀ a b, R a b → R (f a) (g b)) (i : ℕ) :
    List.Forall₂ R (l.modify i f) (l'.modify i g) := by
  induction h generalizing i with
  | nil => cases i <;> exact .nil
  | cons hab h ih =>
    cases i with
    | zero => exact .cons (hfg _ _ hab) h
    | succ i => exact .cons hab (ih i)

theorem forall₂_mapIdx {α β : Type} {R : α → β → Prop} {f : ℕ → α → α} {g : ℕ → β → β} {l : List α}
    {l' : List β} (h : List.Forall₂ R l l') (hfg : ∀ i a b, R a b → R (f i a) (g i b)) :
    List.Forall₂ R (l.mapIdx f) (l'.mapIdx g) := by
  induction h generalizing f g with
  | nil => exact .nil
  | cons hab h ih =>
    rw [List.mapIdx_cons, List.mapIdx_cons]
    exact .cons (hfg 0 _ _ hab) (ih fun i => hfg (i + 1))

theorem exists_of_forall₂ {α β : Type} {R : α → β → Prop} {l : List α} {l' : List β}
    (h : List.Forall₂ R l l') {b : β} (hb : b ∈ l') : ∃ a ∈ l, R a b := by
  obtain ⟨i, hi, rfl⟩ := List.getElem_of_mem hb
  have hi' : i < l.length := h.length_eq.symm ▸ hi
  exact ⟨l[i], List.getElem_mem hi', h.get hi' hi⟩

/-- What is started and returned is started, by the same call. -/
theorem sublist_startedJob {calls calls' : List Call} (h : List.Forall₂ Call.Kept calls calls') :
    (calls'.filterMap Call.startedJob).Sublist (calls.filterMap Call.startedJob) := by
  induction h with
  | nil => exact .slnil
  | @cons call call' calls calls' hkept _ ih =>
    rw [List.filterMap_cons, List.filterMap_cons]
    rcases hkept.startedJob with heq | hnone
    · rw [heq]
      cases call.startedJob with
      | none => exact ih
      | some jobId => exact ih.cons_cons jobId
    · rw [hnone]
      cases call.startedJob with
      | none => exact ih
      | some jobId => exact ih.cons jobId

namespace BackfillRpcExt

/-- The state `t` as it were if all callers had stayed. -/
structure Attended (t s : BackfillRpcExt) : Prop where
  exex : t.exex = s.exex
  calls : List.Forall₂ Call.Kept t.calls s.calls
  responses : t.responses = s.responses

namespace Attended

variable {t s s' : BackfillRpcExt}

theorem sendBackfillMessage (h : t.Attended s) (exex : BackfillExEx) (call : Call) :
    (t.sendBackfillMessage exex call).Attended (s.sendBackfillMessage exex call) := by
  rw [BackfillRpcExt.sendBackfillMessage, BackfillRpcExt.sendBackfillMessage, h.exex]
  split_ifs
  · exact ⟨rfl, List.rel_append h.calls (.cons (.same _) .nil), h.responses⟩
  · refine ⟨rfl, List.rel_append h.calls (.cons (.same _) .nil), ?_⟩
    rw [h.responses, h.calls.length_eq]

theorem dropSenders (h : t.Attended s) (exex : BackfillExEx) :
    (t.dropSenders exex).Attended (s.dropSenders exex) := by
  refine ⟨rfl, forall₂_mapIdx h.calls fun i call call' hkept => ?_, rfl⟩
  rw [h.responses]
  split_ifs
  · exact hkept.fail _
  · exact hkept

theorem respond (h : t.Attended s) (exex : BackfillExEx) :
    (t.respond exex).Attended (s.respond exex) := by
  rw [BackfillRpcExt.respond, BackfillRpcExt.respond, h.responses]
  split
  · exact h.dropSenders exex
  · exact ⟨rfl, forall₂_modify h.calls (fun _ _ hkept => hkept.receive _) _, rfl⟩
  · exact ⟨rfl, h.calls, rfl⟩
  · exact ⟨rfl, h.calls, rfl⟩

/-- The extension does not see which callers are gone. -/
theorem act (h : t.Attended s) {e : Event} (hact : s.act e = some s') :
    ∃ t', t.act e = some t' ∧ t'.Attended s' := by
  obtain ⟨exex, hexex, rfl⟩ := Option.map_eq_some_iff.1 hact
  have hsame : t.exex.act e = some exex := h.exex ▸ hexex
  have hact' : t.act e = _ := congrArg (Option.map _) hsame
  refine ⟨_, hact', ?_⟩
  cases e with
  | start range => exact h.sendBackfillMessage exex _
  | cancel jobId => exact h.sendBackfillMessage exex _
  | handle => exact h.respond exex
  | resume => exact h.respond exex
  | stop => exact h.dropSenders exex
  | finish task =>
    dsimp only
    rw [h.exex]
    split_ifs
    · exact ⟨rfl, h.calls, h.responses⟩
    · exact ⟨rfl, h.calls, congrArg (· ++ [none]) h.responses⟩
  | _ => exact ⟨rfl, h.calls, h.responses⟩

/-- A caller that goes changes nothing else. -/
theorem drop (h : t.Attended s) (i : ℕ) :
    t.Attended { s with calls := s.calls.modify i Call.drop } := by
  refine ⟨h.exex, ?_, h.responses⟩
  have hkept := forall₂_modify (f := id) h.calls (fun _ _ hkept => hkept.drop) i
  rwa [List.modify_id] at hkept

end Attended

end BackfillRpcExt

/-! ## The calls that wait -/

/-- The task that is waited for has been sent the cancellation. -/
def Awaited (control : Control) (tasks : List Job) : Prop :=
  ∀ jobId task, control = .awaiting jobId task →
    ∃ job, tasks[task]? = some job ∧ job.cancelSent = true

section

variable {control : Control} {tasks : List Job} {s s' : BackfillExEx}

theorem Awaited.set (h : Awaited control tasks) {k : ℕ} {job job' : Job}
    (hk : tasks[k]? = some job) (hsent : job'.cancelSent = job.cancelSent) :
    Awaited control (tasks.set k job') := by
  intro jobId task hcontrol
  obtain ⟨job₁, htask, hsent₁⟩ := h jobId task hcontrol
  by_cases heq : k = task
  · subst heq
    obtain rfl := Option.some.inj (hk.symm.trans htask)
    exact ⟨job', List.getElem?_set_self (List.getElem?_eq_some_iff.1 hk).1, hsent ▸ hsent₁⟩
  · exact ⟨job₁, (List.getElem?_set_ne heq).trans htask, hsent₁⟩

theorem Awaited.advance (h : Awaited s.control s.tasks) {task : ℕ} {enabled : Job → Bool}
    {f : Job → Job} (hadvance : s.advance task enabled f = some s')
    (hsent : ∀ job, (f job).cancelSent = job.cancelSent) : Awaited s'.control s'.tasks := by
  obtain ⟨job, hk, -, rfl⟩ := BackfillExEx.advance_eq_some.1 hadvance
  exact h.set hk (hsent job)

theorem awaited_handle (h : s.act .handle = some s') : Awaited s'.control s'.tasks := by
  obtain ⟨hready, message, rest, -, rfl⟩ := BackfillExEx.act_handle.1 h
  rcases message with range | jobId | jobId
  · simp only [BackfillExEx.handleBackfillMessage, BackfillExEx.startBackfill]
    split_ifs
    · exact fun _ _ heq => by simp [BackfillExEx.answer, hready] at heq
    · exact fun _ _ heq => by cases heq
    · exact fun _ _ heq => by simp [hready] at heq
  · simp only [BackfillExEx.handleBackfillMessage, BackfillExEx.cancelBackfill]
    rcases s.backfillJobs.lookup jobId with _ | task
    · exact fun _ _ heq => by cases heq
    · simp only
      rcases hreceiver : BackfillExEx.receiver { s with backfillRx := rest } task with _ | job
      · exact fun _ _ heq => by cases heq
      · obtain ⟨hk, -⟩ := BackfillExEx.receiver_eq_some.1 hreceiver
        rintro _ _ ⟨⟩
        exact ⟨_, List.getElem?_set_self (List.getElem?_eq_some_iff.1 hk).1, rfl⟩
  · exact fun _ _ heq => by simp [BackfillExEx.handleBackfillMessage, hready] at heq

theorem Awaited.act (h : Awaited s.control s.tasks) {e : Event} (hact : s.act e = some s') :
    Awaited s'.control s'.tasks := by
  cases e with
  | start range =>
    obtain rfl := Option.some.inj hact
    rwa [BackfillExEx.send_eq]
  | cancel jobId =>
    obtain rfl := Option.some.inj hact
    rwa [BackfillExEx.send_eq]
  | handle => exact awaited_handle hact
  | resume =>
    obtain ⟨jobId, task, -, -, rfl⟩ := BackfillExEx.act_resume.1 hact
    exact fun _ _ heq => by cases heq
  | stop =>
    obtain rfl := Option.some.inj hact
    exact fun _ _ heq => by cases heq
  | finish task =>
    obtain ⟨job, hk, -, rfl⟩ := BackfillExEx.act_finish.1 hact
    rw [BackfillExEx.send_eq]
    exact h.set hk rfl
  | release task =>
    obtain ⟨job, hk, -, rfl⟩ := BackfillExEx.act_release.1 hact
    exact h.set hk rfl
  | process task => exact h.advance hact fun _ => rfl
  | complete task => exact h.advance hact fun _ => rfl
  | cancelled task => exact h.advance hact fun _ => rfl
  | acknowledge task => exact h.advance hact fun _ => rfl

theorem awaited {backfillLimit : ℕ} (hs : (backfill backfillLimit).Reachable s) :
    Awaited s.control s.tasks := by
  refine hs.invariant (I := fun s => Awaited s.control s.tasks) ?_ fun s e s' _ h _ hstep => h.act hstep
  rintro s rfl
  exact fun _ _ heq => by cases heq

end

/-- What the extension and the tasks it has cancelled do by themselves. -/
inductive Event.Responds : Event → Prop
  | handle : Responds .handle
  | resume : Responds .resume
  | cancelled (task : ℕ) : Responds (.cancelled task)
  | acknowledge (task : ℕ) : Responds (.acknowledge task)

namespace BackfillRpcExt

/-- A later state, with nothing done but responses. -/
def Responding : BackfillRpcExt → BackfillRpcExt → Prop :=
  Relation.ReflTransGen fun s s' => ∃ e : Event, e.Responds ∧ s.act e = some s'

variable {backfillLimit : ℕ} {s s' : BackfillRpcExt}

theorem exex_act {e : Event} (h : s.act e = some s') : s.exex.act e = some s'.exex := by
  obtain ⟨exex, hexex, rfl⟩ := Option.map_eq_some_iff.1 h
  rw [hexex]
  cases e <;> simp only [sendBackfillMessage, exex_respond, dropSenders] <;> (try split_ifs) <;> rfl

theorem isSome_act {e : Event} {exex : BackfillExEx} (h : s.exex.act e = some exex) :
    ∃ s', s.act e = some s' ∧ s'.exex = exex := by
  have hact : s.act e = _ := congrArg (Option.map _) h
  exact ⟨_, hact, Option.some.inj ((exex_act hact).symm.trans h)⟩

theorem reachable_exex (hs : (backfillRpc backfillLimit).Reachable s) :
    (backfill backfillLimit).Reachable s.exex := by
  refine hs.invariant (I := fun s => (backfill backfillLimit).Reachable s.exex) ?_ ?_
  · rintro s rfl
    exact .init rfl
  · intro s e s' _ h _ hstep
    rcases e with e | i
    · exact .step h trivial (exex_act hstep)
    · replace hstep : s.next (.drop i) = some s' := hstep
      rw [next] at hstep
      split_ifs at hstep
      obtain rfl := Option.some.inj hstep
      exact h

theorem Responding.reachable (h : s.Responding s') (hs : (backfillRpc backfillLimit).Reachable s) :
    (backfillRpc backfillLimit).Reachable s' := by
  induction h with
  | refl => exact hs
  | tail _ hstep ih =>
    obtain ⟨e, -, hact⟩ := hstep
    exact ih.step (e := .exex e) trivial hact

theorem inOrder (hs : (backfillRpc backfillLimit).Reachable s) :
    ∃ t : BackfillRpcExt, t.InOrder ∧ t.Attended s := by
  refine hs.invariant (I := fun s => ∃ t : BackfillRpcExt, t.InOrder ∧ t.Attended s) ?_ ?_
  · rintro s rfl
    exact ⟨_, ⟨fun _ => rfl, fun _ => rfl, fun hstopped => by cases hstopped⟩, rfl, .nil, rfl⟩
  · rintro s e s' _ ⟨t, horder, h⟩ _ hstep
    rcases e with e | i
    · obtain ⟨t', hact, h'⟩ := h.act hstep
      exact ⟨t', horder.act hact, h'⟩
    · replace hstep : s.next (.drop i) = some s' := hstep
      rw [next] at hstep
      split_ifs at hstep
      obtain rfl := Option.some.inj hstep
      exact ⟨t, horder, h.drop i⟩

/-- The wait for an acknowledgement ends, once none can come. -/
theorem responding_resume {jobId : UInt64} {task : ℕ}
    (hcontrol : s.exex.control = .awaiting jobId task)
    (hany : (s.exex.tasks[task]?).any Job.mayAcknowledge = false) :
    ∃ s', s.Responding s' ∧ s'.exex.held.length < s.exex.held.length := by
  obtain ⟨s', hact, hexex⟩ :=
    isSome_act (BackfillExEx.act_resume.2 ⟨jobId, task, hcontrol, hany, rfl⟩)
  refine ⟨s', .single ⟨.resume, .resume, hact⟩, ?_⟩
  rw [hexex]
  simp [BackfillExEx.held, BackfillExEx.answerCancel, hcontrol]

/-- A task that has taken its cancellation acknowledges. -/
theorem responding_acknowledge {jobId : UInt64} {task : ℕ} {job : Job}
    (hcontrol : s.exex.control = .awaiting jobId task) (hk : s.exex.tasks[task]? = some job)
    (hphase : job.phase = .cancelled) :
    ∃ s', s.Responding s' ∧ s'.exex.held.length < s.exex.held.length := by
  obtain ⟨t, hact, hexex⟩ := isSome_act (s := s) (e := .acknowledge task)
    (BackfillExEx.advance_eq_some.2 ⟨job, hk, decide_eq_true hphase, rfl⟩)
  have hcontrol' : t.exex.control = .awaiting jobId task := by rw [hexex, hcontrol]
  obtain ⟨s', hleads, hlt⟩ := responding_resume hcontrol' (by
    rw [hexex]
    simp [List.getElem?_set_self (List.getElem?_eq_some_iff.1 hk).1, Job.mayAcknowledge])
  refine ⟨s', .head ⟨_, .acknowledge task, hact⟩ hleads, ?_⟩
  rw [hexex] at hlt
  exact hlt

/-- A cancellation is responded to: a task that runs takes it, and acknowledges. -/
theorem responding_awaiting (hs : (backfillRpc backfillLimit).Reachable s) {jobId : UInt64}
    {task : ℕ} (hcontrol : s.exex.control = .awaiting jobId task) :
    ∃ s', s.Responding s' ∧ s'.exex.held.length < s.exex.held.length := by
  obtain ⟨job, hk, hsent⟩ := awaited (reachable_exex hs) jobId task hcontrol
  by_cases hmay : job.mayAcknowledge = true
  · rcases of_decide_eq_true hmay with hrunning | hcancelled
    · obtain ⟨t, hact, hexex⟩ := isSome_act (s := s) (e := .cancelled task)
        (BackfillExEx.advance_eq_some.2
          ⟨job, hk, by simp [hrunning, BackfillExEx.cancelResolves, hsent], rfl⟩)
      have hcontrol' : t.exex.control = .awaiting jobId task := by rw [hexex, hcontrol]
      have hk' : t.exex.tasks[task]? = some { job with phase := .cancelled } := by
        rw [hexex]
        exact List.getElem?_set_self (List.getElem?_eq_some_iff.1 hk).1
      obtain ⟨s', hleads, hlt⟩ := responding_acknowledge hcontrol' hk' rfl
      refine ⟨s', .head ⟨_, .cancelled task, hact⟩ hleads, ?_⟩
      rw [hexex] at hlt
      exact hlt
    · exact responding_acknowledge hcontrol hk hcancelled
  · exact responding_resume hcontrol (by rw [hk]; exact Bool.eq_false_iff.2 hmay)

/-- The extension comes to respond to the first of the messages that it holds, or to an end. -/
theorem responding_first (hs : (backfillRpc backfillLimit).Reachable s)
    (hcontrol : s.exex.control ≠ .stopped) (hheld : s.exex.held ≠ []) :
    ∃ s', s.Responding s' ∧
      (s'.exex.control = .stopped ∨ s'.exex.held.length < s.exex.held.length) := by
  rcases hc : s.exex.control with _ | ⟨jobId, task⟩ | _
  · rcases hrx : s.exex.backfillRx with _ | ⟨message, rest⟩
    · exact absurd (by simp only [BackfillExEx.held, hc, hrx]) hheld
    obtain ⟨t, hact, hexex⟩ := isSome_act (s := s) (e := .handle)
      (BackfillExEx.act_handle.2 ⟨hc, message, rest, hrx, rfl⟩)
    have hstep : s.Responding t := .single ⟨.handle, .handle, hact⟩
    rcases BackfillExEx.goesOn_handle (exex_act hact) with
      ⟨outcome, hfirst, hready, -⟩ | ⟨jobId, task, hawaits, hsame, -⟩ | ⟨hstopped, -⟩
    · refine ⟨t, hstep, .inr ?_⟩
      rw [hfirst, BackfillExEx.held, hready]
      exact Nat.lt_succ_self _
    · obtain ⟨s', hleads, hlt⟩ := responding_awaiting (hstep.reachable hs) hawaits
      exact ⟨s', hstep.trans hleads, .inr (hsame ▸ hlt)⟩
    · exact ⟨t, hstep, .inl hstopped⟩
  · obtain ⟨s', hleads, hlt⟩ := responding_awaiting hs hc
    exact ⟨s', hleads, .inr hlt⟩
  · exact absurd hc hcontrol

/-- The extension comes to hold nothing. -/
theorem responding_all (hs : (backfillRpc backfillLimit).Reachable s) :
    ∃ s', s.Responding s' ∧ (s'.exex.control = .stopped ∨ s'.exex.held = []) := by
  -- By induction on how many messages it holds.
  induction hn : s.exex.held.length using Nat.strongRecOn generalizing s with
  | _ n ih =>
    by_cases hcontrol : s.exex.control = .stopped
    · exact ⟨s, .refl, .inl hcontrol⟩
    by_cases hheld : s.exex.held = []
    · exact ⟨s, .refl, .inr hheld⟩
    obtain ⟨t, hleads, hstopped | hlt⟩ := responding_first hs hcontrol hheld
    · exact ⟨t, hleads, .inl hstopped⟩
    · obtain ⟨s', hleads', hend⟩ := ih _ (hn ▸ hlt) (hleads.reachable hs) rfl
      exact ⟨s', hleads.trans hleads', hend⟩

/-- No call waits if the extension is no more, or holds nothing. -/
theorem InOrder.waits (h : s.InOrder) (hend : s.exex.control = .stopped ∨ s.exex.held = []) :
    ∀ call ∈ s.calls, call.waits = false := by
  intro call hcall
  by_cases hcontrol : s.exex.control = .stopped
  · obtain ⟨-, dropped, refused, hcalls⟩ := h.stopped hcontrol
    rw [hcalls] at hcall
    rcases List.mem_append.1 hcall with hcall | hcall
    · rcases List.mem_append.1 hcall with hcall | hcall
      · exact waits_of_mem_answered hcall
      · obtain ⟨waiting, -, rfl⟩ := List.mem_map.1 hcall
        exact waits_fail _ _
    · obtain ⟨waiting, -, rfl⟩ := List.mem_map.1 hcall
      exact waits_fail _ _
  · have hcalls := h.calls hcontrol
    rw [hend.resolve_left hcontrol] at hcalls
    rw [hcalls] at hcall
    exact waits_of_mem_answered (by simpa [waiting] using hcall)

/-- What the calls have done was done by those that were responded to. -/
theorem InOrder.succeeded (h : s.InOrder) : ∃ rest : List Call,
    s.calls = answered s.exex.outcomes ++ rest ∧
      ∀ call ∈ rest, call.startedJob = none ∧ call.cancelledJob = none := by
  have hfails (e : ErrorObject) (messages : List BackfillMessage) :
      ∀ call ∈ (waiting messages).map (Call.fail e),
        call.startedJob = none ∧ call.cancelledJob = none := by
    intro call hcall
    obtain ⟨_, hwaiting, rfl⟩ := List.mem_map.1 hcall
    obtain ⟨message, -, hof⟩ := List.mem_filterMap.1 hwaiting
    cases message <;> cases hof <;> exact ⟨rfl, rfl⟩
  by_cases hcontrol : s.exex.control = .stopped
  · obtain ⟨-, dropped, refused, hcalls⟩ := h.stopped hcontrol
    refine ⟨_, hcalls.trans (List.append_assoc _ _ _), fun call hcall => ?_⟩
    exact (List.mem_append.1 hcall).elim (hfails _ _ call) (hfails _ _ call)
  · refine ⟨_, h.calls hcontrol, fun call hcall => ?_⟩
    obtain ⟨message, -, hof⟩ := List.mem_filterMap.1 hcall
    cases message <;> cases hof <;> exact ⟨rfl, rfl⟩

theorem filterMap_startedJob_answered (outcomes : List Outcome) :
    (answered outcomes).filterMap Call.startedJob = handedOut outcomes := by
  rw [answered, List.filterMap_filterMap, handedOut]
  refine List.filterMap_congr fun outcome _ => ?_
  rcases outcome with ⟨range, _ | jobId⟩ | ⟨jobId, _ | _⟩ | jobId <;> rfl

theorem mem_of_mem_cancelledJob {outcomes : List Outcome} {jobId : UInt64}
    (h : jobId ∈ (answered outcomes).filterMap Call.cancelledJob) :
    .cancel jobId (.ok ()) ∈ outcomes := by
  rw [answered, List.filterMap_filterMap] at h
  obtain ⟨outcome, hmem, hjob⟩ := List.mem_filterMap.1 h
  rcases outcome with ⟨range, _ | jobId⟩ | ⟨jobId, _ | _⟩ | jobId <;> cases hjob
  exact hmem

/-- What the callers know, when the calls were the given ones if all callers had stayed. -/
structure Answered (t s : BackfillRpcExt) : Prop where
  inOrder : t.InOrder
  attended : t.Attended s
  /-- The jobs are those that calls start, each by one call. -/
  started : t.calls.filterMap Call.startedJob = s.exex.tasks.map Job.jobId
  nodup : (t.calls.filterMap Call.startedJob).Nodup
  /-- So what the callers that stay are returned are ids of jobs, in the same order. -/
  returned : (s.calls.filterMap Call.startedJob).Sublist (s.exex.tasks.map Job.jobId)
  /-- A job that a call cancels processes nothing more. -/
  cancelled : ∀ jobId ∈ t.calls.filterMap Call.cancelledJob,
    HasTask s.exex.tasks (fun job => job.mayAcknowledge = false) jobId
  /-- The calls whose callers stay can all be brought to return. -/
  returns : ∃ s', s.Responding s' ∧ ∀ call ∈ s'.calls, call.waits = false

/-- In every state of every run, calls are answered in their order, with what was done. -/
theorem calls_answered (hs : (backfillRpc backfillLimit).Reachable s) :
    ∃ t : BackfillRpcExt, t.Answered s := by
  have h := valid (reachable_exex hs)
  obtain ⟨t, horder, hattended⟩ := inOrder hs
  obtain ⟨rest, hcalls, hrest⟩ := horder.succeeded
  rw [hattended.exex] at hcalls
  have hstarted : t.calls.filterMap Call.startedJob = handedOut s.exex.outcomes := by
    rw [hcalls, List.filterMap_append, filterMap_startedJob_answered,
      List.filterMap_eq_nil_iff.2 fun call hcall => (hrest call hcall).1, List.append_nil]
  refine ⟨t, horder, hattended, hstarted.trans h.ids, hstarted ▸ h.nodup_handedOut, ?_,
    fun jobId hmem => ?_, ?_⟩
  · exact (hstarted.trans h.ids) ▸ sublist_startedJob hattended.calls
  · rw [hcalls, List.filterMap_append,
      List.filterMap_eq_nil_iff.2 fun call hcall => (hrest call hcall).2, List.append_nil] at hmem
    exact h.cancels jobId (mem_of_mem_cancelledJob hmem)
  · obtain ⟨s', hleads, hend⟩ := responding_all hs
    obtain ⟨t', horder', hattended'⟩ := inOrder (hleads.reachable hs)
    refine ⟨s', hleads, fun call hcall => ?_⟩
    obtain ⟨call', hcall', hkept⟩ := exists_of_forall₂ hattended'.calls hcall
    exact hkept.waits (horder'.waits (hattended'.exex ▸ hend) call' hcall')

variable (backfillLimit) in
theorem reachable_next (events : List RpcEvent)
    (h : events.foldlM next ⟨.new backfillLimit, [], []⟩ = some s) :
    (backfillRpc backfillLimit).Reachable s :=
  System.ReachableBy.foldlM (fun _ _ _ hstep => ⟨trivial, hstep⟩) (.init rfl) h

/-- A job is started and cancelled, another is refused, and one is started for a caller that
    is gone by then. Two calls fail: the extension comes to an end before the one is responded
    to, and before the other is made. -/
def callsUntilStop : List RpcEvent :=
  [.exex (.start (1, 9)), .exex (.start (5, 7)), .exex (.cancel 0), .exex .handle, .exex .handle,
    .exex .handle, .exex (.cancel 4), .exex (.cancelled 0), .exex (.acknowledge 0), .exex .resume,
    .exex (.release 0), .exex (.start (2, 2)), .drop 4, .exex .handle, .exex .handle,
    .exex (.start (3, 3)), .exex .stop, .exex (.cancel 1)]

theorem answered_callsUntilStop : ∃ s, callsUntilStop.foldlM next ⟨.new 1, [], []⟩ = some s ∧
    s.exex.tasks.map Job.jobId = [0, 1] ∧ s.calls.filterMap Call.startedJob = [0] ∧
    ∃ t : BackfillRpcExt, t.Answered s :=
  ⟨_, rfl, rfl, rfl, calls_answered (reachable_next 1 callsUntilStop rfl)⟩

end BackfillRpcExt

end ExEx.Backfill
