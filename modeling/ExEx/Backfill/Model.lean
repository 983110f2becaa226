import ExEx.Lib.Assoc
import ExEx.Lib.System

/-!
# Backfill jobs

The extension takes messages from a queue, one after the other: requests to start
and to cancel jobs, and notes of the jobs that they have finished. Each job is a
task of its own. It holds a permit of the semaphore until its very end, and it can
be cancelled while it runs: by a message sent to it, or as the sender of such
messages is dropped. The sender of a job is kept in `backfillJobs`.

A cancelled job acknowledges, and the extension waits for it. It also stops waiting
when the acknowledgement can no longer come, as the job has finished by itself.

Every step of a task is an event of its own (`Event`): what other tasks and the
extension do in between is any interleaving of these.
-/

namespace ExEx.Backfill

/-! ## Jobs -/

/-- A range of blocks, both ends included. -/
abbrev BlockRange := UInt64 × UInt64

/-- Where the task of a job stands. -/
inductive Phase
  /-- Chains are processed, or the cancellation is taken. -/
  | running
  /-- The backfill is over, and can no longer be cancelled. -/
  | finishing
  /-- The cancellation is taken, or its sender was dropped: nothing more is processed. -/
  | cancelled
  /-- What is left to do is to drop the permit. -/
  | exiting
  | ended
  deriving DecidableEq

/-- The task of a job. -/
structure Job where
  jobId : UInt64
  range : BlockRange
  phase : Phase
  /-- Whether a cancellation has been sent to it. -/
  cancelSent : Bool
  /-- How many chains it has processed. -/
  processed : ℕ
  deriving DecidableEq

/-- A permit is held to the end. -/
def Job.holdsPermit (job : Job) : Bool := job.phase ≠ .ended

/-- Whether an acknowledgement may still come. -/
def Job.mayAcknowledge (job : Job) : Bool := job.phase = .running ∨ job.phase = .cancelled

/-! ## The extension -/

inductive BackfillMessage
  | start (range : BlockRange)
  | cancel (jobId : UInt64)
  | finish (jobId : UInt64)
  deriving DecidableEq

/-- What handling a message came to: the answer to a request, if it is one. -/
inductive Outcome
  | start (range : BlockRange) (result : Except String UInt64)
  | cancel (jobId : UInt64) (result : Except String Unit)
  | finish (jobId : UInt64)

/-- What the extension is doing. -/
inductive Control
  | ready
  /-- It waits for the acknowledgement of a task. -/
  | awaiting (jobId : UInt64) (task : ℕ)
  /-- It is no more, and neither are its queue and its senders. -/
  | stopped
  deriving DecidableEq

/-- The extension with the tasks it has spawned. -/
structure BackfillExEx where
  /-- The permits that are left. -/
  backfillSemaphore : ℕ
  nextBackfillJobId : UInt64
  /-- The task that each sender reaches, by the id of the job. -/
  backfillJobs : Assoc UInt64 ℕ
  /-- The messages not yet received. -/
  backfillRx : List BackfillMessage
  control : Control
  /-- The tasks, in the order in which they were spawned. -/
  tasks : List Job
  /-- What has been handled. -/
  outcomes : List Outcome

namespace BackfillExEx

/-- The extension at its start, with a limit of concurrent jobs. -/
def new (backfillLimit : ℕ) : BackfillExEx where
  backfillSemaphore := backfillLimit
  nextBackfillJobId := 0
  backfillJobs := .empty
  backfillRx := []
  control := .ready
  tasks := []
  outcomes := []

variable (s : BackfillExEx)

/-- The extension comes to an end: its future panics, returns or is dropped. -/
def stop : BackfillExEx :=
  { s with backfillJobs := .empty, backfillRx := [], control := .stopped }

/-- A message is sent, and lost if the extension is no more. -/
def send (message : BackfillMessage) : BackfillExEx :=
  if s.control = .stopped then s else { s with backfillRx := s.backfillRx ++ [message] }

/-- A message has been handled. -/
def answer (outcome : Outcome) : BackfillExEx := { s with outcomes := s.outcomes ++ [outcome] }

/-- Starts a job, if there is a permit for it. -/
def startBackfill (range : BlockRange) : BackfillExEx :=
  if s.backfillSemaphore = 0 then
    s.answer (.start range (.error "concurrent backfills limit reached: NoPermits"))
  -- The next id overflows, which panics.
  else if s.nextBackfillJobId = .ofNat (UInt64.size - 1) then s.stop
  else
    let jobId := s.nextBackfillJobId
    { s with
      backfillSemaphore := s.backfillSemaphore - 1
      nextBackfillJobId := jobId + 1
      backfillJobs := s.backfillJobs.put jobId s.tasks.length
      tasks := s.tasks ++ [⟨jobId, range, .running, false, 0⟩]
      outcomes := s.outcomes ++ [.start range (.ok jobId)] }

/-- Answers a cancellation. The entry of the job is removed, in case it is there. -/
def answerCancel (jobId : UInt64) (result : Except String Unit) : BackfillExEx :=
  { s with
    backfillJobs := s.backfillJobs.erase jobId
    control := .ready
    outcomes := s.outcomes ++ [.cancel jobId result] }

/-- The job that a sender reaches, while it is there to receive. -/
def receiver (task : ℕ) : Option Job := (s.tasks[task]?).filter fun job => job.phase = .running

/-- Takes the sender of a job and sends the cancellation, which fails if it is no longer
    received. -/
def cancelBackfill (jobId : UInt64) : BackfillExEx :=
  match s.backfillJobs.lookup jobId with
  | none => s.answerCancel jobId (.error "backfill job not found")
  | some task =>
    match s.receiver task with
    | none => s.answerCancel jobId (.error "failed to cancel backfill job")
    | some job =>
      { s with
        backfillJobs := s.backfillJobs.erase jobId
        control := .awaiting jobId task
        tasks := s.tasks.set task { job with cancelSent := true } }

def handleBackfillMessage : BackfillMessage → BackfillExEx
  | .start range => s.startBackfill range
  | .cancel jobId => s.cancelBackfill jobId
  | .finish jobId =>
    { s with
      backfillJobs := s.backfillJobs.erase jobId
      outcomes := s.outcomes ++ [.finish jobId] }

/-- A task takes a step, if it is where it can. -/
def advance (task : ℕ) (enabled : Job → Bool) (f : Job → Job) : Option BackfillExEx :=
  match s.tasks[task]? with
  | some job => if enabled job then some { s with tasks := s.tasks.set task (f job) } else none
  | none => none

/-- Whether the receiver of a task resolves: something was sent, or the sender dropped. -/
def cancelResolves (task : ℕ) (job : Job) : Bool :=
  job.cancelSent || !(s.backfillJobs.entries.map Prod.snd).contains task

end BackfillExEx

/-! ## Runs -/

inductive Event
  /-- A job is requested. -/
  | start (range : BlockRange)
  /-- The cancellation of a job is requested. -/
  | cancel (jobId : UInt64)
  /-- The extension takes the next message. -/
  | handle
  /-- The wait for an acknowledgement ends. -/
  | resume
  /-- The extension comes to an end. -/
  | stop
  /-- A task processes a chain. -/
  | process (task : ℕ)
  /-- The backfill of a task completes, or fails: its receiver is dropped. -/
  | complete (task : ℕ)
  /-- A task sends that it has finished. -/
  | finish (task : ℕ)
  /-- The receiver of a task resolves: its backfill is dropped. -/
  | cancelled (task : ℕ)
  /-- A cancelled task acknowledges, if it was sent something. -/
  | acknowledge (task : ℕ)
  /-- The permit of a task is dropped. -/
  | release (task : ℕ)
  deriving DecidableEq

/-- The state after an event, if it can happen. -/
def BackfillExEx.act (s : BackfillExEx) : Event → Option BackfillExEx
  | .start range => some (s.send (.start range))
  | .cancel jobId => some (s.send (.cancel jobId))
  | .handle =>
    match s.control, s.backfillRx with
    | .ready, message :: rest => some ({ s with backfillRx := rest }.handleBackfillMessage message)
    | _, _ => none
  | .resume =>
    match s.control with
    | .awaiting jobId task =>
      if (s.tasks[task]?).any Job.mayAcknowledge then none else some (s.answerCancel jobId (.ok ()))
    | _ => none
  | .stop => some s.stop
  | .process task =>
    s.advance task (fun job => job.phase = .running)
      fun job => { job with processed := job.processed + 1 }
  | .complete task =>
    s.advance task (fun job => job.phase = .running) fun job => { job with phase := .finishing }
  | .finish task =>
    match s.tasks[task]? with
    | some job =>
      (s.advance task (fun job => job.phase = .finishing) fun job => { job with phase := .exiting }).map
        (·.send (.finish job.jobId))
    | none => none
  | .cancelled task =>
    s.advance task (fun job => job.phase = .running && s.cancelResolves task job)
      fun job => { job with phase := .cancelled }
  | .acknowledge task =>
    s.advance task (fun job => job.phase = .cancelled) fun job => { job with phase := .exiting }
  | .release task =>
    (s.advance task (fun job => job.phase = .exiting) fun job => { job with phase := .ended }).map
      fun s => { s with backfillSemaphore := s.backfillSemaphore + 1 }

/-- Runs of the extension with a limit of concurrent jobs. -/
def backfill (backfillLimit : ℕ) : System BackfillExEx Event where
  init s := s = .new backfillLimit
  step s e s' := s.act e = some s'

end ExEx.Backfill
