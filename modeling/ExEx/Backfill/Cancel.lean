import ExEx.Backfill.Bookkeeping

/-!
# Cancelling a job

A cancellation is answered when the task has acknowledged, or when its
acknowledgement is lost because it finished at the same time. Either way it is over
for the task (`Halted.act`): on no run from there does it process another chain. A
cancellation is refused when there was nothing to cancel, and it never touches
another job (`cancel_stops`).
-/

namespace ExEx.Backfill

/-! ## Tasks that have stopped -/

/-- The task with a number has stopped for good, after so many chains. -/
def Halted (s : BackfillExEx) (task : ℕ) (jobId : UInt64) (processed : ℕ) : Prop :=
  ∃ job, s.tasks[task]? = some job ∧ job.jobId = jobId ∧ job.processed = processed ∧
    job.mayAcknowledge = false

section

variable {s s' : BackfillExEx} {task processed : ℕ} {jobId : UInt64}

theorem Halted.set (h : Halted s task jobId processed) {k : ℕ} {job : Job}
    (hk : s.tasks[k]? = some job) (job' : Job) (hjob' : job.mayAcknowledge = false →
      job'.jobId = job.jobId ∧ job'.processed = job.processed ∧ job'.mayAcknowledge = false) :
    Halted { s with tasks := s.tasks.set k job' } task jobId processed := by
  obtain ⟨halted, hhalted, hid, hprocessed, hack⟩ := h
  by_cases hne : k = task
  · subst hne
    obtain rfl := Option.some.inj (hhalted.symm.trans hk)
    obtain ⟨hid', hprocessed', hack'⟩ := hjob' hack
    exact ⟨job', List.getElem?_set_self (List.getElem?_eq_some_iff.1 hk).1, hid'.trans hid,
      hprocessed'.trans hprocessed, hack'⟩
  · exact ⟨halted, (List.getElem?_set_ne hne).trans hhalted, hid, hprocessed, hack⟩

theorem Halted.set_of_running (h : Halted s task jobId processed) {k : ℕ} {job : Job}
    (hk : s.tasks[k]? = some job) (hphase : job.phase = .running) (job' : Job) :
    Halted { s with tasks := s.tasks.set k job' } task jobId processed :=
  h.set hk job' fun hack => absurd (Job.mayAcknowledge_of_running hphase) (Bool.eq_false_iff.1 hack)

theorem Halted.cancelBackfill (h : Halted s task jobId processed) (other : UInt64) :
    Halted (s.cancelBackfill other) task jobId processed := by
  rw [BackfillExEx.cancelBackfill]
  rcases s.backfillJobs.lookup other with _ | k
  · exact h
  · simp only
    rcases hreceiver : s.receiver k with _ | job
    · exact h
    · obtain ⟨hk, hphase⟩ := BackfillExEx.receiver_eq_some.1 hreceiver
      exact h.set_of_running hk hphase { job with cancelSent := true }

theorem Halted.startBackfill (h : Halted s task jobId processed) (range : BlockRange) :
    Halted (s.startBackfill range) task jobId processed := by
  rw [BackfillExEx.startBackfill]
  split_ifs
  · exact h
  · exact h
  · obtain ⟨job, hk, hjob⟩ := h
    have hlt := (List.getElem?_eq_some_iff.1 hk).1
    exact ⟨job, (List.getElem?_append_left hlt).trans hk, hjob⟩

/-- A task that has stopped stays so, whatever happens. -/
theorem Halted.act (h : Halted s task jobId processed) {e : Event} (hact : s.act e = some s') :
    Halted s' task jobId processed := by
  cases e with
  | start range =>
    obtain rfl := Option.some.inj hact
    rw [BackfillExEx.send_eq]
    exact h
  | cancel other =>
    obtain rfl := Option.some.inj hact
    rw [BackfillExEx.send_eq]
    exact h
  | handle =>
    obtain ⟨-, message, rest, -, rfl⟩ := BackfillExEx.act_handle.1 hact
    have hrest : Halted { s with backfillRx := rest } task jobId processed := h
    cases message with
    | start range => exact hrest.startBackfill range
    | cancel other => exact hrest.cancelBackfill other
    | finish other => exact h
  | resume =>
    obtain ⟨other, k, -, -, rfl⟩ := BackfillExEx.act_resume.1 hact
    exact h
  | stop =>
    obtain rfl := Option.some.inj hact
    exact h
  | process k =>
    obtain ⟨job, hk, hphase, rfl⟩ := BackfillExEx.advance_eq_some.1 hact
    exact h.set_of_running hk (of_decide_eq_true hphase) _
  | complete k =>
    obtain ⟨job, hk, hphase, rfl⟩ := BackfillExEx.advance_eq_some.1 hact
    exact h.set_of_running hk (of_decide_eq_true hphase) _
  | finish k =>
    obtain ⟨job, hk, -, rfl⟩ := BackfillExEx.act_finish.1 hact
    have hset := h.set hk { job with phase := .exiting } fun _ => ⟨rfl, rfl, rfl⟩
    rw [BackfillExEx.send_eq]
    exact hset
  | cancelled k =>
    obtain ⟨job, hk, henabled, rfl⟩ := BackfillExEx.advance_eq_some.1 hact
    exact h.set_of_running hk (of_decide_eq_true (Bool.and_eq_true_iff.1 henabled).1) _
  | acknowledge k =>
    obtain ⟨job, hk, -, rfl⟩ := BackfillExEx.advance_eq_some.1 hact
    exact h.set hk _ fun _ => ⟨rfl, rfl, rfl⟩
  | release k =>
    obtain ⟨job, hk, -, rfl⟩ := BackfillExEx.act_release.1 hact
    have hset := h.set hk { job with phase := .ended } fun _ => ⟨rfl, rfl, rfl⟩
    exact hset

end

/-! ## Refusals -/

section

variable {backfillLimit : ℕ} {s s' : BackfillExEx} {jobId : UInt64} {message : String}

/-- A cancellation was refused at the end of some outcomes. -/
def Refused (outcomes outcomes' : List Outcome) (jobId : UInt64) (message : String) : Prop :=
  outcomes' = outcomes ++ [.cancel jobId (.error message)]

theorem not_refused_self (l : List Outcome) : ¬Refused l l jobId message := fun h => by
  have hlength := congrArg List.length h
  rw [List.length_append, List.length_singleton] at hlength
  omega

theorem refused_concat {l : List Outcome} {outcome : Outcome}
    (h : Refused l (l ++ [outcome]) jobId message) : outcome = .cancel jobId (.error message) :=
  (List.cons.inj (List.append_cancel_left h)).1

/-- A cancellation is refused only if nothing of the job is left to be cancelled. -/
theorem Valid.refused_cancelBackfill (h : Valid backfillLimit s) (hready : s.control = .ready)
    {other : UInt64} (hrefused : Refused s.outcomes (s.cancelBackfill other).outcomes jobId message)
    {task : ℕ} {job : Job} (hk : s.tasks[task]? = some job) (hid : job.jobId = jobId) :
    job.mayAcknowledge = false := by
  -- Were it running, it would have an entry, and receive.
  suffices hphase : job.phase ≠ .running by
    refine Bool.eq_false_iff.2 fun hack => ?_
    exact h.not_mayAcknowledge hready hk hack fun hrunning => absurd hrunning hphase
  intro hphase
  have hlookup := h.lookup_of_running hready hk hphase
  rw [BackfillExEx.cancelBackfill] at hrefused
  rcases hother : s.backfillJobs.lookup other with _ | task' <;> rw [hother] at hrefused
  · obtain ⟨rfl, -⟩ := Outcome.cancel.inj (refused_concat hrefused)
    rw [hid, hother] at hlookup
    cases hlookup
  · simp only at hrefused
    rcases hreceiver : s.receiver task' with _ | job' <;> rw [hreceiver] at hrefused
    · obtain ⟨rfl, -⟩ := Outcome.cancel.inj (refused_concat hrefused)
      rw [hid, hother] at hlookup
      obtain rfl := Option.some.inj hlookup
      rw [BackfillExEx.receiver_eq_some.2 ⟨hk, hphase⟩] at hreceiver
      cases hreceiver
    · exact not_refused_self _ hrefused

theorem outcomes_advance {task : ℕ} {enabled : Job → Bool} {f : Job → Job}
    (hadvance : s.advance task enabled f = some s') : s'.outcomes = s.outcomes := by
  obtain ⟨job, -, -, rfl⟩ := BackfillExEx.advance_eq_some.1 hadvance
  rfl

theorem outcomes_send (message : BackfillMessage) : (s.send message).outcomes = s.outcomes := by
  rw [BackfillExEx.send_eq]

/-- Outcomes come from the handling of messages, but for the answers to cancellations
    that were waited for. -/
theorem outcomes_act {e : Event} (hact : s.act e = some s') :
    s'.outcomes = s.outcomes ∨ (∃ jobId, s'.outcomes = s.outcomes ++ [.cancel jobId (.ok ())]) ∨
      e = .handle := by
  cases e with
  | handle => exact .inr (.inr rfl)
  | resume =>
    obtain ⟨jobId, task, -, -, rfl⟩ := BackfillExEx.act_resume.1 hact
    exact .inr (.inl ⟨jobId, rfl⟩)
  | finish k =>
    obtain ⟨job, -, -, rfl⟩ := BackfillExEx.act_finish.1 hact
    exact .inl (outcomes_send _)
  | release k =>
    obtain ⟨job, -, -, rfl⟩ := BackfillExEx.act_release.1 hact
    exact .inl rfl
  | start range =>
    obtain rfl := Option.some.inj hact
    exact .inl (outcomes_send _)
  | cancel jobId =>
    obtain rfl := Option.some.inj hact
    exact .inl (outcomes_send _)
  | stop =>
    obtain rfl := Option.some.inj hact
    exact .inl rfl
  | process k => exact .inl (outcomes_advance hact)
  | complete k => exact .inl (outcomes_advance hact)
  | cancelled k => exact .inl (outcomes_advance hact)
  | acknowledge k => exact .inl (outcomes_advance hact)

theorem not_refused_startBackfill (range : BlockRange) :
    ¬Refused s.outcomes (s.startBackfill range).outcomes jobId message := fun h => by
  rw [BackfillExEx.startBackfill] at h
  split_ifs at h
  · cases refused_concat h
  · exact not_refused_self _ h
  · cases refused_concat h

theorem Valid.refused_act (h : Valid backfillLimit s) {e : Event} (hact : s.act e = some s')
    (hrefused : Refused s.outcomes s'.outcomes jobId message) {task : ℕ} {job : Job}
    (hk : s.tasks[task]? = some job) (hid : job.jobId = jobId) : job.mayAcknowledge = false := by
  obtain hsame | ⟨other, hanswered⟩ | rfl := outcomes_act hact
  · exact (not_refused_self s.outcomes (hsame ▸ hrefused)).elim
  · rw [hanswered] at hrefused
    cases refused_concat hrefused
  · obtain ⟨hready, other, rest, hrx, rfl⟩ := BackfillExEx.act_handle.1 hact
    cases other with
    | start range => exact (not_refused_startBackfill range hrefused).elim
    | cancel other =>
      have hrest : Valid backfillLimit { s with backfillRx := rest } :=
        h.messages fun id => by simp [hrx]
      exact hrest.refused_cancelBackfill hready hrefused hk hid
    | finish other => cases refused_concat hrefused

end

/-! ## What a cancellation does -/

/-- The events of a task. -/
def taskEvents (task : ℕ) : List Event :=
  [.process task, .complete task, .finish task, .cancelled task, .acknowledge task, .release task]

section

variable {backfillLimit : ℕ} {s s' : BackfillExEx}

theorem isSome_advance {task : ℕ} {enabled : Job → Bool} {f : Job → Job} {job : Job}
    (hk : s.tasks[task]? = some job) : (s.advance task enabled f).isSome = enabled job := by
  simp only [BackfillExEx.advance, hk]
  cases enabled job <;> rfl

/-- A task that is not touched can take the same steps as before. -/
theorem Untouched.isSome_act {task : ℕ} {job : Job} (h : Untouched s s' task job)
    (hk : s.tasks[task]? = some job) {e : Event} (he : e ∈ taskEvents task) :
    (s'.act e).isSome = (s.act e).isSome := by
  have hk' := h.task_eq
  simp only [taskEvents, List.mem_cons, List.not_mem_nil, or_false] at he
  rcases he with rfl | rfl | rfl | rfl | rfl | rfl <;>
    simp [BackfillExEx.act, isSome_advance hk, isSome_advance hk', hk, hk', h.resolves_eq]

/-- What a cancellation does, from a state on. -/
structure CancelStops (backfillLimit : ℕ) (s : BackfillExEx) : Prop where
  /-- Once it is answered, no run processes anything more of the job. -/
  stopped : ∀ jobId, .cancel jobId (.ok ()) ∈ s.outcomes → ∀ s', (backfill backfillLimit).Leads s s' →
    ∀ (task : ℕ) (job' : Job), s'.tasks[task]? = some job' → job'.jobId = jobId →
      ∃ job : Job, s.tasks[task]? = some job ∧ job.jobId = jobId ∧ job'.processed = job.processed
  /-- It is refused only if the job has not started, has ended or has been cancelled. -/
  refused : ∀ e s' jobId message, s.act e = some s' →
    s'.outcomes = s.outcomes ++ [.cancel jobId (.error message)] →
      ∀ (task : ℕ) (job : Job), s.tasks[task]? = some job → job.jobId = jobId →
        job.mayAcknowledge = false
  /-- Other jobs are where they were, and can go on from there. -/
  others : ∀ e s' jobId, s.act e = some s' → e.Settles s jobId → ∀ (task : ℕ) (job : Job),
    s.tasks[task]? = some job → job.jobId ≠ jobId → s'.tasks[task]? = some job ∧
      ∀ e' ∈ taskEvents task, (s'.act e').isSome = (s.act e').isSome

/-- A task that has stopped stays so on every run. -/
theorem Halted.leads {task processed : ℕ} {jobId : UInt64} (h : Halted s task jobId processed)
    (hrun : (backfill backfillLimit).Leads s s') : Halted s' task jobId processed := by
  induction hrun with
  | refl => exact h
  | tail _ hstep ih =>
    obtain ⟨e, hact⟩ := hstep
    exact ih.act hact

theorem cancel_stops (hs : (backfill backfillLimit).Reachable s) : CancelStops backfillLimit s := by
  have h := valid hs
  refine ⟨?_, ?_, ?_⟩
  · intro jobId hcancelled s' hrun task job' hk' hid'
    obtain ⟨job, hk, hack⟩ := h.cancels jobId hcancelled
    have hid : job.jobId = jobId := UInt64.toNat_inj.1 (h.tracked _ job hk).jobId
    have htask : task = jobId.toNat := by
      rw [← ((valid (hs.leads hrun)).tracked task job' hk').jobId, hid']
    subst htask
    obtain ⟨job'', hk'', -, hprocessed, -⟩ :=
      (show Halted s jobId.toNat jobId job.processed from ⟨job, hk, hid, rfl, hack⟩).leads hrun
    obtain rfl := Option.some.inj (hk''.symm.trans hk')
    exact ⟨job, hk, hid, hprocessed⟩
  · exact fun e s' jobId message hact hrefused task job hk hid => h.refused_act hact hrefused hk hid
  · intro e s' jobId hact he task job hk hid
    have huntouched := h.untouched hact he hk hid
    exact ⟨huntouched.task_eq, fun e' he' => huntouched.isSome_act hk he'⟩

theorem cancel_stops_twoJobs : ∃ s, twoJobs.foldlM BackfillExEx.act (.new 2) = some s ∧
    CancelStops 2 s :=
  ⟨_, rfl, cancel_stops (reachable_act twoJobs rfl)⟩

end

end ExEx.Backfill
