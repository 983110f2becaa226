import ExEx.Backfill.Invariant

/-!
# The bookkeeping of jobs

What the invariant of runs promises to those who request jobs (`bookkept`): ids are
not handed out twice, no more jobs than the limit run, each of them can be
cancelled, messages for one job do not touch another, and no entries are left
behind.
-/

namespace ExEx.Backfill

/-- An event is about a message for a job: it is handled that the job has finished,
    or a cancellation, to which the end of the wait belongs. -/
def Event.Settles (s : BackfillExEx) (jobId : UInt64) : Event → Prop
  | .handle => ∃ rest, s.backfillRx = .finish jobId :: rest ∨ s.backfillRx = .cancel jobId :: rest
  | .resume => ∃ task, s.control = .awaiting jobId task
  | _ => False

/-- A task is where it was, with its entry, and nothing has cancelled it. -/
structure Untouched (s s' : BackfillExEx) (task : ℕ) (job : Job) : Prop where
  task_eq : s'.tasks[task]? = some job
  entry_eq : s'.backfillJobs.lookup job.jobId = s.backfillJobs.lookup job.jobId
  resolves_eq : s'.cancelResolves task job = s.cancelResolves task job

/-- The bookkeeping of a state. -/
structure Bookkept (backfillLimit : ℕ) (s : BackfillExEx) : Prop where
  /-- No id is handed out twice. -/
  nodup : (handedOut s.outcomes).Nodup
  /-- No more tasks than the limit have not ended. -/
  count_le : s.tasks.countP Job.holdsPermit ≤ backfillLimit
  /-- A ready extension can reach all the tasks that run. -/
  reached : s.control = .ready → ∀ task job, s.tasks[task]? = some job → job.phase = .running →
    s.backfillJobs.lookup job.jobId = some task
  /-- Messages for one job do not touch another. -/
  untouched : ∀ e s' jobId, s.act e = some s' → e.Settles s jobId → ∀ task job,
    s.tasks[task]? = some job → job.jobId ≠ jobId → Untouched s s' task job
  /-- There are no entries left once all jobs are over and their messages handled. -/
  empty : (∀ job ∈ s.tasks, job.phase ≠ .running ∧ job.phase ≠ .finishing) → s.backfillRx = [] →
    s.backfillJobs.entries = []

namespace Valid

variable {backfillLimit : ℕ} {s s' : BackfillExEx}

theorem nodup_handedOut (h : Valid backfillLimit s) : (handedOut s.outcomes).Nodup := by
  have hrange : (s.tasks.map Job.jobId).map UInt64.toNat = List.range s.tasks.length := by
    refine List.ext_getElem (by simp) fun k hk _ => ?_
    rw [List.length_map, List.length_map] at hk
    rw [List.getElem_map, List.getElem_map, List.getElem_range]
    exact (h.tracked k _ (List.getElem?_eq_getElem hk)).jobId
  rw [h.ids]
  exact List.Nodup.of_map UInt64.toNat (hrange ▸ List.nodup_range)

/-- The entry of a task is that of its job. -/
theorem contains_iff (h : Valid backfillLimit s) {task : ℕ} {job : Job}
    (hk : s.tasks[task]? = some job) :
    task ∈ s.backfillJobs.entries.map Prod.snd ↔ s.backfillJobs.lookup job.jobId = some task := by
  rw [← Assoc.mem_entries_iff]
  constructor
  · intro hmem
    obtain ⟨⟨jobId, _⟩, hentry, rfl⟩ := List.mem_map.1 hmem
    have hid := (h.entries _ _ (Assoc.mem_entries_iff.1 hentry)).1
    obtain rfl := UInt64.toNat_inj.1 (hid.trans (h.tracked _ job hk).jobId.symm)
    exact hentry
  · exact fun hentry => List.mem_map.2 ⟨_, hentry, rfl⟩

theorem untouched_of_entry (h : Valid backfillLimit s) (h' : Valid backfillLimit s') {task : ℕ}
    {job : Job} (hk : s.tasks[task]? = some job) (hk' : s'.tasks[task]? = some job)
    (hentry : s'.backfillJobs.lookup job.jobId = s.backfillJobs.lookup job.jobId) :
    Untouched s s' task job := by
  refine ⟨hk', hentry, ?_⟩
  have hiff : task ∈ s'.backfillJobs.entries.map Prod.snd ↔
      task ∈ s.backfillJobs.entries.map Prod.snd := by
    rw [h.contains_iff hk, h'.contains_iff hk', hentry]
  have hcontains : (s'.backfillJobs.entries.map Prod.snd).contains task =
      (s.backfillJobs.entries.map Prod.snd).contains task := by
    rw [Bool.eq_iff_iff, List.contains_iff_mem, List.contains_iff_mem, hiff]
  rw [BackfillExEx.cancelResolves, BackfillExEx.cancelResolves, hcontains]

/-- Cancelling a job leaves the other tasks and entries as they are. -/
theorem cancelBackfill_frame (h : Valid backfillLimit s) {jobId : UInt64} {task : ℕ} {job : Job}
    (hk : s.tasks[task]? = some job) (hid : job.jobId ≠ jobId) :
    (s.cancelBackfill jobId).tasks[task]? = some job ∧
      (s.cancelBackfill jobId).backfillJobs.lookup job.jobId = s.backfillJobs.lookup job.jobId := by
  have herase : (s.backfillJobs.erase jobId).lookup job.jobId = s.backfillJobs.lookup job.jobId := by
    rw [Assoc.lookup_erase, if_neg hid]
  rw [BackfillExEx.cancelBackfill]
  rcases hlookup : s.backfillJobs.lookup jobId with _ | task'
  · exact ⟨hk, herase⟩
  · simp only
    rcases hreceiver : s.receiver task' with _ | job'
    · exact ⟨hk, herase⟩
    · refine ⟨?_, herase⟩
      have htask : task' ≠ task := by
        rintro rfl
        exact hid (UInt64.toNat_inj.1
          ((h.tracked _ job hk).jobId.trans (h.entries jobId _ hlookup).1.symm))
      exact (List.getElem?_set_ne htask).trans hk

theorem untouched (h : Valid backfillLimit s) {e : Event} {jobId : UInt64} (hact : s.act e = some s')
    (he : e.Settles s jobId) {task : ℕ} {job : Job} (hk : s.tasks[task]? = some job)
    (hid : job.jobId ≠ jobId) : Untouched s s' task job := by
  have h' := h.act hact
  have herase : (s.backfillJobs.erase jobId).lookup job.jobId = s.backfillJobs.lookup job.jobId := by
    rw [Assoc.lookup_erase, if_neg hid]
  cases e with
  | handle =>
    obtain ⟨hready, message, rest, hrx, rfl⟩ := BackfillExEx.act_handle.1 hact
    obtain ⟨rest', hsettles⟩ := he
    rw [hrx] at hsettles
    obtain hfinish | hcancel := hsettles
    · obtain ⟨rfl, -⟩ := List.cons.inj hfinish
      exact h.untouched_of_entry h' hk hk herase
    · obtain ⟨rfl, -⟩ := List.cons.inj hcancel
      have hrest : Valid backfillLimit { s with backfillRx := rest } :=
        h.messages fun id => by simp [hrx]
      obtain ⟨hk', hentry⟩ := hrest.cancelBackfill_frame hk hid
      exact h.untouched_of_entry h' hk hk' hentry
  | resume =>
    obtain ⟨other, task', hcontrol, -, rfl⟩ := BackfillExEx.act_resume.1 hact
    obtain ⟨task, hsettles⟩ := he
    obtain ⟨rfl, -⟩ := Control.awaiting.inj (hcontrol.symm.trans hsettles)
    exact h.untouched_of_entry h' hk hk herase
  | _ => exact he.elim

theorem entries_eq_nil (h : Valid backfillLimit s)
    (hjobs : ∀ job ∈ s.tasks, job.phase ≠ .running ∧ job.phase ≠ .finishing)
    (hrx : s.backfillRx = []) : s.backfillJobs.entries = [] := by
  refine List.eq_nil_iff_forall_not_mem.2 fun ⟨jobId, task⟩ hentry => ?_
  have hlookup := Assoc.mem_entries_iff.1 hentry
  obtain ⟨hid, hlt⟩ := h.entries jobId task hlookup
  have hk := List.getElem?_eq_getElem hlt
  have ht := h.tracked task _ hk
  have hjobId : s.tasks[task].jobId = jobId := UInt64.toNat_inj.1 (ht.jobId.trans hid.symm)
  obtain ⟨-, hphase⟩ := ht.entry (by rw [hjobId, hlookup]; rfl)
  obtain ⟨hrunning, hfinishing⟩ := hjobs _ (List.getElem_mem hlt)
  rw [hrx] at hphase
  exact List.not_mem_nil ((hphase.resolve_left hrunning).resolve_left hfinishing)

end Valid

/-- The bookkeeping of every state of every run. -/
theorem bookkept {backfillLimit : ℕ} {s : BackfillExEx}
    (hs : (backfill backfillLimit).Reachable s) : Bookkept backfillLimit s := by
  have h := valid hs
  exact
    { nodup := h.nodup_handedOut
      count_le := h.permits ▸ Nat.le_add_left _ _
      reached := fun hready task job hk hphase => h.lookup_of_running hready hk hphase
      untouched := fun e s' jobId hact he task job hk hid => h.untouched hact he hk hid
      empty := h.entries_eq_nil }

theorem reachable_act {backfillLimit : ℕ} (events : List Event) {s : BackfillExEx}
    (h : events.foldlM BackfillExEx.act (.new backfillLimit) = some s) :
    (backfill backfillLimit).Reachable s :=
  System.ReachableBy.foldlM (fun _ _ _ hstep => ⟨trivial, hstep⟩) (.init rfl) h

/-- Two jobs of which the first is cancelled, and the second finishes. -/
def twoJobs : List Event :=
  [.start (1, 9), .start (5, 7), .handle, .handle, .process 0, .cancel 0, .handle, .cancelled 0,
    .process 1, .acknowledge 0, .resume, .complete 1, .finish 1, .release 1, .cancel 1, .handle]

theorem bookkept_twoJobs : ∃ s, twoJobs.foldlM BackfillExEx.act (.new 2) = some s ∧ Bookkept 2 s :=
  ⟨_, rfl, bookkept (reachable_act twoJobs rfl)⟩

end ExEx.Backfill
