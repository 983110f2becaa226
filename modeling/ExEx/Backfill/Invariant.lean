import ExEx.Backfill.Model
import Mathlib.Order.Basic

/-!
# The jobs and their tasks

What the extension knows of its jobs agrees with their tasks, in every state of
every run (`valid`):

* ids count the tasks, and permits are held by those that have not ended;
* the entry of a job is that of its task. It is there while the task runs, unless
  a cancellation was sent to it, and it stays at most until it is handled that the
  job has finished;
* a task to which a cancellation was sent is waited for until it has acknowledged
  or finished.
-/

namespace ExEx.Backfill

/-! ## Steps of tasks -/

namespace BackfillExEx

variable {s s' : BackfillExEx}

theorem advance_eq_some {task : ℕ} {enabled : Job → Bool} {f : Job → Job} :
    s.advance task enabled f = some s' ↔ ∃ job, s.tasks[task]? = some job ∧ enabled job = true ∧
      s' = { s with tasks := s.tasks.set task (f job) } := by
  rw [advance]
  rcases s.tasks[task]? with _ | job
  · simp
  · simp only [Option.ite_none_right_eq_some, Option.some.injEq]
    constructor
    · rintro ⟨henabled, rfl⟩
      exact ⟨job, rfl, henabled, rfl⟩
    · rintro ⟨_, rfl, henabled, rfl⟩
      exact ⟨henabled, rfl⟩

/-- A note that a job has finished is lost if the extension is no more. -/
theorem send_eq (message : BackfillMessage) : s.send message = { s with
    backfillRx := if s.control = .stopped then s.backfillRx else s.backfillRx ++ [message] } := by
  rw [send]
  split_ifs <;> rfl

theorem receiver_eq_some {task : ℕ} {job : Job} :
    s.receiver task = some job ↔ s.tasks[task]? = some job ∧ job.phase = .running := by
  rw [receiver, Option.filter_eq_some_iff, decide_eq_true_iff]

theorem act_handle : s.act .handle = some s' ↔ s.control = .ready ∧ ∃ message rest,
    s.backfillRx = message :: rest ∧
      s' = { s with backfillRx := rest }.handleBackfillMessage message := by
  constructor
  · intro h
    rw [act] at h
    split at h
    · next message rest hready hrx =>
      exact ⟨hready, message, rest, hrx, (Option.some.inj h).symm⟩
    · cases h
  · rintro ⟨hready, message, rest, hrx, rfl⟩
    simp only [act, hready, hrx]

theorem act_resume : s.act .resume = some s' ↔ ∃ jobId task, s.control = .awaiting jobId task ∧
    (s.tasks[task]?).any Job.mayAcknowledge = false ∧ s' = s.answerCancel jobId (.ok ()) := by
  constructor
  · intro h
    rw [act] at h
    split at h
    · next jobId task hcontrol =>
      split_ifs at h with hany
      exact ⟨jobId, task, hcontrol, Bool.eq_false_iff.2 hany, (Option.some.inj h).symm⟩
    · cases h
  · rintro ⟨jobId, task, hcontrol, hany, rfl⟩
    simp only [act, hcontrol, hany, Bool.false_eq_true, if_false]

theorem act_finish {task : ℕ} : s.act (.finish task) = some s' ↔ ∃ job, s.tasks[task]? = some job ∧
    job.phase = .finishing ∧
      s' = { s with tasks := s.tasks.set task { job with phase := .exiting } }.send
        (.finish job.jobId) := by
  constructor
  · intro h
    rw [act] at h
    split at h
    · next job hk =>
      obtain ⟨t, hadvance, rfl⟩ := Option.map_eq_some_iff.1 h
      obtain ⟨_, hk', hphase, rfl⟩ := advance_eq_some.1 hadvance
      obtain rfl := Option.some.inj (hk.symm.trans hk')
      exact ⟨job, hk, of_decide_eq_true hphase, rfl⟩
    · cases h
  · rintro ⟨job, hk, hphase, rfl⟩
    simp only [act, advance, hk, hphase, decide_true, if_true, Option.map_some]

theorem act_release {task : ℕ} : s.act (.release task) = some s' ↔ ∃ job, s.tasks[task]? = some job ∧
    job.phase = .exiting ∧ s' = { s with
      backfillSemaphore := s.backfillSemaphore + 1
      tasks := s.tasks.set task { job with phase := .ended } } := by
  rw [act, Option.map_eq_some_iff]
  constructor
  · rintro ⟨t, hadvance, rfl⟩
    obtain ⟨job, hk, hphase, rfl⟩ := advance_eq_some.1 hadvance
    exact ⟨job, hk, of_decide_eq_true hphase, rfl⟩
  · rintro ⟨job, hk, hphase, rfl⟩
    exact ⟨_, advance_eq_some.2 ⟨job, hk, decide_eq_true hphase, rfl⟩, rfl⟩

end BackfillExEx

theorem Job.mayAcknowledge_of_running {job : Job} (h : job.phase = .running) :
    job.mayAcknowledge = true :=
  decide_eq_true (.inl h)

/-- After a step of its task, each task is what it was, but the one that stepped. -/
theorem getElem?_set_eq_some {tasks : List Job} {task k : ℕ} {job' job : Job}
    (h : (tasks.set task job')[k]? = some job) :
    (k = task ∧ job = job') ∨ (k ≠ task ∧ tasks[k]? = some job) := by
  rw [List.getElem?_set] at h
  split_ifs at h with hk hlt
  · exact .inl ⟨hk.symm, (Option.some.inj h).symm⟩
  · exact .inr ⟨fun hk' => hk hk'.symm, h⟩

theorem getElem?_concat_eq_some {tasks : List Job} {k : ℕ} {job' job : Job}
    (h : (tasks ++ [job'])[k]? = some job) :
    (k = tasks.length ∧ job = job') ∨ (k < tasks.length ∧ tasks[k]? = some job) := by
  rcases Nat.lt_or_ge k tasks.length with hlt | hge
  · rw [List.getElem?_append_left hlt] at h
    exact .inr ⟨hlt, h⟩
  · rw [List.getElem?_append_right hge, List.getElem?_singleton] at h
    split_ifs at h with hk
    exact .inl ⟨Nat.le_antisymm (Nat.sub_eq_zero_iff_le.1 hk) hge, (Option.some.inj h).symm⟩

theorem map_jobId_set {tasks : List Job} {task : ℕ} {job : Job} (hk : tasks[task]? = some job)
    (job' : Job) (hid : job'.jobId = job.jobId) : (tasks.set task job').map Job.jobId = tasks.map Job.jobId := by
  obtain ⟨hlt, rfl⟩ := List.getElem?_eq_some_iff.1 hk
  have hlt' : task < (tasks.map Job.jobId).length := List.length_map Job.jobId ▸ hlt
  rw [List.map_set, hid, ← List.getElem_map Job.jobId (h := hlt'), List.set_getElem_self]

theorem countP_set (p : Job → Bool) {tasks : List Job} {task : ℕ} {job : Job}
    (hk : tasks[task]? = some job) (job' : Job) :
    (tasks.set task job').countP p + (if p job then 1 else 0) =
      tasks.countP p + if p job' then 1 else 0 := by
  obtain ⟨hlt, rfl⟩ := List.getElem?_eq_some_iff.1 hk
  rw [List.countP_set hlt]
  have hle : (if p tasks[task] then 1 else 0) ≤ tasks.countP p := by
    split_ifs with hp
    · exact List.countP_pos_iff.2 ⟨_, List.getElem_mem hlt, hp⟩
    · exact Nat.zero_le _
  omega

/-! ## The invariant -/

/-- A task agrees with the entry of its job and what the extension waits for. -/
structure Tracked (backfillJobs : Assoc UInt64 ℕ) (backfillRx : List BackfillMessage)
    (control : Control) (task : ℕ) (job : Job) : Prop where
  jobId : job.jobId.toNat = task
  /-- An entry stays until the note that its job has finished is handled. -/
  entry : (backfillJobs.lookup job.jobId).isSome → job.cancelSent = false ∧
    (job.phase = .running ∨ job.phase = .finishing ∨ .finish job.jobId ∈ backfillRx)
  running : control ≠ .stopped → job.phase = .running → job.cancelSent = false →
    backfillJobs.lookup job.jobId = some task
  awaited : job.mayAcknowledge → (job.phase = .running → job.cancelSent = true) →
    control = .stopped ∨ control = .awaiting job.jobId task

/-- All that is left of a job is its permit, or nothing. -/
def Job.over (job : Job) : Prop := job.phase = .exiting ∨ job.phase = .ended

/-- The job with an id has a task that meets `p`. -/
def HasTask (tasks : List Job) (p : Job → Prop) (jobId : UInt64) : Prop :=
  ∃ job, tasks[jobId.toNat]? = some job ∧ p job

/-- The ids that were answered to requests to start a job. -/
def handedOut (outcomes : List Outcome) : List UInt64 :=
  outcomes.filterMap fun
    | .start _ (.ok jobId) => some jobId
    | _ => none

theorem handedOut_append (l l' : List Outcome) : handedOut (l ++ l') = handedOut l ++ handedOut l' :=
  List.filterMap_append

/-- What holds in every state of a run. -/
structure Valid (backfillLimit : ℕ) (s : BackfillExEx) : Prop where
  permits : s.backfillSemaphore + s.tasks.countP Job.holdsPermit = backfillLimit
  nextId : s.nextBackfillJobId.toNat = s.tasks.length
  ids : handedOut s.outcomes = s.tasks.map Job.jobId
  tracked : ∀ task job, s.tasks[task]? = some job →
    Tracked s.backfillJobs s.backfillRx s.control task job
  entries : ∀ jobId task, s.backfillJobs.lookup jobId = some task →
    jobId.toNat = task ∧ task < s.tasks.length
  waiting : ∀ jobId task, s.control = .awaiting jobId task →
    jobId.toNat = task ∧ task < s.tasks.length
  stopped : s.control = .stopped → s.backfillJobs = .empty
  finishes : ∀ jobId, .finish jobId ∈ s.backfillRx → HasTask s.tasks Job.over jobId
  cancels : ∀ jobId, .cancel jobId (.ok ()) ∈ s.outcomes →
    HasTask s.tasks (fun job => job.mayAcknowledge = false) jobId

theorem valid_new (backfillLimit : ℕ) : Valid backfillLimit (.new backfillLimit) where
  permits := rfl
  nextId := rfl
  ids := rfl
  tracked _ _ h := by cases h
  entries _ _ h := by cases h
  waiting _ _ h := by cases h
  stopped _ := rfl
  finishes _ h := absurd h List.not_mem_nil
  cancels _ h := absurd h List.not_mem_nil

/-! ## Steps of tasks keep it -/

theorem HasTask.set {tasks : List Job} {p : Job → Prop} {jobId : UInt64} (h : HasTask tasks p jobId)
    {task : ℕ} {job job' : Job} (hk : tasks[task]? = some job) (hp : p job → p job') :
    HasTask (tasks.set task job') p jobId := by
  obtain ⟨other, hother, hpother⟩ := h
  by_cases htask : task = jobId.toNat
  · subst htask
    obtain rfl := Option.some.inj (hother.symm.trans hk)
    exact ⟨job', by rw [List.getElem?_set_self (List.getElem?_eq_some_iff.1 hk).1], hp hpother⟩
  · exact ⟨other, by rw [List.getElem?_set_ne htask, hother], hpother⟩

theorem HasTask.append {tasks : List Job} {p : Job → Prop} {jobId : UInt64}
    (h : HasTask tasks p jobId) (tasks' : List Job) : HasTask (tasks ++ tasks') p jobId := by
  obtain ⟨job, hjob, hp⟩ := h
  have hlt := (List.getElem?_eq_some_iff.1 hjob).1
  exact ⟨job, by rw [List.getElem?_append_left hlt, hjob], hp⟩

/-- An id that is not the last one has a next one. -/
theorem toNat_add_one {n : UInt64} (h : n ≠ .ofNat (UInt64.size - 1)) :
    (n + 1).toNat = n.toNat + 1 := by
  have hne : n.toNat ≠ UInt64.size - 1 := fun heq => h (UInt64.toNat_inj.1 heq)
  have hlt := n.toNat_lt
  rw [UInt64.toNat_add, UInt64.toNat_one]
  exact Nat.mod_eq_of_lt (by simp only [UInt64.size] at hne; omega)

namespace Tracked

variable {backfillJobs : Assoc UInt64 ℕ} {backfillRx backfillRx' : List BackfillMessage}
  {control : Control} {task : ℕ} {job : Job}

theorem mono (h : Tracked backfillJobs backfillRx control task job)
    (hrx : .finish job.jobId ∈ backfillRx → .finish job.jobId ∈ backfillRx') :
    Tracked backfillJobs backfillRx' control task job where
  jobId := h.jobId
  entry he := by
    obtain ⟨hsent, hphase⟩ := h.entry he
    exact ⟨hsent, hphase.imp_right fun hphase => hphase.imp_right hrx⟩
  running := h.running
  awaited := h.awaited

/-- Only the entry of its own job matters to a task. -/
theorem congr {backfillJobs' : Assoc UInt64 ℕ} (h : Tracked backfillJobs backfillRx control task job)
    (hlookup : backfillJobs'.lookup job.jobId = backfillJobs.lookup job.jobId) :
    Tracked backfillJobs' backfillRx control task job where
  jobId := h.jobId
  entry := by
    rw [hlookup]
    exact h.entry
  running := by
    rw [hlookup]
    exact h.running
  awaited := h.awaited

/-- A task that has just finished is tracked by its note, if that was not lost. -/
theorem exiting (h : Tracked backfillJobs backfillRx control task job)
    (hnote : (backfillJobs.lookup job.jobId).isSome → .finish job.jobId ∈ backfillRx) :
    Tracked backfillJobs backfillRx control task { job with phase := .exiting } where
  jobId := h.jobId
  entry he := ⟨(h.entry he).1, .inr (.inr (hnote he))⟩
  running _ hphase := by cases hphase
  awaited hack := by cases hack

end Tracked

namespace Valid

variable {backfillLimit : ℕ} {s : BackfillExEx}

/-- A step of a task keeps the invariant if the task is tracked after it. -/
theorem step (h : Valid backfillLimit s) {task permits : ℕ} {job job' : Job}
    {backfillRx : List BackfillMessage} (hk : s.tasks[task]? = some job)
    (hpermits : permits + (if job'.holdsPermit then 1 else 0) =
      s.backfillSemaphore + if job.holdsPermit then 1 else 0)
    (htracked : Tracked s.backfillJobs backfillRx s.control task job')
    (hrx : ∀ jobId, .finish jobId ∈ s.backfillRx → .finish jobId ∈ backfillRx)
    (hfinish : ∀ jobId, .finish jobId ∈ backfillRx → .finish jobId ∉ s.backfillRx →
      jobId = job.jobId ∧ job'.over)
    (hover : job.over → job'.over)
    (hack : job.mayAcknowledge = false → job'.mayAcknowledge = false) :
    Valid backfillLimit
      { s with
        backfillSemaphore := permits
        backfillRx := backfillRx
        tasks := s.tasks.set task job' } where
  permits := by
    have hcount := countP_set Job.holdsPermit hk job'
    have htotal := h.permits
    change permits + (s.tasks.set task job').countP Job.holdsPermit = backfillLimit
    omega
  nextId := by
    change s.nextBackfillJobId.toNat = (s.tasks.set task job').length
    rw [List.length_set, h.nextId]
  ids := by
    have hid : job'.jobId = job.jobId :=
      UInt64.toNat_inj.1 (htracked.jobId.trans (h.tracked task job hk).jobId.symm)
    exact h.ids.trans (map_jobId_set hk job' hid).symm
  tracked k other hother := by
    obtain ⟨rfl, rfl⟩ | ⟨-, hother⟩ := getElem?_set_eq_some hother
    · exact htracked
    · exact (h.tracked k other hother).mono (hrx _)
  entries jobId k hlookup := by
    change _ ∧ k < (s.tasks.set task job').length
    rw [List.length_set]
    exact h.entries jobId k hlookup
  waiting jobId k hcontrol := by
    change _ ∧ k < (s.tasks.set task job').length
    rw [List.length_set]
    exact h.waiting jobId k hcontrol
  stopped := h.stopped
  finishes jobId hmem := by
    by_cases hold : .finish jobId ∈ s.backfillRx
    · exact (h.finishes jobId hold).set hk hover
    · obtain ⟨rfl, hjob'⟩ := hfinish jobId hmem hold
      refine ⟨job', ?_, hjob'⟩
      rw [(h.tracked task job hk).jobId, List.getElem?_set_self (List.getElem?_eq_some_iff.1 hk).1]
  cancels jobId hmem := (h.cancels jobId hmem).set hk hack

/-- A step that sends nothing. -/
theorem step_silent (h : Valid backfillLimit s) {task permits : ℕ} {job job' : Job}
    (hk : s.tasks[task]? = some job)
    (hpermits : permits + (if job'.holdsPermit then 1 else 0) =
      s.backfillSemaphore + if job.holdsPermit then 1 else 0)
    (htracked : Tracked s.backfillJobs s.backfillRx s.control task job')
    (hover : job.over → job'.over)
    (hack : job.mayAcknowledge = false → job'.mayAcknowledge = false) :
    Valid backfillLimit
      { s with
        backfillSemaphore := permits
        tasks := s.tasks.set task job' } :=
  h.step hk hpermits htracked (fun _ => id) (fun _ hmem hold => absurd hmem hold) hover hack

theorem process (h : Valid backfillLimit s) {task : ℕ} {job : Job} (hk : s.tasks[task]? = some job) :
    Valid backfillLimit
      { s with tasks := s.tasks.set task { job with processed := job.processed + 1 } } := by
  have ht := h.tracked task job hk
  exact h.step_silent hk rfl ⟨ht.jobId, ht.entry, ht.running, ht.awaited⟩ id id

theorem complete (h : Valid backfillLimit s) {task : ℕ} {job : Job}
    (hk : s.tasks[task]? = some job) (hphase : job.phase = .running) :
    Valid backfillLimit { s with tasks := s.tasks.set task { job with phase := .finishing } } := by
  have ht := h.tracked task job hk
  refine h.step_silent hk ?_ ⟨ht.jobId, ?_, ?_, ?_⟩ ?_ ?_
  · simp [Job.holdsPermit, hphase]
  · exact fun he => ⟨(ht.entry he).1, .inr (.inl rfl)⟩
  · exact fun _ hrunning => by cases hrunning
  · exact fun hack => by cases hack
  · simp [Job.over, hphase]
  · exact fun _ => rfl

/-- The sender of a job that has an entry and was sent nothing is not dropped. -/
theorem cancelSent_of_cancelResolves {task : ℕ} {job : Job} (hresolves : s.cancelResolves task job = true)
    (hentry : s.backfillJobs.lookup job.jobId = some task) : job.cancelSent = true := by
  rw [BackfillExEx.cancelResolves, Bool.or_eq_true, Bool.not_eq_true'] at hresolves
  refine hresolves.resolve_right fun hnone => ?_
  have hmem : task ∈ s.backfillJobs.entries.map Prod.snd :=
    List.mem_map_of_mem (f := Prod.snd) (Assoc.mem_entries_iff.2 hentry)
  rw [← Bool.not_eq_true, List.contains_iff_mem] at hnone
  exact hnone hmem

theorem cancelled (h : Valid backfillLimit s) {task : ℕ} {job : Job}
    (hk : s.tasks[task]? = some job) (hphase : job.phase = .running)
    (hresolves : s.cancelResolves task job = true) :
    Valid backfillLimit { s with tasks := s.tasks.set task { job with phase := .cancelled } } := by
  have ht := h.tracked task job hk
  have hack : job.mayAcknowledge = true := Job.mayAcknowledge_of_running hphase
  refine h.step_silent hk ?_ ⟨ht.jobId, ?_, ?_, ?_⟩ ?_ ?_
  · simp [Job.holdsPermit, hphase]
  · -- With an entry, nothing was sent and the sender is there.
    intro he
    obtain ⟨task', htask'⟩ := Option.isSome_iff_exists.1 he
    obtain rfl := ht.jobId.symm.trans (h.entries _ _ htask').1
    exact absurd (cancelSent_of_cancelResolves hresolves htask') (by simp [(ht.entry he).1])
  · exact fun _ hrunning => by cases hrunning
  · intro _ _
    by_cases hstopped : s.control = .stopped
    · exact .inl hstopped
    · refine ht.awaited hack fun _ => ?_
      by_contra hsent
      exact hsent (cancelSent_of_cancelResolves hresolves
        (ht.running hstopped hphase (Bool.eq_false_iff.2 hsent)))
  · simp [Job.over, hphase]
  · simp [hack]

theorem acknowledge (h : Valid backfillLimit s) {task : ℕ} {job : Job}
    (hk : s.tasks[task]? = some job) (hphase : job.phase = .cancelled) :
    Valid backfillLimit { s with tasks := s.tasks.set task { job with phase := .exiting } } := by
  have ht := h.tracked task job hk
  refine h.step_silent hk ?_ (ht.exiting fun he => ?_) (fun _ => .inl rfl) fun _ => rfl
  · simp [Job.holdsPermit, hphase]
  · simpa [hphase] using (ht.entry he).2

theorem finish (h : Valid backfillLimit s) {task : ℕ} {job : Job}
    (hk : s.tasks[task]? = some job) (hphase : job.phase = .finishing) :
    Valid backfillLimit
      ({ s with tasks := s.tasks.set task { job with phase := .exiting } }.send (.finish job.jobId)) := by
  have ht := h.tracked task job hk
  rw [BackfillExEx.send_eq]
  have hsub : ∀ jobId, .finish jobId ∈ s.backfillRx → .finish jobId ∈
      if s.control = .stopped then s.backfillRx else s.backfillRx ++ [.finish job.jobId] := by
    intro jobId hmem
    split_ifs
    · exact hmem
    · exact List.mem_append_left _ hmem
  refine h.step hk ?_ ((ht.mono (hsub _)).exiting fun he => ?_) hsub (fun jobId hmem hold => ?_)
    (fun _ => .inl rfl) fun _ => rfl
  · simp [Job.holdsPermit, hphase]
  · split_ifs with hstopped
    · rw [h.stopped hstopped] at he
      cases he
    · exact List.mem_append_right _ List.mem_cons_self
  · split_ifs at hmem
    · exact absurd hmem hold
    · have hnote := (List.mem_append.1 hmem).resolve_left hold
      exact ⟨BackfillMessage.finish.inj (List.mem_singleton.1 hnote), .inl rfl⟩

theorem release (h : Valid backfillLimit s) {task : ℕ} {job : Job}
    (hk : s.tasks[task]? = some job) (hphase : job.phase = .exiting) :
    Valid backfillLimit
      { s with
        backfillSemaphore := s.backfillSemaphore + 1
        tasks := s.tasks.set task { job with phase := .ended } } := by
  have ht := h.tracked task job hk
  refine h.step_silent hk ?_ ⟨ht.jobId, ?_, ?_, ?_⟩ (fun _ => .inr rfl) fun _ => rfl
  · simp [Job.holdsPermit, hphase]
  · intro he
    refine ⟨(ht.entry he).1, .inr (.inr ?_)⟩
    simpa [hphase] using (ht.entry he).2
  · exact fun _ hrunning => by cases hrunning
  · exact fun hack => by cases hack

/-! ## Messages keep it -/

/-- Messages come and go, but for the notes of finished jobs. -/
theorem messages (h : Valid backfillLimit s) {backfillRx : List BackfillMessage}
    (hrx : ∀ jobId, .finish jobId ∈ s.backfillRx ↔ .finish jobId ∈ backfillRx) :
    Valid backfillLimit { s with backfillRx := backfillRx } where
  permits := h.permits
  nextId := h.nextId
  ids := h.ids
  tracked task job hk := (h.tracked task job hk).mono (hrx _).1
  entries := h.entries
  waiting := h.waiting
  stopped := h.stopped
  finishes jobId hmem := h.finishes jobId ((hrx jobId).2 hmem)
  cancels := h.cancels

theorem send (h : Valid backfillLimit s) {message : BackfillMessage}
    (hmessage : ∀ jobId, message ≠ .finish jobId) : Valid backfillLimit (s.send message) := by
  rw [BackfillExEx.send_eq]
  refine h.messages fun jobId => ?_
  split_ifs
  · rfl
  · rw [List.mem_append, List.mem_singleton, or_iff_left (Ne.symm (hmessage jobId))]

theorem stop (h : Valid backfillLimit s) : Valid backfillLimit s.stop where
  permits := h.permits
  nextId := h.nextId
  ids := h.ids
  tracked task job hk :=
    { jobId := (h.tracked task job hk).jobId
      entry := fun he => by cases he
      running := fun hrunning => absurd rfl hrunning
      awaited := fun _ _ => .inl rfl }
  entries _ _ hlookup := by cases hlookup
  waiting _ _ hcontrol := by cases hcontrol
  stopped _ := rfl
  finishes _ hmem := absurd hmem List.not_mem_nil
  cancels := h.cancels

theorem answer (h : Valid backfillLimit s) {range : BlockRange} {message : String} :
    Valid backfillLimit (s.answer (.start range (.error message))) where
  permits := h.permits
  nextId := h.nextId
  ids := by
    rw [BackfillExEx.answer, handedOut_append, h.ids]
    exact List.append_nil _
  tracked := h.tracked
  entries := h.entries
  waiting := h.waiting
  stopped := h.stopped
  finishes := h.finishes
  cancels jobId hmem := h.cancels jobId (by simpa [BackfillExEx.answer] using hmem)

/-- A new job has a free id. -/
theorem start (h : Valid backfillLimit s) (hready : s.control = .ready)
    (hpermit : s.backfillSemaphore ≠ 0) (hmax : s.nextBackfillJobId ≠ .ofNat (UInt64.size - 1))
    (range : BlockRange) :
    Valid backfillLimit
      { s with
        backfillSemaphore := s.backfillSemaphore - 1
        nextBackfillJobId := s.nextBackfillJobId + 1
        backfillJobs := s.backfillJobs.put s.nextBackfillJobId s.tasks.length
        tasks := s.tasks ++ [⟨s.nextBackfillJobId, range, .running, false, 0⟩]
        outcomes := s.outcomes ++ [.start range (.ok s.nextBackfillJobId)] } where
  permits := by
    have htotal := h.permits
    simp only [List.countP_append, List.countP_singleton, Job.holdsPermit]
    simp only [reduceCtorEq, decide_not, decide_false, Bool.not_false, if_true]
    omega
  nextId := by
    simp only [List.length_append, List.length_singleton, toNat_add_one hmax, h.nextId]
  ids := by
    rw [handedOut_append, h.ids, List.map_append]
    rfl
  tracked task job hk := by
    obtain ⟨rfl, rfl⟩ | ⟨hlt, hk⟩ := getElem?_concat_eq_some hk
    · have hlookup : (s.backfillJobs.put s.nextBackfillJobId s.tasks.length).lookup
          s.nextBackfillJobId = some s.tasks.length := by
        rw [Assoc.lookup_put, if_pos rfl]
      exact ⟨h.nextId, fun _ => ⟨rfl, .inl rfl⟩, fun _ _ _ => hlookup,
        fun _ hsent => by cases hsent rfl⟩
    · have ht := h.tracked task job hk
      refine ht.congr ?_
      rw [Assoc.lookup_put, if_neg]
      intro heq
      rw [← ht.jobId, heq, h.nextId] at hlt
      exact Nat.lt_irrefl _ hlt
  entries jobId task hlookup := by
    rw [Assoc.lookup_put] at hlookup
    rw [List.length_append]
    split_ifs at hlookup with hid
    · obtain rfl := Option.some.inj hlookup
      exact ⟨hid ▸ h.nextId, Nat.lt_succ_self _⟩
    · obtain ⟨htask, hlt⟩ := h.entries jobId task hlookup
      exact ⟨htask, Nat.lt_succ_of_lt hlt⟩
  waiting jobId task hcontrol := by
    rw [hready] at hcontrol
    cases hcontrol
  stopped hstopped := by
    rw [hready] at hstopped
    cases hstopped
  finishes jobId hmem := (h.finishes jobId hmem).append _
  cancels jobId hmem := (h.cancels jobId (by simpa using hmem)).append _

theorem startBackfill (h : Valid backfillLimit s) (hready : s.control = .ready)
    (range : BlockRange) : Valid backfillLimit (s.startBackfill range) := by
  rw [BackfillExEx.startBackfill]
  split_ifs with hpermit hmax
  · exact h.answer
  · exact h.stop
  · exact h.start hready hpermit hmax range

/-- There is one task for each id. -/
theorem of_hasTask (h : Valid backfillLimit s) {p : Job → Prop} {task : ℕ} {job : Job}
    (hp : HasTask s.tasks p job.jobId) (hk : s.tasks[task]? = some job) : p job := by
  obtain ⟨job', hjob', hp⟩ := hp
  rw [(h.tracked task job hk).jobId, hk] at hjob'
  exact Option.some.inj hjob' ▸ hp

/-- A task that was sent a cancellation is waited for, and no other. -/
theorem not_mayAcknowledge (h : Valid backfillLimit s) (hready : s.control = .ready) {task : ℕ}
    {job : Job} (hk : s.tasks[task]? = some job) (hack : job.mayAcknowledge = true)
    (hsent : job.phase = .running → job.cancelSent = true) : False := by
  have hawaited := (h.tracked task job hk).awaited hack hsent
  rw [hready] at hawaited
  obtain hstopped | hawaiting := hawaited
  · cases hstopped
  · cases hawaiting

/-- While the extension is ready, a task that runs has its entry. -/
theorem lookup_of_running (h : Valid backfillLimit s) (hready : s.control = .ready) {task : ℕ}
    {job : Job} (hk : s.tasks[task]? = some job) (hphase : job.phase = .running) :
    s.backfillJobs.lookup job.jobId = some task := by
  refine (h.tracked task job hk).running (by rw [hready]; exact Control.noConfusion) hphase ?_
  by_contra hsent
  exact h.not_mayAcknowledge hready hk (Job.mayAcknowledge_of_running hphase)
    fun _ => by simpa using hsent

/-- The answer to a cancellation, once no task is to acknowledge. -/
theorem answerCancel (h : Valid backfillLimit s) {jobId : UInt64} {result : Except String Unit}
    (hcontrol : s.control ≠ .stopped)
    (hidle : ∀ (task : ℕ) (job : Job), s.tasks[task]? = some job → job.mayAcknowledge = true →
      ¬(job.phase = .running → job.cancelSent = true))
    (hnot : ∀ (task : ℕ) (job : Job), s.tasks[task]? = some job → job.jobId = jobId →
      job.phase ≠ .running)
    (hok : result = .ok () → HasTask s.tasks (fun job => job.mayAcknowledge = false) jobId) :
    Valid backfillLimit (s.answerCancel jobId result) where
  permits := h.permits
  nextId := h.nextId
  ids := by
    rw [BackfillExEx.answerCancel, handedOut_append, h.ids]
    exact List.append_nil _
  tracked task job hk := by
    have ht := h.tracked task job hk
    refine ⟨ht.jobId, fun he => ?_, fun _ hphase hsent => ?_, fun hack hsent => ?_⟩
    · rw [BackfillExEx.answerCancel, Assoc.lookup_erase] at he
      split_ifs at he
      · cases he
      · exact ht.entry he
    · rw [BackfillExEx.answerCancel, Assoc.lookup_erase, if_neg fun hid => hnot task job hk hid hphase]
      exact ht.running hcontrol hphase hsent
    · exact absurd hsent (hidle task job hk hack)
  entries other task hlookup := by
    rw [BackfillExEx.answerCancel, Assoc.lookup_erase] at hlookup
    split_ifs at hlookup
    exact h.entries other task hlookup
  waiting _ _ hcontrol := by cases hcontrol
  stopped hstopped := by cases hstopped
  finishes := h.finishes
  cancels other hmem := by
    rw [BackfillExEx.answerCancel, List.mem_append, List.mem_singleton] at hmem
    obtain hmem | hmem := hmem
    · exact h.cancels other hmem
    · obtain ⟨rfl, rfl⟩ := Outcome.cancel.inj hmem
      exact hok rfl

/-- A cancellation is sent to a task that runs, and waited for. -/
theorem sendCancel (h : Valid backfillLimit s) (hready : s.control = .ready) {jobId : UInt64}
    {task : ℕ} {job : Job} (hlookup : s.backfillJobs.lookup jobId = some task)
    (hk : s.tasks[task]? = some job) :
    Valid backfillLimit
      { s with
        backfillJobs := s.backfillJobs.erase jobId
        control := .awaiting jobId task
        tasks := s.tasks.set task { job with cancelSent := true } } := by
  have ht := h.tracked task job hk
  obtain ⟨hid, hlt⟩ := h.entries jobId task hlookup
  obtain rfl : job.jobId = jobId := UInt64.toNat_inj.1 (ht.jobId.trans hid.symm)
  exact
    { permits := by
        have hcount := countP_set Job.holdsPermit hk { job with cancelSent := true }
        have hpermit : { job with cancelSent := true }.holdsPermit = job.holdsPermit := rfl
        have htotal := h.permits
        rw [hpermit, Nat.add_right_cancel_iff] at hcount
        simp only [hcount, htotal]
      nextId := h.nextId.trans List.length_set.symm
      ids := h.ids.trans (map_jobId_set hk { job with cancelSent := true } rfl).symm
      tracked := fun k other hother => by
        obtain ⟨rfl, rfl⟩ | ⟨hne, hother⟩ := getElem?_set_eq_some hother
        · refine ⟨hid, fun he => ?_, fun _ _ hsent => (by cases hsent), fun _ _ => .inr rfl⟩
          rw [Assoc.lookup_erase, if_pos rfl] at he
          cases he
        · have ht' := h.tracked k other hother
          have hids : other.jobId ≠ job.jobId := fun heq => hne (by rw [← ht'.jobId, heq, ht.jobId])
          have hlookup' : (s.backfillJobs.erase job.jobId).lookup other.jobId =
              s.backfillJobs.lookup other.jobId := by
            rw [Assoc.lookup_erase, if_neg hids]
          refine ⟨ht'.jobId, (ht'.congr hlookup').entry, fun _ hphase _ => ?_, fun hack hsent => ?_⟩
          · rw [hlookup']
            exact h.lookup_of_running hready hother hphase
          · exact (h.not_mayAcknowledge hready hother hack hsent).elim
      entries := fun other k hother => by
        rw [Assoc.lookup_erase] at hother
        split_ifs at hother
        obtain ⟨hother, hk'⟩ := h.entries other k hother
        exact ⟨hother, hk'.trans_eq List.length_set.symm⟩
      waiting := fun other k hcontrol => by
        obtain ⟨rfl, rfl⟩ := Control.awaiting.inj hcontrol
        exact ⟨hid, hlt.trans_eq List.length_set.symm⟩
      stopped := fun hstopped => by cases hstopped
      finishes := fun other hmem => (h.finishes other hmem).set hk id
      cancels := fun other hmem => (h.cancels other hmem).set hk id }

theorem cancelBackfill (h : Valid backfillLimit s) (hready : s.control = .ready) (jobId : UInt64) :
    Valid backfillLimit (s.cancelBackfill jobId) := by
  have hcontrol : s.control ≠ .stopped := by rw [hready]; exact Control.noConfusion
  have hidle : ∀ (task : ℕ) (job : Job), s.tasks[task]? = some job → job.mayAcknowledge = true →
      (job.phase = .running → job.cancelSent = true) → False :=
    fun _ _ hk hack hsent => h.not_mayAcknowledge hready hk hack hsent
  rw [BackfillExEx.cancelBackfill]
  rcases hlookup : s.backfillJobs.lookup jobId with _ | task
  · refine h.answerCancel hcontrol hidle (fun task job hk hid hphase => ?_) fun hok => by cases hok
    rw [← hid, h.lookup_of_running hready hk hphase] at hlookup
    cases hlookup
  · simp only
    rcases hreceiver : s.receiver task with _ | job
    · refine h.answerCancel hcontrol hidle (fun k job hk hid hphase => ?_) fun hok => by cases hok
      obtain rfl : k = task := by
        rw [← (h.tracked k job hk).jobId, hid, (h.entries jobId task hlookup).1]
      rw [BackfillExEx.receiver_eq_some.2 ⟨hk, hphase⟩] at hreceiver
      cases hreceiver
    · exact h.sendCancel hready hlookup (BackfillExEx.receiver_eq_some.1 hreceiver).1

/-- The note of a finished job removes its entry. -/
theorem finished (h : Valid backfillLimit s) (hready : s.control = .ready) {jobId : UInt64}
    {rest : List BackfillMessage} (hrx : s.backfillRx = .finish jobId :: rest) :
    Valid backfillLimit
      { s with
        backfillRx := rest
        backfillJobs := s.backfillJobs.erase jobId
        outcomes := s.outcomes ++ [.finish jobId] } where
  permits := h.permits
  nextId := h.nextId
  ids := by
    rw [handedOut_append, h.ids]
    exact List.append_nil _
  tracked task job hk := by
    have ht := h.tracked task job hk
    by_cases hid : job.jobId = jobId
    · -- The job of the note is over.
      subst hid
      have hover := h.of_hasTask (h.finishes job.jobId (hrx ▸ List.mem_cons_self)) hk
      refine ⟨ht.jobId, fun he => ?_, fun _ hphase _ => ?_, ht.awaited⟩
      · rw [Assoc.lookup_erase, if_pos rfl] at he
        cases he
      · simp [Job.over, hphase] at hover
    · refine (ht.congr (by rw [Assoc.lookup_erase, if_neg hid])).mono fun hmem => ?_
      rw [hrx] at hmem
      exact (List.mem_cons.1 hmem).resolve_left fun heq => hid (BackfillMessage.finish.inj heq)
  entries other task hlookup := by
    rw [Assoc.lookup_erase] at hlookup
    split_ifs at hlookup
    exact h.entries other task hlookup
  waiting := h.waiting
  stopped hstopped := by
    rw [hready] at hstopped
    cases hstopped
  finishes other hmem := h.finishes other (hrx ▸ List.mem_cons_of_mem _ hmem)
  cancels other hmem := h.cancels other (by simpa using hmem)

theorem handle (h : Valid backfillLimit s) (hready : s.control = .ready) {message : BackfillMessage}
    {rest : List BackfillMessage} (hrx : s.backfillRx = message :: rest) :
    Valid backfillLimit ({ s with backfillRx := rest }.handleBackfillMessage message) := by
  cases message with
  | start range =>
    have hrest : Valid backfillLimit { s with backfillRx := rest } := h.messages fun id => by simp [hrx]
    exact hrest.startBackfill hready range
  | cancel jobId =>
    have hrest : Valid backfillLimit { s with backfillRx := rest } := h.messages fun id => by simp [hrx]
    exact hrest.cancelBackfill hready jobId
  | finish jobId => exact h.finished hready hrx

/-- The wait is over once the task can no longer acknowledge. -/
theorem resume (h : Valid backfillLimit s) {jobId : UInt64} {task : ℕ}
    (hcontrol : s.control = .awaiting jobId task)
    (hdone : ((s.tasks[task]?).any Job.mayAcknowledge) = false) :
    Valid backfillLimit (s.answerCancel jobId (.ok ())) := by
  obtain ⟨hid, hlt⟩ := h.waiting jobId task hcontrol
  have hack {job : Job} (hk : s.tasks[task]? = some job) : job.mayAcknowledge = false := by
    rwa [hk] at hdone
  refine h.answerCancel (by rw [hcontrol]; exact Control.noConfusion) (fun k job hk hmay hsent => ?_)
    (fun k job hk hjob hphase => ?_) fun _ => ?_
  · -- The task that is waited for is this one.
    obtain hstopped | hawaiting := (h.tracked k job hk).awaited hmay hsent
    · rw [hcontrol] at hstopped
      cases hstopped
    · rw [hcontrol] at hawaiting
      obtain ⟨-, rfl⟩ := Control.awaiting.inj hawaiting
      exact absurd hmay (Bool.eq_false_iff.1 (hack hk))
  · obtain rfl : k = task := by rw [← (h.tracked k job hk).jobId, hjob, hid]
    exact Bool.eq_false_iff.1 (hack hk) (Job.mayAcknowledge_of_running hphase)
  · have hk : s.tasks[jobId.toNat]? = some (s.tasks[task]) := by
      rw [hid]
      exact List.getElem?_eq_getElem hlt
    exact ⟨_, hk, hack (hid ▸ hk)⟩

theorem act (h : Valid backfillLimit s) {e : Event} {s' : BackfillExEx} (hact : s.act e = some s') :
    Valid backfillLimit s' := by
  cases e with
  | start range =>
    obtain rfl := Option.some.inj hact
    exact h.send fun jobId hmessage => by cases hmessage
  | cancel jobId =>
    obtain rfl := Option.some.inj hact
    exact h.send fun jobId hmessage => by cases hmessage
  | handle =>
    obtain ⟨hready, message, rest, hrx, rfl⟩ := BackfillExEx.act_handle.1 hact
    exact h.handle hready hrx
  | resume =>
    obtain ⟨jobId, task, hcontrol, hdone, rfl⟩ := BackfillExEx.act_resume.1 hact
    exact h.resume hcontrol hdone
  | stop =>
    obtain rfl := Option.some.inj hact
    exact h.stop
  | process task =>
    obtain ⟨job, hk, -, rfl⟩ := BackfillExEx.advance_eq_some.1 hact
    exact h.process hk
  | complete task =>
    obtain ⟨job, hk, hphase, rfl⟩ := BackfillExEx.advance_eq_some.1 hact
    exact h.complete hk (of_decide_eq_true hphase)
  | finish task =>
    obtain ⟨job, hk, hphase, rfl⟩ := BackfillExEx.act_finish.1 hact
    exact h.finish hk hphase
  | cancelled task =>
    obtain ⟨job, hk, henabled, rfl⟩ := BackfillExEx.advance_eq_some.1 hact
    obtain ⟨hphase, hresolves⟩ := Bool.and_eq_true_iff.1 henabled
    exact h.cancelled hk (of_decide_eq_true hphase) hresolves
  | acknowledge task =>
    obtain ⟨job, hk, hphase, rfl⟩ := BackfillExEx.advance_eq_some.1 hact
    exact h.acknowledge hk (of_decide_eq_true hphase)
  | release task =>
    obtain ⟨job, hk, hphase, rfl⟩ := BackfillExEx.act_release.1 hact
    exact h.release hk hphase

end Valid

theorem valid {backfillLimit : ℕ} {s : BackfillExEx} (hs : (backfill backfillLimit).Reachable s) :
    Valid backfillLimit s := by
  refine hs.invariant ?_ fun s e s' _ h _ hstep => h.act hstep
  rintro s rfl
  exact valid_new backfillLimit

end ExEx.Backfill
