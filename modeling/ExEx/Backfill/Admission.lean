import ExEx.Backfill.Cancel

/-!
# Freed permits

For whoever watches the answers, a job is over once its cancellation is answered or
the note that it has finished is handled. Its task then still holds its permit, and
drops it as the last thing it does. A job that is requested in between is refused,
though fewer jobs than the limit are open (`admission`).
-/

namespace ExEx.Backfill

/-! ## Open jobs -/

/-- Whether a job was cancelled or its end was handled. -/
def closed (outcomes : List Outcome) (jobId : UInt64) : Bool :=
  outcomes.any fun
    | .cancel other (.ok ()) => other = jobId
    | .finish other => other = jobId
    | _ => false

/-- How many of the jobs that were started are neither cancelled nor ended. -/
def openJobs (outcomes : List Outcome) : ℕ :=
  (handedOut outcomes).countP fun jobId => !closed outcomes jobId

/-- Every job that was requested while fewer than the limit were open was started. -/
def Admitted (backfillLimit : ℕ) (outcomes : List Outcome) : Prop :=
  ∀ l l' range result, outcomes = l ++ .start range result :: l' → openJobs l < backfillLimit →
    ∃ jobId, result = .ok jobId

theorem Admitted.concat {backfillLimit : ℕ} {outcomes : List Outcome}
    (h : Admitted backfillLimit outcomes) {outcome : Outcome}
    (houtcome : openJobs outcomes < backfillLimit → ∀ range message,
      outcome ≠ .start range (.error message)) : Admitted backfillLimit (outcomes ++ [outcome]) := by
  intro l l' range result heq hopen
  rcases List.eq_nil_or_concat l' with rfl | ⟨l', last, rfl⟩
  · obtain ⟨rfl, hlast⟩ := List.append_inj' heq rfl
    obtain rfl := (List.cons.inj hlast).1
    cases result with
    | error message => exact absurd rfl (houtcome hopen range message)
    | ok jobId => exact ⟨jobId, rfl⟩
  · have hinit : outcomes ++ [outcome] = (l ++ .start range result :: l') ++ [last] := by
      rw [heq, List.append_assoc, List.cons_append]
      simp
    exact h l l' range result (List.append_inj' hinit rfl).1 hopen

/-! ## Permits -/

/-- A permit is left, and an id. -/
def HasPermit (backfillLimit : ℕ) (s : BackfillExEx) : Prop :=
  s.tasks.countP Job.holdsPermit < backfillLimit ∧
    s.nextBackfillJobId ≠ .ofNat (UInt64.size - 1)

instance (backfillLimit : ℕ) (s : BackfillExEx) : Decidable (HasPermit backfillLimit s) :=
  inferInstanceAs (Decidable (_ ∧ _))

/-- Whether the next message requests a job. -/
def BackfillExEx.startNext (s : BackfillExEx) : Bool :=
  match s.backfillRx with
  | .start _ :: _ => true
  | _ => false

/-- If the next message requests a job while fewer than the limit are open, there is a
    permit for it. -/
def Released (backfillLimit : ℕ) (s : BackfillExEx) (e : Event) : Prop :=
  e = .handle → s.startNext → openJobs s.outcomes < backfillLimit → HasPermit backfillLimit s

instance (backfillLimit : ℕ) (s : BackfillExEx) (e : Event) : Decidable (Released backfillLimit s e) :=
  inferInstanceAs (Decidable (_ → _ → _ → _))

variable {backfillLimit : ℕ} {s s' : BackfillExEx}

theorem Valid.semaphore_ne_zero_iff (h : Valid backfillLimit s) :
    s.backfillSemaphore ≠ 0 ↔ s.tasks.countP Job.holdsPermit < backfillLimit := by
  have htotal := h.permits
  omega

/-- A job is started exactly if there are a permit and an id for it. -/
theorem Valid.startBackfill_iff (h : Valid backfillLimit s) (range : BlockRange) :
    (∃ jobId, (s.startBackfill range).outcomes = s.outcomes ++ [.start range (.ok jobId)]) ↔
      HasPermit backfillLimit s := by
  rw [HasPermit, ← h.semaphore_ne_zero_iff, BackfillExEx.startBackfill]
  split_ifs with hpermit hmax
  · constructor
    · rintro ⟨jobId, heq⟩
      cases (List.cons.inj (List.append_cancel_left heq)).1
    · exact fun hpermit' => absurd hpermit hpermit'.1
  · constructor
    · rintro ⟨jobId, heq⟩
      exact absurd heq (List.self_eq_append_right.not.2 (List.cons_ne_nil _ _))
    · exact fun hmax' => absurd hmax hmax'.2
  · exact ⟨fun _ => ⟨hpermit, hmax⟩, fun _ => ⟨_, rfl⟩⟩

/-- A job that is refused is refused for want of a permit. -/
theorem Valid.startBackfill_outcomes (h : Valid backfillLimit s) (range : BlockRange) :
    (s.startBackfill range).outcomes = s.outcomes ∨
      ∃ outcome, (s.startBackfill range).outcomes = s.outcomes ++ [outcome] ∧
        (HasPermit backfillLimit s → ∀ range' message, outcome ≠ .start range' (.error message)) := by
  rw [HasPermit, ← h.semaphore_ne_zero_iff, BackfillExEx.startBackfill]
  split_ifs with hpermit hmax
  · exact .inr ⟨_, rfl, fun hpermit' => absurd hpermit hpermit'.1⟩
  · exact .inl rfl
  · exact .inr ⟨_, rfl, fun _ _ _ heq => by cases heq⟩

theorem cancelBackfill_outcomes (jobId : UInt64) :
    (s.cancelBackfill jobId).outcomes = s.outcomes ∨
      ∃ result, (s.cancelBackfill jobId).outcomes = s.outcomes ++ [.cancel jobId result] := by
  rw [BackfillExEx.cancelBackfill]
  rcases s.backfillJobs.lookup jobId with _ | task
  · exact .inr ⟨_, rfl⟩
  · simp only
    rcases s.receiver task with _ | job
    · exact .inr ⟨_, rfl⟩
    · exact .inl rfl

/-- On runs in which freed permits are there in time, all jobs below the limit are
    started. -/
theorem admitted (hs : (backfill backfillLimit).ReachableBy (Released backfillLimit) s) :
    Admitted backfillLimit s.outcomes := by
  refine hs.invariant (I := fun s : BackfillExEx => Admitted backfillLimit s.outcomes) ?_ ?_
  · rintro s rfl
    intro l l' range result heq
    exact absurd heq.symm (List.append_ne_nil_of_right_ne_nil l (List.cons_ne_nil _ _))
  intro s e s' hr h hreleased hact
  obtain hsame | ⟨jobId, hanswered⟩ | rfl := outcomes_act hact
  · rwa [hsame]
  · rw [hanswered]
    exact h.concat fun _ _ _ heq => by cases heq
  · obtain ⟨hready, message, rest, hrx, rfl⟩ := BackfillExEx.act_handle.1 hact
    have hkept : Admitted backfillLimit { s with backfillRx := rest }.outcomes := h
    cases message with
    | start range =>
      have hrest : Valid backfillLimit { s with backfillRx := rest } :=
        (valid hr.reachable).messages fun id => by simp [hrx]
      change Admitted backfillLimit (BackfillExEx.startBackfill _ range).outcomes
      obtain hsame | ⟨outcome, hadded, houtcome⟩ := hrest.startBackfill_outcomes range
      · rwa [hsame]
      · rw [hadded]
        have hnext : s.startNext = true := by rw [BackfillExEx.startNext, hrx]
        exact hkept.concat fun hopen => houtcome (hreleased rfl hnext hopen)
    | cancel jobId =>
      change Admitted backfillLimit (BackfillExEx.cancelBackfill _ jobId).outcomes
      obtain hsame | ⟨result, hadded⟩ := cancelBackfill_outcomes (s := { s with backfillRx := rest }) jobId
      · rwa [hsame]
      · rw [hadded]
        exact hkept.concat fun _ _ _ heq => by cases heq
    | finish jobId => exact h.concat fun _ _ _ heq => by cases heq

/-- It is enough that the closed jobs have dropped their permits. -/
theorem released_of_ended (hs : (backfill backfillLimit).Reachable s)
    (hended : ∀ job ∈ s.tasks, closed s.outcomes job.jobId → job.phase = .ended)
    (hid : s.nextBackfillJobId ≠ .ofNat (UInt64.size - 1)) (e : Event) :
    Released backfillLimit s e := by
  intro _ _ hopen
  refine ⟨Nat.lt_of_le_of_lt ?_ hopen, hid⟩
  rw [openJobs, (valid hs).ids, List.countP_map]
  refine List.countP_mono_left fun job hjob hpermit => ?_
  rw [Function.comp_apply, Bool.not_eq_true', ← Bool.not_eq_true]
  exact fun hclosed => of_decide_eq_true hpermit (hended job hjob hclosed)

/-- A requested job is started while fewer than the limit are open exactly if fewer than
    the limit hold their permits then. -/
theorem admission (backfillLimit : ℕ) :
    (∀ s range rest, (backfill backfillLimit).Reachable s → s.control = .ready →
      s.backfillRx = .start range :: rest →
        ((openJobs s.outcomes < backfillLimit → ∃ jobId, (s.act .handle).map BackfillExEx.outcomes =
          some (s.outcomes ++ [.start range (.ok jobId)])) ↔
            (openJobs s.outcomes < backfillLimit → HasPermit backfillLimit s))) ∧
    ∀ s, (backfill backfillLimit).ReachableBy (Released backfillLimit) s →
      Admitted backfillLimit s.outcomes := by
  refine ⟨?_, fun s hs => admitted hs⟩
  intro s range rest hs hready hrx
  have hrest : Valid backfillLimit { s with backfillRx := rest } :=
    (valid hs).messages fun id => by simp [hrx]
  have hact : s.act .handle = some ({ s with backfillRx := rest }.startBackfill range) :=
    BackfillExEx.act_handle.2 ⟨hready, _, rest, hrx, rfl⟩
  have hstart := hrest.startBackfill_iff range
  simp only [hact, Option.map_some, Option.some.injEq]
  exact imp_congr_right fun _ => hstart

/-! ## A permit that is dropped late -/

/-- Ten jobs are started, one is cancelled, and another is requested. -/
def elevenJobs (between : List Event) : List Event :=
  (List.replicate 10 [.start (1, 9), .handle]).flatten ++
    [.cancel 0, .handle, .cancelled 0, .acknowledge 0, .resume] ++ between ++ [.start (5, 7)]

/-- The steps that meet the condition. -/
def actReleased (backfillLimit : ℕ) (s : BackfillExEx) (e : Event) : Option BackfillExEx :=
  if Released backfillLimit s e then s.act e else none

theorem reachableBy_actReleased (backfillLimit : ℕ) (events : List Event) {s : BackfillExEx}
    (h : events.foldlM (actReleased backfillLimit) (.new backfillLimit) = some s) :
    (backfill backfillLimit).ReachableBy (Released backfillLimit) s := by
  refine System.ReachableBy.foldlM (fun s e s' hact => ?_) (.init rfl) h
  rw [actReleased] at hact
  split_ifs at hact with hreleased
  exact ⟨hreleased, hact⟩

/-- The permit of the cancelled job is still held when the other one is requested. -/
theorem not_admitted_elevenJobs : ∃ s, (elevenJobs [] ++ [Event.handle]).foldlM BackfillExEx.act (.new 10) =
    some s ∧ (backfill 10).Reachable s ∧ ¬Admitted 10 s.outcomes := by
  refine ⟨_, rfl, reachable_act (elevenJobs [] ++ [Event.handle]) rfl, fun h => ?_⟩
  obtain ⟨jobId, hstarted⟩ := h _ [] (5, 7) _ rfl (by decide)
  cases hstarted

theorem admission_elevenJobs :
    (∃ s jobId, (elevenJobs [.release 0]).foldlM BackfillExEx.act (.new 10) = some s ∧
      (s.act .handle).map BackfillExEx.outcomes = some (s.outcomes ++ [.start (5, 7) (.ok jobId)])) ∧
    ∃ s, (elevenJobs [.release 0] ++ [Event.handle]).foldlM (actReleased 10) (.new 10) = some s ∧
      Admitted 10 s.outcomes := by
  constructor
  · have hstart := ((admission 10).1 _ (5, 7) [] (reachable_act (elevenJobs [.release 0]) rfl) rfl rfl).2
      fun _ => ⟨by decide, by decide⟩
    obtain ⟨jobId, hstarted⟩ := hstart (by decide)
    exact ⟨_, jobId, rfl, hstarted⟩
  · have hrun := reachableBy_actReleased 10 (elevenJobs [.release 0] ++ [Event.handle]) rfl
    exact ⟨_, rfl, (admission 10).2 _ hrun⟩

end ExEx.Backfill
