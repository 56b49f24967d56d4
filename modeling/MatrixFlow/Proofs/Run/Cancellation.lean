import MatrixFlow.Proofs.Run.Result

/-!
# Cancellation

* `JobRun.HasCause`: there is a reason to cancel instances of the job: everything has been told to
  stop, or the job is to fail fast and one of its own instances has failed.
* `JobRun.Justified`: nothing of the job is cancelled without a reason. Every move keeps it.
* `InstanceResult.CutShort i r`: `r` holds some of the steps of `i`, but not all, and all green.
* `Halted k s trace s'`: what `trace` cannot do any more to a job that was told to stop at `s`.
* `Runs.cancellation`: cancelled instances have a cause in their own job, and are cut short; a job
  that has been told to stop is halted.
-/

namespace MatrixFlow

/-! ## Causes -/

namespace JobRun

/-- There is a reason to cancel instances of the job. -/
def HasCause (run : JobRun) (sig : Signals) : Prop :=
  sig.everything = true ∨ run.policy.failFast = true ∧ ∃ u ∈ run.tasks, u.HasFailed

/-- The job at `k` is told to stop, and instances are cancelled, only for a reason. -/
structure Justified (k : Nat) (run : JobRun) (sig : Signals) : Prop where
  raised : sig.isRaised k = true → run.HasCause sig
  cancelled : ∀ t ∈ run.tasks, t.HasCancelled → run.HasCause sig

end JobRun

section Causes

variable {services : Services} {k : Nat} {run run' : JobRun} {sig sig' : Signals} {m : Move}
  {events : List Event}

theorem JobStep.hasCause (hs : JobStep services k run sig m events run' sig')
    (h : run.HasCause sig) : run'.HasCause sig' := by
  obtain he | ⟨hf, hu⟩ := h
  · exact .inl (hs.everything he)
  · exact .inr ⟨by rw [hs.policy_eq, hf], hs.exists_task (fun _ _ _ ha ht => ha.hasFailed ht) hu⟩

/-- The reason for which a job is told to stop stands in the job itself, or outside the run. -/
theorem JobStep.hasCause_of_isRaised (hs : JobStep services k run sig m events run' sig')
    (h : run.Justified k sig) (hr : sig'.isRaised k = true) : run'.HasCause sig' := by
  by_cases hold : sig.isRaised k = true
  · exact hs.hasCause (h.raised hold)
  · cases hs with
    | @own j mv t a ht ha =>
      cases hra : a.raises with
      | false => rw [hra] at hr; exact absurd hr hold
      | true =>
        obtain ⟨hf, hfail⟩ := ha.raises hra
        have hlt := (List.getElem?_eq_some_iff.mp ht).1
        refine .inr ⟨by simpa using hf, t.advance a, ?_, hfail⟩
        rw [JobRun.apply_tasks ht]
        exact List.mem_set hlt _
    | other _ heq => rw [heq] at hr; exact absurd hr hold
    | notice hf hc =>
      obtain ⟨u, hu, hcu⟩ := List.any_eq_true.mp hc
      exact .inr ⟨hf, u, hu, u.hasFailed_of_hasCrashed hcu⟩
    | stopAll => exact .inl rfl

theorem JobStep.justified (hs : JobStep services k run sig m events run' sig')
    (h : run.Justified k sig) : run'.Justified k sig' where
  raised := hs.hasCause_of_isRaised h
  cancelled t' ht' hc := by
    obtain hold | ⟨j, mv, t, a, rfl, ht, ha, rfl⟩ := hs.mem_tasks ht'
    · exact hs.hasCause (h.cancelled t' hold hc)
    · obtain hc | hstop := ha.hasCancelled hc
      · exact hs.hasCause (h.cancelled t (List.mem_of_getElem? ht) hc)
      · exact hs.hasCause (h.raised hstop)

end Causes

section Runs

variable {ok : Services → RunState → Move → Prop} {plans : List JobPlan}
  {trace : List (Move × List Event)} {s : RunState} {k : Nat} {run : JobRun}

theorem Runs.justified (h : Runs ok (RunState.start plans) trace s) (hk : s.job? k = some run) :
    run.Justified k s.signals := by
  refine h.job_induction (P := fun run sig => run.Justified k sig) ?_ ?_ run hk
  · intro run₀ h₀
    obtain ⟨plan, is, -, -, -, rfl⟩ := RunState.job?_start h₀
    refine ⟨fun hr => (by cases hr), fun t ht hc => ?_⟩
    obtain ⟨i, -, rfl⟩ := List.mem_map.mp ht
    obtain ⟨r, hr, -⟩ := hc
    cases hr
  · intro trace services a m events r r' sig' _ _ _ hs ih
    exact hs.justified ih

end Runs

/-! ## After the word to stop -/

/-- The event that a step begins. -/
def Event.IsStepStart : Event → Prop
  | .stepStarted .. => True
  | _ => False

/-- The next thing that the task does is to look whether its group has been told to stop. -/
def Phase.IsCheck : Phase → Prop
  | .opening | .between _ (_ :: _) => True
  | _ => False

theorem not_isStepStart_outputEvents {i : Instance} {index : Nat} {text : String} {isError : Bool} :
    ∀ e ∈ i.outputEvents index text isError, ¬ e.IsStepStart := by
  intro e he
  obtain ⟨line, -, rfl⟩ := List.mem_map.mp he
  exact id

section Silence

variable {services : Services} {i : Instance} {p : Progress} {step : Step} {rest : List Step}

theorem endStep_silent (reply : Reply) :
    ∀ e ∈ (endStep services i p step rest reply).2, ¬ e.IsStepStart := by
  have hclosed : ∀ e ∈ (closeStep services i p step reply).events, ¬ e.IsStepStart := by
    intro e he
    simp only [closeStep, List.mem_append, List.mem_singleton] at he
    obtain ((he | he) | he) | rfl := he
    · exact not_isStepStart_outputEvents e he
    · exact not_isStepStart_outputEvents e he
    · obtain ⟨⟨name, value⟩, -, rfl⟩ := List.mem_map.mp he
      exact id
    · exact id
  unfold endStep
  dsimp only
  split <;> exact hclosed

theorem takeReply_silent (spent : Duration) (next : Reply → Dialogue) (reply : Reply) :
    ∀ e ∈ (takeReply services i p step rest spent next reply).2, ¬ e.IsStepStart := by
  unfold takeReply
  split
  · exact endStep_silent lateReply
  · unfold converse
    split
    · simp
    · exact endStep_silent _

end Silence

section Stopped

variable {services : Services} {policy : DispatchPolicy} {free : Bool} {t : TaskRun} {mv : TaskMove}
  {a : Advance}

/-- No task begins a step once its group has been told to stop. -/
theorem TaskStep.silent (ha : TaskStep services policy free true t mv a) :
    ∀ e ∈ a.events, ¬ e.IsStepStart := by
  cases ha with
  | pass _ hs | allow _ hs | launch _ hs => cases hs
  | reply => exact takeReply_silent _ _ _
  | enter | record =>
    intro e he
    rw [List.mem_singleton.mp he]
    exact id
  | grant | leaveLine | refuse | finish | cancel | tell | release | crash => simp [TaskRun.goTo]

/-- At a check, a task whose group has been told to stop has only one way. -/
theorem TaskStep.check (ha : TaskStep services policy free true t mv a) (h : t.phase.IsCheck) :
    ∃ r, a.phase = .leaving r ∧ r.status = .cancelled := by
  cases ha with
  | pass _ hs | allow _ hs | launch _ hs => cases hs
  | refuse | cancel => exact ⟨_, rfl, rfl⟩
  | grant hp | leaveLine hp | enter hp | finish hp | record hp | tell hp | release hp | reply hp
  | crash hp => rw [hp] at h; exact h.elim

/-- The task has not begun, or was cancelled before it began. -/
def TaskRun.NeverBegan (t : TaskRun) : Prop :=
  t.phase = .waiting ∨ t.phase = .opening ∨
    t.ending? = some (InstanceResult.cancelled t.inst.summary)

/-- A task that has not begun when its group is told to stop never begins. -/
theorem TaskStep.neverBegan (ha : TaskStep services policy free true t mv a)
    (h : t.NeverBegan) : (t.advance a).NeverBegan := by
  obtain hw | ho | he := h
  · cases ha with
    | grant => exact .inl rfl
    | leaveLine => exact .inr (.inl rfl)
    | pass _ hs | allow _ hs | launch _ hs => cases hs
    | refuse hp | enter hp | finish hp | cancel hp | record hp | tell hp | release hp | reply hp
    | crash hp => rw [hp] at hw; cases hw
  · cases ha with
    | refuse => exact .inr (.inr rfl)
    | pass _ hs | allow _ hs | launch _ hs => cases hs
    | grant hp | leaveLine hp | enter hp | finish hp | cancel hp | record hp | tell hp | release hp
    | reply hp | crash hp => rw [hp] at ho; cases ho
  · exact .inr (.inr (ha.ending he))

end Stopped

/-- What `trace`, from `s` to `s'`, did and can do to the job at `k`, if it was told to stop
at `s`. -/
structure Halted (k : Nat) (s : RunState) (trace : List (Move × List Event)) (s' : RunState) :
    Prop where
  /-- Nobody takes the word back. -/
  raised : s'.signals.isRaised k = true
  /-- No task of the job begins a step. -/
  silent : ∀ j mv events, (.task k j mv, events) ∈ trace → ∀ e ∈ events, ¬ e.IsStepStart
  /-- A task at a check is cancelled by its next move. -/
  checked : ∀ services j mv run t s'' events, s'.task? k j = some (run, t) → t.phase.IsCheck →
    s'.perform services (.task k j mv) = some (s'', events) →
      ∃ run' t' r, s''.task? k j = some (run', t') ∧ t'.phase = .leaving r ∧ r.status = .cancelled
  /-- A task that stands in line does not begin any more. -/
  neverBegan : ∀ j run t, s.task? k j = some (run, t) → t.NeverBegan →
    ∃ run' t', s'.task? k j = some (run', t') ∧ t'.NeverBegan
  /-- What an instance came to is kept. -/
  kept : ∀ j run t r, s.task? k j = some (run, t) → t.ending? = some r →
    ∃ run' t', s'.task? k j = some (run', t') ∧ t'.ending? = some r

theorem RunState.isRaised_perform {services : Services} {s s' : RunState} {m : Move}
    {events : List Event} {k : Nat} (h : s.perform services m = some (s', events))
    (hr : s.signals.isRaised k = true) : s'.signals.isRaised k = true := by
  obtain ⟨l, j, mv, run, t, a, rfl, hl, ht, ha, rfl, rfl⟩ | ⟨l, run, rfl, hl, hf, hc, rfl, rfl⟩ |
    ⟨rfl, rfl, rfl⟩ := perform_cases h
  · rw [signals_apply]
    split <;> simp [hr]
  · simp [hr]
  · rfl

/-- What a move means for a task. -/
theorem RunState.task_perform {services : Services} {s s' : RunState} {m : Move}
    {events : List Event} {k j : Nat} {run : JobRun} {t : TaskRun}
    (h : s.perform services m = some (s', events)) (ht : s.task? k j = some (run, t)) :
    ∃ run' t', s'.task? k j = some (run', t') ∧ (t' = t ∨ ∃ mv a, m = .task k j mv ∧
      t' = t.advance a ∧
      TaskStep services run.policy run.hasSlot (s.signals.isRaised k) t mv a) := by
  obtain ⟨hk, hj⟩ := task?_eq_some.mp ht
  obtain ⟨run', hk', hs⟩ := job_step h hk
  obtain ⟨t', hj', rfl | ⟨mv, a, rfl, -, rfl, ha⟩⟩ := hs.task hj
  · exact ⟨run', t', task?_eq_some.mpr ⟨hk', hj'⟩, .inl rfl⟩
  · exact ⟨run', _, task?_eq_some.mpr ⟨hk', hj'⟩, .inr ⟨mv, a, rfl, rfl, ha⟩⟩

section Runs

variable {ok : Services → RunState → Move → Prop} {trace : List (Move × List Event)}
  {s s' : RunState} {k : Nat}

theorem Runs.isRaised (h : Runs ok s trace s') (hr : s.signals.isRaised k = true) :
    s'.signals.isRaised k = true :=
  h.induction (P := fun a => a.signals.isRaised k = true) hr
    fun _ _ _ _ _ _ _ _ hm ih => RunState.isRaised_perform hm ih

/-- What every move of a task that has been told to stop keeps, holds of it from then on. -/
theorem Runs.task_induction_of_isRaised {P : TaskRun → Prop} (h : Runs ok s trace s')
    (hr : s.signals.isRaised k = true)
    (hP : ∀ services policy free t mv a, TaskStep services policy free true t mv a → P t →
      P (t.advance a)) {j : Nat} {run : JobRun} {t : TaskRun} (ht : s.task? k j = some (run, t))
    (h0 : P t) : ∃ run' t', s'.task? k j = some (run', t') ∧ P t' := by
  refine h.induction (P := fun a => ∃ run' t', a.task? k j = some (run', t') ∧ P t')
    ⟨run, t, ht, h0⟩ ?_
  rintro trace services a b m events h - hm ⟨run', t', ht', hPt⟩
  obtain ⟨run'', t'', ht'', rfl | ⟨mv, adv, -, rfl, ha⟩⟩ := RunState.task_perform hm ht'
  · exact ⟨run'', t'', ht'', hPt⟩
  · rw [h.isRaised hr] at ha
    exact ⟨run'', _, ht'', hP _ _ _ _ _ _ ha hPt⟩

theorem Runs.silent (h : Runs ok s trace s') (hr : s.signals.isRaised k = true) :
    ∀ j mv events, (.task k j mv, events) ∈ trace → ∀ e ∈ events, ¬ e.IsStepStart := by
  induction h with
  | nil => simp
  | @snoc trace a b services m events h _ hm ih =>
    intro j mv events' hmem
    rw [List.mem_append, List.mem_singleton] at hmem
    obtain hmem | hlast := hmem
    · exact ih j mv events' hmem
    · cases hlast
      obtain ⟨l, j', mv', run, t, adv, hmv, hl, ht, ha, -, rfl⟩ | ⟨l, run, hmv, -⟩ | ⟨hmv, -⟩ :=
        RunState.perform_cases hm
      · cases hmv
        rw [h.isRaised hr] at ha
        exact (TaskRun.perform_step ha).silent
      · cases hmv
      · cases hmv

theorem Runs.halted (h : Runs ok s trace s') (hr : s.signals.isRaised k = true) :
    Halted k s trace s' where
  raised := h.isRaised hr
  silent := h.silent hr
  checked services j mv run t s'' events ht hcheck hm := by
    obtain ⟨hk, hj⟩ := RunState.task?_eq_some.mp ht
    obtain ⟨l, i, mv', run', t', a, hmv, hl, hi, ha, rfl, -⟩ | ⟨l, run', hmv, -⟩ | ⟨hmv, -⟩ :=
      RunState.perform_cases hm
    · cases hmv
      rw [hk] at hl; cases hl
      rw [hj] at hi; cases hi
      rw [h.isRaised hr] at ha
      obtain ⟨r, hp, hs⟩ := (TaskRun.perform_step ha).check hcheck
      refine ⟨run.apply j a, t.advance a, r, ?_, hp, hs⟩
      refine RunState.task?_eq_some.mpr ⟨RunState.job?_apply_self hk, ?_⟩
      have hlt := (List.getElem?_eq_some_iff.mp hj).1
      simp [JobRun.apply_tasks hj, hlt]
    · cases hmv
    · cases hmv
  neverBegan _ _ _ ht h0 :=
    h.task_induction_of_isRaised hr (fun _ _ _ _ _ _ ha hn => ha.neverBegan hn) ht h0
  kept _ _ _ _ ht h0 :=
    h.task_induction_of_isRaised hr (fun _ _ _ _ _ _ ha he => ha.ending he) ht h0

end Runs

/-! ## Scope -/

/-- The result holds some of the steps of the instance, but not all, and all green. -/
structure InstanceResult.CutShort (i : Instance) (r : InstanceResult) : Prop where
  records : Records r.steps i.job.steps
  green : ∀ o ∈ r.steps, o.Green
  proper : i.job.steps ≠ [] → r.steps.length < i.job.steps.length

/-- A cancelled instance was cut short, because the whole run was told to stop, or because its job
is to fail fast and another instance of the same job failed. A job that has been told to stop does
not begin any step any more, whatever happens then. -/
theorem Runs.cancellation {ok : Services → RunState → Move → Prop} {plans : List JobPlan}
    {trace : List (Move × List Event)} {s : RunState} (h : Runs ok (RunState.start plans) trace s)
    {k : Nat} {run : JobRun} (hk : s.job? k = some run) :
    (∀ t ∈ run.tasks, ∀ r, t.ending? = some r → r.status = .cancelled →
      (.stopAll ∈ trace.map (·.1) ∨
        run.policy.failFast = true ∧ ∃ u ∈ run.tasks, u.HasFailed) ∧ r.CutShort t.inst) ∧
    (s.signals.isRaised k = true → ∀ trace' s', Runs ok s trace' s' → Halted k s trace' s') := by
  refine ⟨fun t ht r hr hs => ⟨?_, ?_⟩, fun hraised trace' s' h' => h'.halted hraised⟩
  · obtain he | hf := (h.justified hk).cancelled t ht ⟨r, hr, hs⟩
    · exact .inl (h.stopAll_mem he)
    · exact .inr hf
  · have hsound := (h.sound hk t ht).ending hs hr
    obtain ⟨hproper, hgreen⟩ := hsound.cancelled hs
    exact ⟨hsound.records, hgreen, hproper⟩

/-- The first instance fails while the second one stands in line. -/
theorem Runs.cancellation_sample : ∃ trace s run t r,
    Runs AnyMove (RunState.start [Sample.plan ⟨true, some 1⟩]) trace s ∧
    .stopAll ∉ trace.map (·.1) ∧ s.job? 0 = some run ∧ t ∈ run.tasks ∧ t.ending? = some r ∧
    r.status = .cancelled ∧ r.CutShort t.inst ∧ (∃ u ∈ run.tasks, u.HasFailed) ∧
    ∀ trace' s', Runs AnyMove s trace' s' → Halted 0 s trace' s' := by
  obtain ⟨trace, s, h, hmoves, hcheck⟩ := RunState.exists_runs AnyMove Sample.services
    (RunState.start [Sample.plan ⟨true, some 1⟩])
    (Sample.upToCall 0 ++ Sample.afterReply 0 1 3 ++ List.replicate 5 (.task 0 1 .go))
    (fun s => s.signals.isRaised 0 && (s.task? 0 1).any fun p =>
      p.2.ending?.any (·.status == .cancelled))
    (by decide) (fun _ _ _ => trivial)
  have hstop : .stopAll ∉ trace.map (·.1) := by
    simp [hmoves, Sample.upToCall, Sample.afterReply]
  rw [Bool.and_eq_true, Option.any_eq_true] at hcheck
  obtain ⟨hraised, ⟨run, t⟩, ht, hending⟩ := hcheck
  rw [Option.any_eq_true] at hending
  obtain ⟨r, hr, hs⟩ := hending
  have hs : r.status = .cancelled := by simpa using hs
  obtain ⟨hk, hj⟩ := RunState.task?_eq_some.mp ht
  have hmem := List.mem_of_getElem? hj
  obtain ⟨hcancelled, hhalted⟩ := Runs.cancellation h hk
  obtain ⟨hcause, hcut⟩ := hcancelled t hmem r hr hs
  obtain hstop' | ⟨-, hfailed⟩ := hcause
  · exact absurd hstop' hstop
  · exact ⟨trace, s, run, t, r, h, hstop, hk, hmem, hr, hs, hcut, hfailed, hhalted hraised⟩

end MatrixFlow
