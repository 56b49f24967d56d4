import MatrixFlow.Proofs.Lists
import MatrixFlow.Proofs.Run.Task

/-!
# Runs

A run makes one possible move after the other; which one comes next is open.

* `Runs ok s trace s'`: moves that `ok` allows lead from `s` to `s'`, and `trace` tells them with
  their events.
* `JobStep`: what a move means for one job. `job_step` says that it is one of four things: a move
  of a task of the job, a move that does not touch the job, or the word to stop, for the job or for
  everything.
* `Runs.job_induction`: what every `JobStep` keeps holds of a job in every run.
* `Runs.origin`: no move changes which instances a job has, or its policy.
* `performAll`: makes moves in a row, to show that a run exists.
-/

namespace MatrixFlow

/-! ## What a move changes -/

namespace Signals

@[simp] theorem isRaised_raise (s : Signals) (g k : Nat) :
    (s.raise g).isRaised k = (s.isRaised k || k == g) := by
  unfold raise isRaised
  by_cases hk : k = g
  · subst hk
    split <;> simp_all
  · split <;> simp [hk]

@[simp] theorem isRaised_raiseAll (s : Signals) (k : Nat) : s.raiseAll.isRaised k = true := rfl

@[simp] theorem everything_raise (s : Signals) (g : Nat) : (s.raise g).everything = s.everything := by
  unfold raise
  split <;> rfl

@[simp] theorem isRaised_none (k : Nat) : none.isRaised k = false := rfl

end Signals

namespace JobRun

@[simp] theorem request_job (r : JobRun) (id : Nat) (state : InstanceState) :
    (r.request id state).job = r.job := by
  unfold request; split <;> rfl

@[simp] theorem request_policy (r : JobRun) (id : Nat) (state : InstanceState) :
    (r.request id state).policy = r.policy := by
  unfold request; split <;> rfl

@[simp] theorem request_tasks (r : JobRun) (id : Nat) (state : InstanceState) :
    (r.request id state).tasks = r.tasks := by
  unfold request; split <;> rfl

@[simp] theorem apply_job (r : JobRun) (id : Nat) (a : Advance) : (r.apply id a).job = r.job := by
  unfold apply; split <;> simp

@[simp] theorem apply_policy (r : JobRun) (id : Nat) (a : Advance) :
    (r.apply id a).policy = r.policy := by
  unfold apply; split <;> simp

theorem apply_tasks {r : JobRun} {id : Nat} {t : TaskRun} (h : r.tasks[id]? = some t) (a : Advance) :
    (r.apply id a).tasks = r.tasks.set id (t.advance a) := by
  have hm : r.tasks.modify id (·.advance a) = r.tasks.set id (t.advance a) := by
    apply List.ext_getElem?
    intro j
    rw [List.getElem?_modify, List.getElem?_set]
    by_cases hj : id = j
    · subst hj
      obtain ⟨hlt, rfl⟩ := List.getElem?_eq_some_iff.mp h
      simp [hlt]
    · simp [hj]
  unfold apply
  split <;> simp [hm]

end JobRun

@[simp] theorem TaskRun.advance_inst (t : TaskRun) (a : Advance) : (t.advance a).inst = t.inst := rfl

@[simp] theorem TaskRun.advance_phase (t : TaskRun) (a : Advance) :
    (t.advance a).phase = a.phase := rfl

@[simp] theorem TaskRun.advance_slot (t : TaskRun) (a : Advance) : (t.advance a).slot = a.slot := rfl

namespace RunState

theorem job?_eq_some {s : RunState} {k : Nat} {run : JobRun} :
    s.job? k = some run ↔ s.jobs[k]? = some (.started run) := by
  unfold job?
  split <;> simp_all

theorem task?_eq_some {s : RunState} {k j : Nat} {run : JobRun} {t : TaskRun} :
    s.task? k j = some (run, t) ↔ s.job? k = some run ∧ run.tasks[j]? = some t := by
  unfold task?
  simp only [bind, Option.bind_eq_some_iff]
  constructor
  · rintro ⟨r, hr, u, hu, h⟩
    cases h
    exact ⟨hr, hu⟩
  · rintro ⟨hr, ht⟩
    exact ⟨run, hr, t, ht, rfl⟩

/-- The moves that are possible, with what they lead to. -/
theorem perform_cases {services : Services} {s s' : RunState} {m : Move} {events : List Event}
    (h : s.perform services m = some (s', events)) :
    (∃ k j mv run t a, m = .task k j mv ∧ s.job? k = some run ∧ run.tasks[j]? = some t ∧
      t.perform services run.policy run.hasSlot (s.signals.isRaised k) mv = some a ∧
      s' = s.apply k j run a ∧ events = a.events) ∨
    (∃ k run, m = .notice k ∧ s.job? k = some run ∧ run.policy.failFast = true ∧
      run.tasks.any TaskRun.hasCrashed = true ∧
      s' = { s with signals := s.signals.raise k } ∧ events = []) ∨
    (m = .stopAll ∧ s' = { s with signals := s.signals.raiseAll } ∧ events = []) := by
  cases m with
  | task k j mv =>
    simp only [perform, bind, Option.bind_eq_some_iff] at h
    obtain ⟨⟨run, t⟩, ht, a, ha, h⟩ := h
    cases h
    obtain ⟨hrun, ht⟩ := task?_eq_some.mp ht
    exact .inl ⟨k, j, mv, run, t, a, rfl, hrun, ht, ha, rfl, rfl⟩
  | notice k =>
    simp only [perform, bind, Option.bind_eq_some_iff] at h
    obtain ⟨run, hrun, h⟩ := h
    split at h
    · rename_i hc
      rw [Bool.and_eq_true] at hc
      cases h
      exact .inr (.inl ⟨k, run, rfl, hrun, hc.1, hc.2, rfl, rfl⟩)
    · cases h
  | stopAll =>
    cases h
    exact .inr (.inr ⟨rfl, rfl, rfl⟩)

theorem perform_task {services : Services} {s : RunState} {k j : Nat} {mv : TaskMove} {run : JobRun}
    {t : TaskRun} {a : Advance} (hrun : s.job? k = some run) (ht : run.tasks[j]? = some t)
    (ha : t.perform services run.policy run.hasSlot (s.signals.isRaised k) mv = some a) :
    s.perform services (.task k j mv) = some (s.apply k j run a, a.events) := by
  simp only [perform, task?_eq_some.mpr ⟨hrun, ht⟩, bind, Option.bind_some, ha]

theorem job?_apply_self {s : RunState} {k j : Nat} {run : JobRun} {a : Advance}
    (h : s.job? k = some run) : (s.apply k j run a).job? k = some (run.apply j a) := by
  rw [job?_eq_some] at h ⊢
  obtain ⟨hlt, -⟩ := List.getElem?_eq_some_iff.mp h
  simp [apply, setJob, hlt]

theorem job?_apply_ne {s : RunState} {k l j : Nat} {run : JobRun} {a : Advance} (h : l ≠ k) :
    (s.apply k j run a).job? l = s.job? l := by
  unfold job?
  simp [apply, setJob, List.getElem?_set_ne (Ne.symm h)]

@[simp] theorem signals_apply (s : RunState) (k j : Nat) (run : JobRun) (a : Advance) :
    (s.apply k j run a).signals = if a.raises then s.signals.raise k else s.signals := rfl

end RunState

/-! ## One job in a move -/

/-- What a move with its events means for the job at `k`, when it was `run` before and the signals
were `sig`. -/
inductive JobStep (services : Services) (k : Nat) (run : JobRun) (sig : Signals) :
    Move → List Event → JobRun → Signals → Prop
  /-- One of its tasks makes a move. -/
  | own {j : Nat} {mv : TaskMove} {t : TaskRun} {a : Advance} (ht : run.tasks[j]? = some t)
      (ha : TaskStep services run.policy run.hasSlot (sig.isRaised k) t mv a) :
      JobStep services k run sig (.task k j mv) a.events (run.apply j a)
        (if a.raises then sig.raise k else sig)
  /-- Another job makes a move, or takes notice of a breakdown. -/
  | other {m : Move} {events : List Event} {sig' : Signals} (hm : ∀ j mv, m ≠ .task k j mv)
      (hr : sig'.isRaised k = sig.isRaised k) (he : sig'.everything = sig.everything) :
      JobStep services k run sig m events run sig'
  /-- It takes notice that one of its tasks broke down. -/
  | notice (hf : run.policy.failFast = true) (hc : run.tasks.any TaskRun.hasCrashed = true) :
      JobStep services k run sig (.notice k) [] run (sig.raise k)
  /-- Everything is told to stop. -/
  | stopAll : JobStep services k run sig .stopAll [] run sig.raiseAll

section JobStep

variable {services : Services} {k : Nat} {run run' : JobRun} {sig sig' : Signals} {m : Move}
  {events : List Event}

theorem JobStep.policy_eq (hs : JobStep services k run sig m events run' sig') :
    run'.policy = run.policy := by
  cases hs <;> simp

theorem JobStep.length_tasks (hs : JobStep services k run sig m events run' sig') :
    run'.tasks.length = run.tasks.length := by
  cases hs with
  | own ht _ => rw [JobRun.apply_tasks ht, List.length_set]
  | other | notice | stopAll => rfl

/-- A task behind a move stood there before, or made the move. -/
theorem JobStep.mem_tasks (hs : JobStep services k run sig m events run' sig') {t' : TaskRun}
    (ht' : t' ∈ run'.tasks) : t' ∈ run.tasks ∨ ∃ j mv t a, m = .task k j mv ∧
      run.tasks[j]? = some t ∧ TaskStep services run.policy run.hasSlot (sig.isRaised k) t mv a ∧
      t' = t.advance a := by
  cases hs with
  | own ht ha =>
    rw [JobRun.apply_tasks ht] at ht'
    rcases List.mem_or_eq_of_mem_set ht' with hmem | rfl
    · exact .inl hmem
    · exact .inr ⟨_, _, _, _, rfl, ht, ha, rfl⟩
  | other | notice | stopAll => exact .inl ht'

/-- What a move means for the task at a position. -/
theorem JobStep.task (hs : JobStep services k run sig m events run' sig') {j : Nat} {t : TaskRun}
    (ht : run.tasks[j]? = some t) : ∃ t', run'.tasks[j]? = some t' ∧ (t' = t ∨
      ∃ mv a, m = .task k j mv ∧ events = a.events ∧ t' = t.advance a ∧
        TaskStep services run.policy run.hasSlot (sig.isRaised k) t mv a) := by
  cases hs with
  | @own l mv u a hu ha =>
    rw [JobRun.apply_tasks hu, List.getElem?_set]
    by_cases hl : l = j
    · subst hl
      rw [ht] at hu; cases hu
      obtain ⟨hlt, -⟩ := List.getElem?_eq_some_iff.mp ht
      exact ⟨t.advance a, by simp [hlt], .inr ⟨mv, a, rfl, rfl, rfl, ha⟩⟩
    · exact ⟨t, by simp [hl, ht], .inl rfl⟩
  | other | notice | stopAll => exact ⟨t, ht, .inl rfl⟩

/-- A move that a task does not make leaves it as it is. -/
theorem JobStep.getElem?_tasks (hs : JobStep services k run sig m events run' sig') {j : Nat}
    (hm : ∀ mv, m ≠ .task k j mv) : run'.tasks[j]? = run.tasks[j]? := by
  cases hs with
  | @own l mv t a ht =>
    rw [JobRun.apply_tasks ht]
    refine List.getElem?_set_ne ?_
    rintro rfl
    exact hm mv rfl
  | other | notice | stopAll => rfl

/-- What every move of a task keeps is kept by a move of the run. -/
theorem JobStep.exists_task {P : TaskRun → Prop}
    (hs : JobStep services k run sig m events run' sig')
    (hP : ∀ t mv a, TaskStep services run.policy run.hasSlot (sig.isRaised k) t mv a → P t →
      P (t.advance a)) (h : ∃ t ∈ run.tasks, P t) : ∃ t ∈ run'.tasks, P t := by
  obtain ⟨t, hmem, ht⟩ := h
  obtain ⟨j, hj⟩ := List.getElem?_of_mem hmem
  obtain ⟨t', hj', rfl | ⟨mv, a, -, -, rfl, ha⟩⟩ := hs.task hj
  · exact ⟨t', List.mem_of_getElem? hj', ht⟩
  · exact ⟨_, List.mem_of_getElem? hj', hP t mv a ha ht⟩

theorem JobStep.everything (hs : JobStep services k run sig m events run' sig')
    (h : sig.everything = true) : sig'.everything = true := by
  cases hs with
  | own => split <;> simp [h]
  | other _ _ he => rw [he, h]
  | notice => simp [h]
  | stopAll => rfl

end JobStep

namespace RunState

theorem job_step {services : Services} {s s' : RunState} {m : Move} {events : List Event} {k : Nat}
    {run : JobRun} (h : s.perform services m = some (s', events)) (hk : s.job? k = some run) :
    ∃ run', s'.job? k = some run' ∧ JobStep services k run s.signals m events run' s'.signals := by
  obtain ⟨l, j, mv, r, t, a, rfl, hl, ht, ha, rfl, rfl⟩ | ⟨l, r, rfl, hl, hf, hc, rfl, rfl⟩ |
    ⟨rfl, rfl, rfl⟩ := perform_cases h
  · by_cases hlk : k = l
    · subst hlk
      rw [hk] at hl; cases hl
      exact ⟨_, job?_apply_self hk, .own ht (TaskRun.perform_step ha)⟩
    · refine ⟨run, by rw [job?_apply_ne hlk, hk], .other ?_ ?_ ?_⟩
      · rintro j' mv' ⟨⟩; exact hlk rfl
      · rw [signals_apply]; split <;> simp [hlk]
      · rw [signals_apply]; split <;> simp
  · by_cases hlk : k = l
    · subst hlk
      rw [hk] at hl; cases hl
      exact ⟨run, hk, .notice hf hc⟩
    · exact ⟨run, hk, .other (by rintro _ _ ⟨⟩) (by simp [hlk]) (by simp)⟩
  · exact ⟨run, hk, .stopAll⟩

end RunState

/-- A stage as it was before the first move of its job. -/
def JobStage.origin : JobStage → JobStage
  | .started run => .started (JobRun.start run.job run.policy (run.tasks.map (·.inst)))
  | stage => stage

theorem JobRun.map_inst_apply {r : JobRun} {id : Nat} {t : TaskRun} (h : r.tasks[id]? = some t)
    (a : Advance) : (r.apply id a).tasks.map (·.inst) = r.tasks.map (·.inst) := by
  rw [JobRun.apply_tasks h, List.map_set, TaskRun.advance_inst]
  exact set_eq_self (by simp [h])

namespace RunState

theorem origin_perform {services : Services} {s s' : RunState} {m : Move} {events : List Event}
    (h : s.perform services m = some (s', events)) :
    s'.jobs.map JobStage.origin = s.jobs.map JobStage.origin := by
  obtain ⟨k, j, mv, run, t, a, rfl, hk, ht, ha, rfl, rfl⟩ | ⟨k, run, rfl, hk, hf, hc, rfl, rfl⟩ |
    ⟨rfl, rfl, rfl⟩ := perform_cases h
  · simp only [apply, setJob, List.map_set, JobStage.origin, JobRun.apply_job, JobRun.apply_policy,
      JobRun.map_inst_apply ht]
    rw [job?_eq_some] at hk
    exact set_eq_self (by simp [hk, JobStage.origin])
  · rfl
  · rfl

/-- A job that stands in the state after a move stood in the state before. -/
theorem job_step_back {services : Services} {s s' : RunState} {m : Move} {events : List Event}
    {k : Nat} {run' : JobRun} (h : s.perform services m = some (s', events))
    (hk : s'.job? k = some run') :
    ∃ run, s.job? k = some run ∧ JobStep services k run s.signals m events run' s'.signals := by
  have ho := congrArg (·[k]?) (origin_perform h)
  simp only [List.getElem?_map] at ho
  rw [job?_eq_some.mp hk] at ho
  obtain ⟨stage, hs, hst⟩ := Option.map_eq_some_iff.mp ho.symm
  cases stage with
  | unexpanded job e => cases hst
  | aborted job => cases hst
  | started run =>
    have hrun : s.job? k = some run := job?_eq_some.mpr hs
    obtain ⟨run'', hk'', hstep⟩ := job_step h hrun
    rw [hk] at hk''; cases hk''
    exact ⟨run, hrun, hstep⟩

end RunState

/-! ## Runs -/

/-- Moves that `ok` allows lead from `s` to the last state; they are told with their events, in
order. -/
inductive Runs (ok : Services → RunState → Move → Prop) (s : RunState) :
    List (Move × List Event) → RunState → Prop
  | nil : Runs ok s [] s
  | snoc {trace : List (Move × List Event)} {a b : RunState} {services : Services} {m : Move}
      {events : List Event} : Runs ok s trace a → ok services a m →
      a.perform services m = some (b, events) → Runs ok s (trace ++ [(m, events)]) b

/-- Any move is allowed. -/
def AnyMove : Services → RunState → Move → Prop := fun _ _ _ => True

/-- No task breaks down. -/
def Calm : Services → RunState → Move → Prop := fun _ _ m => ∀ k j, m ≠ .task k j .crash

section Induction

variable {ok : Services → RunState → Move → Prop} {s s' : RunState}
  {trace : List (Move × List Event)}

/-- What every allowed move keeps holds in every run. -/
theorem Runs.induction {P : RunState → Prop} (h : Runs ok s trace s') (h0 : P s)
    (hstep : ∀ trace services a b m events, Runs ok s trace a → ok services a m →
      a.perform services m = some (b, events) → P a → P b) : P s' := by
  induction h with
  | nil => exact h0
  | snoc h hok hm ih => exact hstep _ _ _ _ _ _ h hok hm ih

/-- What every `JobStep` by an allowed move keeps holds of the job in every run. -/
theorem Runs.job_induction {k : Nat} {P : JobRun → Signals → Prop} (h : Runs ok s trace s')
    (h0 : ∀ run, s.job? k = some run → P run s.signals)
    (hstep : ∀ trace services a m events run run' sig', Runs ok s trace a → a.job? k = some run →
      ok services a m → JobStep services k run a.signals m events run' sig' → P run a.signals →
      P run' sig') :
    ∀ run, s'.job? k = some run → P run s'.signals := by
  refine h.induction (P := fun a => ∀ run, a.job? k = some run → P run a.signals) h0 ?_
  intro trace services a b m events h hok hm ih run' hk'
  obtain ⟨run, hk, hs⟩ := RunState.job_step_back hm hk'
  exact hstep trace services a m events run run' b.signals h hk hok hs (ih run hk)

theorem Runs.origin (h : Runs ok s trace s') :
    s'.jobs.map JobStage.origin = s.jobs.map JobStage.origin :=
  h.induction (P := fun a => a.jobs.map JobStage.origin = s.jobs.map JobStage.origin) rfl
    fun _ _ _ _ _ _ _ _ hm ih => (RunState.origin_perform hm).trans ih

/-- A run is one of other moves, if these are allowed wherever it comes. -/
theorem Runs.weaken {ok' : Services → RunState → Move → Prop} (h : Runs ok s trace s')
    (hok : ∀ trace services a m, Runs ok s trace a → ok services a m → ok' services a m) :
    Runs ok' s trace s' := by
  induction h with
  | nil => exact .nil
  | snoc h ho hm ih => exact .snoc ih (hok _ _ _ _ h ho) hm

theorem Runs.append {trace' : List (Move × List Event)} {s'' : RunState} (h : Runs ok s trace s')
    (h' : Runs ok s' trace' s'') : Runs ok s (trace ++ trace') s'' := by
  induction h' with
  | nil => simpa using h
  | snoc _ ho hm ih => rw [← List.append_assoc]; exact .snoc ih ho hm

theorem Runs.single {services : Services} {m : Move} {events : List Event} (hok : ok services s m)
    (hm : s.perform services m = some (s', events)) : Runs ok s [(m, events)] s' :=
  .snoc .nil hok hm

/-- A job that a run reaches was there at the start, with the same instances and policy. -/
theorem Runs.job?_start {k : Nat} {run : JobRun} (h : Runs ok s trace s')
    (hk : s'.job? k = some run) : ∃ run₀, s.job? k = some run₀ ∧ run₀.job = run.job ∧
      run₀.policy = run.policy ∧ run₀.tasks.map (·.inst) = run.tasks.map (·.inst) := by
  have ho := congrArg (·[k]?) h.origin
  simp only [List.getElem?_map] at ho
  rw [RunState.job?_eq_some.mp hk] at ho
  obtain ⟨stage, hs, hst⟩ := Option.map_eq_some_iff.mp ho.symm
  cases stage with
  | unexpanded job e => cases hst
  | aborted job => cases hst
  | started run₀ =>
    simp only [JobStage.origin, JobRun.start, JobStage.started.injEq, JobRun.mk.injEq] at hst
    obtain ⟨hj, hp, ht, -⟩ := hst
    refine ⟨run₀, RunState.job?_eq_some.mpr hs, hj, hp, ?_⟩
    have := congrArg (List.map (·.inst)) ht
    simpa [List.map_map, Function.comp_def, TaskRun.start] using this

end Induction

/-! ## The start of a run -/

theorem JobStage.ofPlan_started {plan : JobPlan} {run : JobRun}
    (h : JobStage.ofPlan plan = .started run) : ∃ is, plan.instances = .ok is ∧
      plan.policy.maxParallel.getD 0 ≤ maxSlots ∧ run = JobRun.start plan.job plan.policy is := by
  unfold ofPlan at h
  split at h
  · cases h
  · rename_i is his
    split at h
    · cases h
    · rename_i hle
      cases h
      exact ⟨is, his, Nat.le_of_not_lt hle, rfl⟩

theorem RunState.job?_start {plans : List JobPlan} {k : Nat} {run : JobRun}
    (h : (RunState.start plans).job? k = some run) : ∃ plan is, plans[k]? = some plan ∧
      plan.instances = .ok is ∧ plan.policy.maxParallel.getD 0 ≤ maxSlots ∧
      run = JobRun.start plan.job plan.policy is := by
  rw [job?_eq_some] at h
  simp only [start, List.getElem?_map, Option.map_eq_some_iff] at h
  obtain ⟨plan, hp, hs⟩ := h
  obtain ⟨is, his, hle, rfl⟩ := JobStage.ofPlan_started hs
  exact ⟨plan, is, hp, his, hle, rfl⟩

theorem Runs.exists_plan {ok : Services → RunState → Move → Prop} {plans : List JobPlan}
    {trace : List (Move × List Event)} {s : RunState} {k : Nat} {run : JobRun}
    (h : Runs ok (RunState.start plans) trace s) (hk : s.job? k = some run) :
    ∃ plan, plans[k]? = some plan ∧ run.policy = plan.policy := by
  obtain ⟨run₀, h₀, -, hpolicy, -⟩ := h.job?_start hk
  obtain ⟨plan, is, hp, -, -, rfl⟩ := RunState.job?_start h₀
  exact ⟨plan, hp, hpolicy.symm⟩

/-- A job of a run is that of its plan. -/
theorem Runs.job?_eq_plan {ok : Services → RunState → Move → Prop} {plans : List JobPlan}
    {trace : List (Move × List Event)} {s : RunState} {k : Nat} {run : JobRun} {plan : JobPlan}
    (h : Runs ok (RunState.start plans) trace s) (hk : s.job? k = some run)
    (hp : plans[k]? = some plan) : run.job = plan.job ∧ run.policy = plan.policy ∧
      plan.instances = .ok (run.tasks.map (·.inst)) := by
  obtain ⟨run₀, h₀, hjob, hpolicy, hinst⟩ := h.job?_start hk
  obtain ⟨plan', is, hp', his, -, rfl⟩ := RunState.job?_start h₀
  rw [hp] at hp'
  cases hp'
  refine ⟨hjob.symm, hpolicy.symm, ?_⟩
  rw [his, ← hinst]
  simp [JobRun.start, TaskRun.start, Function.comp_def]

/-- What a task has at its start, and every move of a task keeps, holds of every task in every
run. -/
theorem Runs.task_induction {ok : Services → RunState → Move → Prop} {plans : List JobPlan}
    {trace : List (Move × List Event)} {s : RunState} {k : Nat} {run : JobRun} {P : TaskRun → Prop}
    (h : Runs ok (RunState.start plans) trace s) (hk : s.job? k = some run)
    (h0 : ∀ i, P (TaskRun.start i))
    (hstep : ∀ trace services a r j t mv adv, Runs ok (RunState.start plans) trace a →
      a.task? k j = some (r, t) → ok services a (.task k j mv) →
      TaskStep services r.policy r.hasSlot (a.signals.isRaised k) t mv adv → P t →
      P (t.advance adv)) : ∀ t ∈ run.tasks, P t := by
  refine h.job_induction (P := fun run _ => ∀ t ∈ run.tasks, P t) ?_ ?_ run hk
  · intro run₀ h₀ t ht
    obtain ⟨plan, is, -, -, -, rfl⟩ := RunState.job?_start h₀
    obtain ⟨i, -, rfl⟩ := List.mem_map.mp ht
    exact h0 i
  · intro trace services a m events r r' sig' h hr hok hs ih t' ht'
    obtain hold | ⟨j, mv, t, adv, rfl, ht, ha, rfl⟩ := hs.mem_tasks ht'
    · exact ih t' hold
    · exact hstep _ _ _ _ _ _ _ _ h (RunState.task?_eq_some.mpr ⟨hr, ht⟩) hok ha
        (ih t (List.mem_of_getElem? ht))

/-- Everything is told to stop by nobody but the one outside. -/
theorem Runs.stopAll_mem {ok : Services → RunState → Move → Prop} {plans : List JobPlan}
    {trace : List (Move × List Event)} {s : RunState} (h : Runs ok (RunState.start plans) trace s)
    (he : s.signals.everything = true) : .stopAll ∈ trace.map (·.1) := by
  induction h with
  | nil => cases he
  | snoc _ _ hm ih =>
    rw [List.map_append, List.mem_append]
    obtain ⟨k, j, mv, run, t, a, rfl, hk, ht, ha, rfl, rfl⟩ | ⟨k, run, rfl, hk, hf, hc, rfl, rfl⟩ |
      ⟨rfl, rfl, rfl⟩ := RunState.perform_cases hm
    · rw [RunState.signals_apply] at he
      exact .inl (ih (by split at he <;> simpa using he))
    · exact .inl (ih (by simpa using he))
    · exact .inr (by simp)

/-! ## Making moves in a row -/

/-- Makes moves in a row; nothing if one of them is not possible. -/
def RunState.performAll (services : Services) (s : RunState) :
    List Move → Option (List (Move × List Event) × RunState)
  | [] => some ([], s)
  | m :: rest => do
    let (s', events) ← s.perform services m
    let (trace, s'') ← s'.performAll services rest
    some ((m, events) :: trace, s'')

theorem RunState.runs_performAll {ok : Services → RunState → Move → Prop} {services : Services}
    {moves : List Move} {s s' : RunState} {trace : List (Move × List Event)}
    (h : s.performAll services moves = some (trace, s'))
    (hok : ∀ a, ∀ m ∈ moves, ok services a m) : Runs ok s trace s' := by
  induction moves generalizing s trace with
  | nil => cases h; exact .nil
  | cons m rest ih =>
    simp only [performAll, bind, Option.bind_eq_some_iff] at h
    obtain ⟨⟨a, events⟩, ha, ⟨trace', b⟩, hb, h⟩ := h
    cases h
    exact (Runs.single (hok s m (by simp)) ha).append
      (ih hb fun c m' hm' => hok c m' (List.mem_cons_of_mem m hm'))

theorem RunState.map_performAll {services : Services} {moves : List Move} {s s' : RunState}
    {trace : List (Move × List Event)} (h : s.performAll services moves = some (trace, s')) :
    trace.map (·.1) = moves := by
  induction moves generalizing s trace with
  | nil => cases h; rfl
  | cons m rest ih =>
    simp only [performAll, bind, Option.bind_eq_some_iff] at h
    obtain ⟨⟨a, events⟩, -, ⟨trace', b⟩, hb, h⟩ := h
    cases h
    simp [ih hb]

/-- The moves make a run, to a state that passes a check. -/
theorem RunState.exists_runs (ok : Services → RunState → Move → Prop) (services : Services)
    (s : RunState) (moves : List Move) (check : RunState → Bool)
    (h : (s.performAll services moves).any (fun p => check p.2) = true)
    (hok : ∀ a, ∀ m ∈ moves, ok services a m) :
    ∃ trace s', Runs ok s trace s' ∧ trace.map (·.1) = moves ∧ check s' = true := by
  cases hp : s.performAll services moves with
  | none => rw [hp] at h; cases h
  | some p =>
    rw [hp] at h
    exact ⟨p.1, p.2, runs_performAll hp hok, map_performAll hp, h⟩

/-! ## A small run

A job with a single step, which is one call, and two instances. -/

namespace Sample

/-- A collaborator does checkouts by itself. -/
def services : Services := ⟨none, fun _ => false, true, true⟩

/-- A job that only fetches sources. -/
def job : Job :=
  ⟨"fetch", none, .label "linux", [], Matrix.none, true, some 1, none,
    [⟨none, none, [], none, .checkout ⟨"checkout", false, none⟩⟩]⟩

/-- An instance of the job. -/
def inst (index : Nat) : Instance :=
  ⟨job, index, Combination.empty, "linux", Env.empty, "."⟩

/-- Two instances of the job under a policy. -/
def plan (policy : DispatchPolicy) : JobPlan := ⟨job, .ok [inst 0, inst 1], policy⟩

/-- The reply of a process that ended by itself. -/
def reply (exitCode : Int) : Reply := .ok ⟨some exitCode, "", "", false⟩

/-- The moves of a task up to its call. -/
def upToCall (j : Nat) : List Move :=
  .task 0 j .grant :: List.replicate 4 (.task 0 j .go)

/-- The moves of a task from the reply to its end. -/
def afterReply (j : Nat) (exitCode : Int) (gos : Nat) : List Move :=
  .task 0 j (.reply Duration.zero (reply exitCode)) :: List.replicate gos (.task 0 j .go)

end Sample

end MatrixFlow
