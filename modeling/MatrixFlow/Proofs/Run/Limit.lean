import MatrixFlow.Proofs.Matrix.Instances
import MatrixFlow.Proofs.Run.Independence
import MatrixFlow.Proofs.Run.Slots
import MatrixFlow.Proofs.Run.Verdict

/-!
# Limits that no job reaches

* `RunState.unlimited k`: a state as it would be if the job at `k` had no limit.
* `RunState.perform_unlimited`: but for the slots that tasks are given, each move goes the same way
  there.
* `Runs.unlimited`, `Runs.exists_limited`: so do runs, and back if there is a slot for every task.
* `neverLimits`: a limit that is not below the number of instances is none, if there can be as many
  slots.
* `Runs.large_limit`, `RunState.huge_limit_aborts`: what becomes of the results, and what if there
  cannot.
-/

namespace MatrixFlow

/-! ## Without a limit -/

/-- The policy without its limit. -/
def DispatchPolicy.unlimited (policy : DispatchPolicy) : DispatchPolicy :=
  { policy with maxParallel := none }

/-- The plan without its limit. -/
def JobPlan.unlimited (plan : JobPlan) : JobPlan := { plan with policy := plan.policy.unlimited }

/-- The task without its slot. -/
def TaskRun.unslotted (t : TaskRun) : TaskRun := { t with slot := false }

/-- The job without its limit, and its tasks without slots. -/
def JobRun.unlimited (run : JobRun) : JobRun :=
  { run with policy := run.policy.unlimited, tasks := run.tasks.map TaskRun.unslotted }

/-- The stage without a limit. -/
def JobStage.unlimited : JobStage → JobStage
  | .started run => .started run.unlimited
  | stage => stage

/-- The state without a limit for one of the jobs. -/
def RunState.unlimited (k : Nat) (s : RunState) : RunState :=
  { s with jobs := s.jobs.modify k JobStage.unlimited }

/-- What comes of a move, without a slot. -/
def Advance.unslotted (a : Advance) : Advance := { a with slot := false }

/-- A task of the job is given a slot. -/
def Move.isGrant (k : Nat) : Move → Bool
  | .task l _ .grant => l == k
  | _ => false

/-- A trace without the slots that the tasks of a job are given. -/
def withoutGrants (k : Nat) (trace : List (Move × List Event)) : List (Move × List Event) :=
  trace.filter fun p => !p.1.isGrant k

/-! ## Tasks -/

section Task

variable {services : Services} {policy : DispatchPolicy} {free free' stopped : Bool} {t : TaskRun}
  {mv : TaskMove}

/-- The task need not wait for a slot. -/
def TaskRun.Ready (policy : DispatchPolicy) (stopped : Bool) (t : TaskRun) : Prop :=
  t.phase = .waiting → stopped = true ∨ t.slot = true ∨ policy.maxParallel = none

theorem TaskRun.ready_of_go {a : Advance}
    (h : t.perform services policy free stopped .go = some a) : t.Ready policy stopped := by
  intro hp
  simp only [perform, go, hp] at h
  split at h
  · exact .inl ‹_›
  · split at h
    · rename_i hroom
      exact .inr (by simpa using hroom)
    · cases h

/-- Slots only matter to a task that waits for one. -/
theorem TaskRun.perform_unslotted (hmv : mv ≠ .grant) (hready : mv = .go → t.Ready policy stopped) :
    t.unslotted.perform services policy.unlimited free' stopped mv =
      (t.perform services policy free stopped mv).map Advance.unslotted := by
  have hphase : t.unslotted.phase = t.phase := rfl
  cases mv with
  | grant => exact absurd rfl hmv
  | go =>
    unfold perform go
    rw [hphase]
    cases hp : t.phase with
    | waiting =>
      obtain hs | hslot := hready rfl hp
      · rw [hs]; rfl
      · have hroom : (t.slot || policy.maxParallel.isNone) = true := by
          obtain hslot | hnone := hslot
          · rw [hslot]; rfl
          · rw [hnone, Option.isNone_none, Bool.or_true]
        rw [hroom]
        cases stopped <;> rfl
    | between p rest => cases rest <;> rfl
    | _ => rfl
  | reply after reply =>
    unfold perform
    rw [hphase]
    cases hp : t.phase <;> rfl
  | crash =>
    unfold perform
    rw [hphase]
    cases hp : t.phase <;> rfl

end Task

/-! ## Jobs -/

namespace JobRun

theorem unlimited_request (run : JobRun) (id : Nat) (state : InstanceState) :
    (run.request id state).unlimited = run.unlimited.request id state := by
  unfold request
  have htable : run.unlimited.table = run.table := rfl
  rw [htable]
  split <;> rfl

theorem unlimited_apply (run : JobRun) (j : Nat) (a : Advance) :
    (run.apply j a).unlimited = run.unlimited.apply j a.unslotted := by
  have htasks : (run.tasks.modify j (·.advance a)).map TaskRun.unslotted =
      (run.tasks.map TaskRun.unslotted).modify j (·.advance a.unslotted) := by
    apply List.ext_getElem?
    intro l
    rw [List.getElem?_map, List.getElem?_modify, List.getElem?_modify, List.getElem?_map]
    cases run.tasks[l]? with
    | none => rfl
    | some t =>
      by_cases hl : j = l
      · simp [hl, TaskRun.unslotted, TaskRun.advance, Advance.unslotted]
      · simp [hl]
  unfold apply
  have hrequest : a.unslotted.request = a.request := rfl
  have hrun : ({ run with tasks := run.tasks.modify j (·.advance a) } : JobRun).unlimited =
      { run.unlimited with tasks := run.unlimited.tasks.modify j (·.advance a.unslotted) } := by
    unfold unlimited
    rw [htasks]
  rw [hrequest]
  cases a.request with
  | none => exact hrun
  | some state => rw [← hrun]; exact unlimited_request _ j state

theorem isOver_unlimited (run : JobRun) : run.unlimited.isOver = run.isOver := by
  rw [isOver, isOver, unlimited, List.all_map]
  rfl

theorem result?_unlimited (run : JobRun) : run.unlimited.result? = run.result? := by
  have htasks : run.unlimited.tasks.mapM TaskRun.result? = run.tasks.mapM TaskRun.result? := by
    rw [unlimited, List.mapM_map]
    rfl
  rw [result?, htasks]
  rfl

end JobRun

namespace JobStage

theorem isOver_unlimited (stage : JobStage) : stage.unlimited.isOver = stage.isOver := by
  cases stage with
  | started run => exact run.isOver_unlimited
  | unexpanded | aborted => rfl

theorem result?_unlimited (stage : JobStage) : stage.unlimited.result? = stage.result? := by
  cases stage with
  | started run => exact run.result?_unlimited
  | unexpanded | aborted => rfl

end JobStage

/-! ## States -/

namespace RunState

variable {s s' : RunState} {k l : Nat} {run : JobRun}

/-- Nothing is under way in both states, or something is. -/
theorem isOver_unlimited (k : Nat) (s : RunState) : (s.unlimited k).isOver = s.isOver := by
  have hmap := map_modify JobStage.isOver_unlimited k s.jobs
  have hall : ∀ jobs : List JobStage,
      jobs.all JobStage.isOver = (jobs.map JobStage.isOver).all id := fun jobs => by
    rw [List.all_map]
    rfl
  rw [isOver, isOver, hall, hall, unlimited, hmap]

theorem results_unlimited (k : Nat) (s : RunState) :
    (s.unlimited k).jobs.map JobStage.result? = s.jobs.map JobStage.result? :=
  map_modify JobStage.result?_unlimited k s.jobs

theorem job?_unlimited_self (k : Nat) (s : RunState) :
    (s.unlimited k).job? k = (s.job? k).map JobRun.unlimited := by
  unfold job? unlimited
  dsimp only
  rw [List.getElem?_modify_eq]
  cases s.jobs[k]? with
  | none => rfl
  | some stage => cases stage <;> rfl

theorem job?_unlimited_ne (h : l ≠ k) (s : RunState) : (s.unlimited k).job? l = s.job? l := by
  unfold job? unlimited
  dsimp only
  rw [List.getElem?_modify_ne _ _ (Ne.symm h)]

theorem unlimited_apply_self (k j : Nat) (s : RunState) (run : JobRun) (a : Advance) :
    (s.apply k j run a).unlimited k = (s.unlimited k).apply k j run.unlimited a.unslotted := by
  unfold unlimited apply setJob
  dsimp only
  rw [modify_set_self, ← JobRun.unlimited_apply]
  rfl

theorem unlimited_apply_ne (h : l ≠ k) (j : Nat) (s : RunState) (run : JobRun) (a : Advance) :
    (s.apply l j run a).unlimited k = (s.unlimited k).apply l j run a := by
  unfold unlimited apply setJob
  dsimp only
  rw [modify_set_ne h]

/-- No task of the job at `k` goes on by this move that would have to wait for a slot. -/
def Ready (k : Nat) (s : RunState) (m : Move) : Prop :=
  ∀ j run t, m = .task k j .go → s.task? k j = some (run, t) →
    t.Ready run.policy (s.signals.isRaised k)

theorem task?_unlimited_self (k j : Nat) (s : RunState) :
    (s.unlimited k).task? k j = (s.task? k j).map fun p => (p.1.unlimited, p.2.unslotted) := by
  unfold task?
  rw [job?_unlimited_self]
  cases s.job? k with
  | none => rfl
  | some run =>
    simp only [Option.map_some, bind, Option.bind_some, JobRun.unlimited, List.getElem?_map]
    cases run.tasks[j]? <;> rfl

/-- A move of a task, slots aside. -/
theorem perform_task_unlimited {services : Services} {j : Nat} {mv : TaskMove}
    (hm : Move.isGrant k (.task l j mv) = false) (hready : s.Ready k (.task l j mv)) :
    (s.unlimited k).perform services (.task l j mv) =
      (s.perform services (.task l j mv)).map fun p => (p.1.unlimited k, p.2) := by
  have hsignals : (s.unlimited k).signals = s.signals := rfl
  by_cases hl : l = k
  · subst hl
    have hmv : mv ≠ .grant := by
      rintro rfl
      simp [Move.isGrant] at hm
    simp only [perform, task?_unlimited_self, bind, hsignals]
    cases htask : s.task? l j with
    | none => rfl
    | some p =>
      obtain ⟨run, t⟩ := p
      have hstep : t.unslotted.perform services run.policy.unlimited run.unlimited.hasSlot
          (s.signals.isRaised l) mv = (t.perform services run.policy run.hasSlot
            (s.signals.isRaised l) mv).map Advance.unslotted :=
        TaskRun.perform_unslotted hmv fun hgo => hready j run t (hgo ▸ rfl) htask
      have hpolicy : run.unlimited.policy = run.policy.unlimited := rfl
      simp only [Option.map_some, Option.bind_some, hpolicy, hstep]
      cases t.perform services run.policy run.hasSlot (s.signals.isRaised l) mv with
      | none => rfl
      | some a => simp only [Option.map_some, Option.bind_some, unlimited_apply_self]; rfl
  · have htask : (s.unlimited k).task? l j = s.task? l j := by
      unfold task?
      rw [job?_unlimited_ne hl]
    simp only [perform, htask, bind, hsignals]
    cases s.task? l j with
    | none => rfl
    | some p =>
      obtain ⟨run, t⟩ := p
      simp only [Option.bind_some]
      cases t.perform services run.policy run.hasSlot (s.signals.isRaised l) mv with
      | none => rfl
      | some a => simp only [Option.bind_some, Option.map_some, unlimited_apply_ne hl]

/-- Whether tasks broke down has nothing to do with slots. -/
theorem perform_notice_unlimited (services : Services) (k l : Nat) (s : RunState) :
    (s.unlimited k).perform services (.notice l) =
      (s.perform services (.notice l)).map fun p => (p.1.unlimited k, p.2) := by
  by_cases hl : l = k
  · subst hl
    simp only [perform, job?_unlimited_self, bind]
    cases s.job? l with
    | none => rfl
    | some run =>
      have hcrashed : run.unlimited.tasks.any TaskRun.hasCrashed =
          run.tasks.any TaskRun.hasCrashed := by
        rw [JobRun.unlimited, List.any_map]
        rfl
      have hpolicy : run.unlimited.policy.failFast = run.policy.failFast := rfl
      simp only [Option.map_some, Option.bind_some, hcrashed, hpolicy]
      split <;> rfl
  · simp only [perform, job?_unlimited_ne hl, bind]
    cases s.job? l with
    | none => rfl
    | some run =>
      simp only [Option.bind_some]
      split <;> rfl

/-- Slots aside, the limit makes no difference to a move. -/
theorem perform_unlimited {services : Services} {m : Move} (hm : m.isGrant k = false)
    (hready : s.Ready k m) : (s.unlimited k).perform services m =
      (s.perform services m).map fun p => (p.1.unlimited k, p.2) := by
  cases m with
  | task l j mv => exact perform_task_unlimited hm hready
  | notice l => exact perform_notice_unlimited services k l s
  | stopAll => rfl

/-- Whoever could make a move did not have to wait. -/
theorem ready_of_perform {services : Services} {m : Move} {events : List Event}
    (h : s.perform services m = some (s', events)) : s.Ready k m := by
  rintro j run t rfl ht
  obtain ⟨l, i, mv, run', t', a, hm, hrun, ht', ha, -⟩ | ⟨l, run', hm, -⟩ | ⟨hm, -⟩ :=
    perform_cases h
  · cases hm
    obtain ⟨hrun', ht⟩ := task?_eq_some.mp ht
    cases hrun'.symm.trans hrun
    cases ht.symm.trans ht'
    exact TaskRun.ready_of_go ha
  · cases hm
  · cases hm

theorem eq_task_of_isGrant {m : Move} (hm : m.isGrant k = true) : ∃ j, m = .task k j .grant := by
  unfold Move.isGrant at hm
  split at hm
  · rename_i l j
    exact ⟨j, by rw [eq_of_beq hm]⟩
  · cases hm

/-- A move of a task that stays where it is, and keeps its slot. -/
theorem apply_eq_self {j : Nat} {t : TaskRun} {a : Advance} (hk : s.job? k = some run)
    (ht : run.tasks[j]? = some t) (ha : t.advance a = t) (hrequest : a.request = none)
    (hraises : a.raises = false) : s.apply k j run a = s := by
  have htasks : (run.apply j a).tasks = run.tasks := by
    rw [JobRun.apply_tasks ht, ha, set_eq_self ht]
  have hrun : run.apply j a = run := by
    unfold JobRun.apply at htasks ⊢
    rw [hrequest] at htasks ⊢
    dsimp only at htasks ⊢
    rw [htasks]
  unfold apply setJob
  rw [hrun, hraises, set_eq_self (job?_eq_some.mp hk)]
  rfl

/-- Without a limit there is nothing to see when a task is given a slot. -/
theorem unlimited_of_grant {services : Services} {m : Move} {events : List Event}
    (hm : m.isGrant k = true) (h : s.perform services m = some (s', events)) :
    s'.unlimited k = s.unlimited k ∧ events = [] := by
  obtain ⟨j, rfl⟩ := eq_task_of_isGrant hm
  obtain ⟨l, i, mv, run, t, a, heq, hrun, ht, ha, rfl, rfl⟩ | ⟨l, run, heq, -⟩ | ⟨heq, -⟩ :=
    perform_cases h
  · cases heq
    cases TaskRun.perform_step ha with
    | grant hp hfree hslot =>
      refine ⟨?_, rfl⟩
      rw [unlimited_apply_self]
      have hrun' : (s.unlimited k).job? k = some run.unlimited := by
        rw [job?_unlimited_self, hrun]
        rfl
      have ht' : run.unlimited.tasks[j]? = some t.unslotted := by
        rw [JobRun.unlimited, List.getElem?_map, ht]
        rfl
      refine apply_eq_self hrun' ht' ?_ rfl rfl
      unfold TaskRun.advance TaskRun.unslotted Advance.unslotted
      rw [← hp]
  · cases heq
  · cases heq

/-- Without a limit no task is given a slot. -/
theorem isGrant_of_unlimited {services : Services} {m : Move} {p : RunState × List Event}
    (h : (s.unlimited k).perform services m = some p) : m.isGrant k = false := by
  rw [← Bool.not_eq_true]
  intro hm
  obtain ⟨j, rfl⟩ := eq_task_of_isGrant hm
  obtain ⟨l, i, mv, run', t, a, heq, hrun, ht, ha, -⟩ | ⟨l, run', heq, -⟩ | ⟨heq, -⟩ :=
    perform_cases h
  · cases heq
    rw [job?_unlimited_self, Option.map_eq_some_iff] at hrun
    obtain ⟨run, -, rfl⟩ := hrun
    cases TaskRun.perform_step ha with
    | grant hp hfree hslot => cases hfree
  · cases heq
  · cases heq

/-- There is a slot for every task of the job at `k`. -/
def Roomy (k : Nat) (s : RunState) : Prop :=
  ∀ run, s.job? k = some run → ∃ n, run.policy.maxParallel = some n ∧ run.tasks.length ≤ n

/-- A task that waits for a slot can be given one: not all slots can be taken by the others. -/
theorem hasSlot_of_waiting {j : Nat} {t : TaskRun} (hroom : s.Roomy k) (hk : s.job? k = some run)
    (ht : run.tasks[j]? = some t) (hslot : t.slot = false) : run.hasSlot = true := by
  obtain ⟨n, hn, hlength⟩ := hroom run hk
  have htaken : run.takenSlots < run.tasks.length := by
    rw [JobRun.takenSlots_eq]
    refine Nat.lt_of_le_of_ne List.countP_le_length fun heq => ?_
    have hall := List.countP_eq_length.mp heq t (List.mem_of_getElem? ht)
    rw [hslot] at hall
    cases hall
  rw [JobRun.hasSlot, hn]
  have hlt : run.takenSlots < max 1 n := by omega
  simpa using hlt

end RunState

/-! ## Runs -/

theorem withoutGrants_append (k : Nat) (trace trace' : List (Move × List Event)) :
    withoutGrants k (trace ++ trace') = withoutGrants k trace ++ withoutGrants k trace' :=
  List.filter_append _ _

section Runs

variable {s s' u u' : RunState} {k : Nat} {trace : List (Move × List Event)}

/-- Every run is one without the limit, if the slots that the tasks are given are left out. -/
theorem Runs.unlimited (h : Runs AnyMove s trace s') (k : Nat) :
    Runs AnyMove (s.unlimited k) (withoutGrants k trace) (s'.unlimited k) := by
  induction h with
  | nil => exact .nil
  | @snoc trace a b services m events _ _ hm ih =>
    rw [withoutGrants_append]
    by_cases hgrant : m.isGrant k = true
    · have hsame := RunState.unlimited_of_grant hgrant hm
      simpa [withoutGrants, hgrant, hsame.1] using ih
    · have hgrant := Bool.eq_false_iff.mpr hgrant
      have hstep : (a.unlimited k).perform services m = some (b.unlimited k, events) := by
        rw [RunState.perform_unlimited hgrant (RunState.ready_of_perform hm), hm]
        rfl
      simpa [withoutGrants, hgrant] using ih.snoc trivial hstep

/-- If there is room, whoever has to wait for a slot can be given one first. -/
theorem RunState.exists_ready (services : Services) (hroom : s.Roomy k) (m : Move) :
    ∃ trace s₁, Runs AnyMove s trace s₁ ∧ withoutGrants k trace = [] ∧
      s₁.unlimited k = s.unlimited k ∧ s₁.Ready k m := by
  by_cases hready : s.Ready k m
  · exact ⟨[], s, .nil, rfl, rfl, hready⟩
  · unfold RunState.Ready TaskRun.Ready at hready
    push Not at hready
    obtain ⟨j, run, t, rfl, ht, hp, hstop, hslot, hlimit⟩ := hready
    obtain ⟨hk, hj⟩ := RunState.task?_eq_some.mp ht
    have hslot : t.slot = false := Bool.eq_false_iff.mpr hslot
    have hfree := RunState.hasSlot_of_waiting hroom hk hj hslot
    have hgrant : s.perform services (.task k j .grant) =
        some (s.apply k j run { phase := .waiting, slot := true }, []) :=
      RunState.perform_task hk hj (by simp [TaskRun.perform, hp, hfree, hslot])
    have hisGrant : Move.isGrant k (.task k j .grant) = true := by simp [Move.isGrant]
    refine ⟨_, _, .single trivial hgrant, by simp [withoutGrants, hisGrant],
      (RunState.unlimited_of_grant hisGrant hgrant).1, ?_⟩
    rintro i run' t' ⟨⟩ ht' -
    rw [RunState.task?_eq_some, RunState.job?_apply_self hk] at ht'
    obtain ⟨hrun', hi⟩ := ht'
    cases hrun'
    rw [JobRun.apply_tasks hj, List.getElem?_set_self (List.getElem?_eq_some_iff.mp hj).1] at hi
    cases hi
    exact .inr (.inl rfl)

/-- Every run without the limit is one with it, if there is room, in which tasks are given slots
when they need them. -/
theorem Runs.exists_limited (h : Runs AnyMove u trace u') (hu : s.unlimited k = u)
    (hroom : s.Roomy k) : ∃ trace' s', Runs AnyMove s trace' s' ∧
      withoutGrants k trace' = trace ∧ s'.unlimited k = u' := by
  induction h with
  | nil => exact ⟨[], s, .nil, rfl, hu⟩
  | @snoc trace a b services m events _ _ hm ih =>
    obtain ⟨trace₁, s₁, h₁, htrace₁, rfl⟩ := ih
    have hroom₁ : s₁.Roomy k := by
      intro run hk
      obtain ⟨run₀, hk₀, -, hpolicy, hinst⟩ := h₁.job?_start hk
      obtain ⟨n, hn, hlength⟩ := hroom run₀ hk₀
      refine ⟨n, hpolicy ▸ hn, ?_⟩
      have hsame := congrArg List.length hinst
      rw [List.length_map, List.length_map] at hsame
      exact hsame ▸ hlength
    obtain ⟨trace₂, s₂, h₂, htrace₂, hs₂, hready⟩ := RunState.exists_ready services hroom₁ m
    have hgrant := RunState.isGrant_of_unlimited hm
    rw [← hs₂, RunState.perform_unlimited hgrant hready, Option.map_eq_some_iff] at hm
    obtain ⟨⟨b', events'⟩, hb, heq⟩ := hm
    obtain ⟨rfl, rfl⟩ := Prod.mk.inj heq
    refine ⟨_, b', (h₁.append h₂).snoc trivial hb, ?_, rfl⟩
    rw [withoutGrants_append, withoutGrants_append, htrace₁, htrace₂, List.append_nil]
    simp [withoutGrants, hgrant]

end Runs

/-! ## Plans -/

section Plans

variable {plans : List JobPlan} {k : Nat} {plan : JobPlan}

theorem JobStage.ofPlan_unlimited (h : plan.policy.maxParallel.getD 0 ≤ maxSlots) :
    JobStage.ofPlan plan.unlimited = (JobStage.ofPlan plan).unlimited := by
  unfold JobStage.ofPlan
  have hinstances : plan.unlimited.instances = plan.instances := rfl
  rw [hinstances]
  cases plan.instances with
  | error e => rfl
  | ok is =>
    have hnone : ¬maxSlots < plan.unlimited.policy.maxParallel.getD 0 := Nat.not_lt_zero _
    dsimp only
    rw [if_neg hnone, if_neg (Nat.not_lt_of_le h)]
    simp [JobStage.unlimited, JobRun.unlimited, JobRun.start, TaskRun.start, TaskRun.unslotted,
      JobPlan.unlimited, Function.comp_def]

/-- The start without a limit for the plan at `k`, if the limit is not too large. -/
theorem RunState.start_unlimited (hp : plans[k]? = some plan)
    (h : plan.policy.maxParallel.getD 0 ≤ maxSlots) :
    RunState.start (plans.modify k JobPlan.unlimited) = (RunState.start plans).unlimited k := by
  have hjobs : (plans.modify k JobPlan.unlimited).map JobStage.ofPlan =
      (plans.map JobStage.ofPlan).modify k JobStage.unlimited := by
    apply List.ext_getElem?
    intro l
    rw [List.getElem?_map, List.getElem?_modify, List.getElem?_modify, List.getElem?_map]
    by_cases hl : k = l
    · subst hl
      simp [hp, JobStage.ofPlan_unlimited h]
    · simp [hl]
  unfold RunState.start RunState.unlimited
  rw [hjobs]

end Plans

/-! ## Results -/

/-- What the job at a position came to, once nothing of it is under way. -/
def RunState.jobResult? (s : RunState) (k : Nat) : Option JobResult :=
  s.jobs[k]?.bind JobStage.result?

section Results

variable {ok : Services → RunState → Move → Prop} {plans : List JobPlan} {plan : JobPlan}
  {is : List Instance} {trace : List (Move × List Event)} {s : RunState} {k : Nat}

theorem JobStage.eq_aborted {stage : JobStage} (his : plan.instances = .ok is)
    (hlimit : maxSlots < plan.policy.maxParallel.getD 0) (ho : stage.origin = ofPlan plan) :
    stage = .aborted plan.job := by
  unfold ofPlan at ho
  rw [his] at ho
  dsimp only at ho
  rw [if_pos hlimit] at ho
  cases stage <;> cases ho
  rfl

/-- A plan with too large a limit comes to nothing, whatever happens. -/
theorem Runs.jobResult?_of_lt (h : Runs ok (RunState.start plans) trace s)
    (hp : plans[k]? = some plan) (his : plan.instances = .ok is)
    (hlimit : maxSlots < plan.policy.maxParallel.getD 0) :
    s.jobResult? k = some ⟨plan.job.id, plan.job.displayName, .failed, [], none⟩ := by
  obtain ⟨stage, hstage, ho⟩ := exists_getElem?_of_forall₂ h.origins hp
  rw [RunState.jobResult?, hstage, JobStage.eq_aborted his hlimit ho]
  rfl

/-- Any other plan comes to a result for each of its instances. -/
theorem Runs.length_jobResult? (h : Runs ok (RunState.start plans) trace s)
    (hp : plans[k]? = some plan) (his : plan.instances = .ok is)
    (hlimit : plan.policy.maxParallel.getD 0 ≤ maxSlots) {result : JobResult}
    (hr : s.jobResult? k = some result) : result.instances.length = is.length := by
  obtain ⟨run, hk, hinst⟩ := h.exists_job hp his hlimit
  rw [RunState.jobResult?, RunState.job?_eq_some.mp hk] at hr
  obtain ⟨rs, hrs, rfl⟩ := Option.map_eq_some_iff.mp hr
  have hlength := (forall₂_of_mapM_eq_some hrs).length_eq
  rw [← hinst, List.length_map]
  exact hlength.symm

/-- With collaborators that behave like `b`, and without failing fast, it comes to what they make of
its instances. -/
theorem Runs.jobResult?_under {b : Behaviour} {services : Services}
    (h : Runs (Steady b services k) (RunState.start plans) trace s) (hp : plans[k]? = some plan)
    (his : plan.instances = .ok is) (hlimit : plan.policy.maxParallel.getD 0 ≤ maxSlots)
    (hff : plan.policy.failFast = false) (hover : s.isOver = true) :
    s.jobResult? k = some (JobResult.ofInstances plan.job.id plan.job.displayName
      (is.map fun i => i.resultUnder b services)) := by
  obtain ⟨run, hk, hinst⟩ := h.exists_job hp his hlimit
  obtain ⟨hjob, hpolicy, -⟩ := h.job?_eq_plan hk hp
  have hstage := RunState.job?_eq_some.mp hk
  have hrun : run.isOver = true := List.all_eq_true.mp hover _ (List.mem_of_getElem? hstage)
  rw [RunState.jobResult?, hstage]
  have hresult := h.result_under hk (by rw [hpolicy]; exact hff) hrun
  rw [hjob, hinst] at hresult
  exact hresult

end Results

/-- The limit of the plan at `k` makes no difference: every run is one without the limit, but for
the slots that tasks are given, and the other way round, and what the jobs come to is the same. -/
structure NeverLimits (plans : List JobPlan) (k : Nat) : Prop where
  unlimited : ∀ trace s, Runs AnyMove (RunState.start plans) trace s →
    ∃ s', Runs AnyMove (RunState.start (plans.modify k JobPlan.unlimited))
        (withoutGrants k trace) s' ∧
      s'.isOver = s.isOver ∧ s'.jobs.map JobStage.result? = s.jobs.map JobStage.result?
  limited : ∀ trace s', Runs AnyMove (RunState.start (plans.modify k JobPlan.unlimited)) trace s' →
    ∃ trace' s, Runs AnyMove (RunState.start plans) trace' s ∧ withoutGrants k trace' = trace ∧
      s'.isOver = s.isOver ∧ s'.jobs.map JobStage.result? = s.jobs.map JobStage.result?

theorem neverLimits {plans : List JobPlan} {plan : JobPlan} {is : List Instance} {n k : Nat}
    (hp : plans[k]? = some plan) (his : plan.instances = .ok is)
    (hn : plan.policy.maxParallel = some n) (hlarge : is.length ≤ n) (hslots : n ≤ maxSlots) :
    NeverLimits plans k := by
  have hstart := RunState.start_unlimited hp (by rwa [hn])
  have hroom : (RunState.start plans).Roomy k := by
    intro run hk
    obtain ⟨plan', is', hplan, his', -, rfl⟩ := RunState.job?_start hk
    cases hp.symm.trans hplan
    cases his.symm.trans his'
    refine ⟨n, hn, ?_⟩
    rw [JobRun.start, List.length_map]
    exact hlarge
  refine ⟨fun trace s h => ⟨s.unlimited k, ?_, s.isOver_unlimited k, s.results_unlimited k⟩,
    fun trace s' h => ?_⟩
  · rw [hstart]
    exact h.unlimited k
  · rw [hstart] at h
    obtain ⟨trace', s, hs, htrace, rfl⟩ := h.exists_limited rfl hroom
    exact ⟨trace', s, hs, htrace, s.isOver_unlimited k, s.results_unlimited k⟩

/-- A job without an error in its matrix, and a limit that is not below the number of its instances.
Up to the number of slots that there can be, the limit is none. So a job that does not fail fast,
with collaborators whose replies depend only on their calls, comes to the same result with the limit
as without, whatever the schedules are. Beyond that number the job never starts: with the limit it
fails without any result of an instance in every run, and without the limit it never does. -/
theorem Runs.large_limit {config : RunConfig} {globals : Env} {job : Job} {is : List Instance}
    {plans : List JobPlan} {n k : Nat} (hn : config.maxParallel = some n)
    (his : job.instances globals config.workspace = .ok is) (hlarge : is.length ≤ n)
    (hp : plans[k]? = some (Workflow.planJob config globals job)) :
    (n ≤ maxSlots → NeverLimits plans k ∧
      ((Workflow.planJob config globals job).policy.failFast = false →
        ∀ b services trace s trace' s', Runs (Steady b services k) (RunState.start plans) trace s →
          Runs (Steady b services k) (RunState.start (plans.modify k JobPlan.unlimited)) trace' s' →
          s.isOver = true → s'.isOver = true →
          ∃ result, s.jobResult? k = some result ∧ s'.jobResult? k = some result ∧
            result.instances.length = is.length)) ∧
    (maxSlots < n →
      (∀ trace s, Runs AnyMove (RunState.start plans) trace s →
        s.jobResult? k = some ⟨job.id, job.displayName, .failed, [], none⟩) ∧
      ∀ trace s', Runs AnyMove (RunState.start (plans.modify k JobPlan.unlimited)) trace s' →
        ∀ result, s'.jobResult? k = some result → result.instances ≠ []) := by
  have hmax : (Workflow.planJob config globals job).policy.maxParallel = some n := by
    rw [Workflow.planJob, hn]
    rfl
  have hlimit : (Workflow.planJob config globals job).policy.maxParallel.getD 0 = n := by
    rw [hmax, Option.getD_some]
  have hp' : (plans.modify k JobPlan.unlimited)[k]? =
      some (Workflow.planJob config globals job).unlimited := by
    rw [List.getElem?_modify_eq, hp]
    rfl
  have hnone : (Workflow.planJob config globals job).unlimited.policy.maxParallel.getD 0 ≤
      maxSlots := Nat.zero_le _
  refine ⟨fun hle => ⟨neverLimits hp his hmax hlarge hle, ?_⟩, fun hlt => ⟨?_, ?_⟩⟩
  · intro hff b services trace s trace' s' h h' hover hover'
    have hresult := h.jobResult?_under hp his (hlimit ▸ hle) hff hover
    have hresult' := h'.jobResult?_under hp' his hnone hff hover'
    exact ⟨_, hresult, hresult', List.length_map _⟩
  · intro trace s h
    exact h.jobResult?_of_lt hp his (hlimit ▸ hlt)
  · intro trace s' h' result hr hnil
    have hlength := h'.length_jobResult? hp' his hnone hr
    rw [hnil] at hlength
    exact Job.instances_ne_nil his (List.length_eq_zero_iff.mp hlength.symm)

namespace Sample

/-- Settings under which a failure stops nothing, and a limit holds. -/
def limited (n : Nat) : RunConfig :=
  { RunConfig.standard with failFast := some false, maxParallel := some n }

/-- The plan of the small job under these settings. -/
def limitedPlan (n : Nat) : JobPlan := Workflow.planJob (limited n) Env.empty job

/-- The plan with a limit of one slot more than there can be. -/
def hugePlan : JobPlan := limitedPlan 2305843009213693952

/-- The moves of the only instance after it has a slot, if it needs one. -/
def onlyMoves : List Move := List.replicate 4 (.task 0 0 .go) ++ afterReply 0 0 4

theorem instances_limited : job.instances Env.empty (limited n).workspace =
    .ok [⟨job, 0, Combination.empty, "linux",
      job.instanceEnv Env.empty Combination.empty "linux" ".", "."⟩] := rfl

/-- Without its limit the job runs to its end. -/
theorem exists_unlimited (n : Nat) : ∃ trace s,
    Runs (Steady (.ofTimes (fun _ => reply 0) fun _ => Duration.zero) services 0)
      (RunState.start [(limitedPlan n).unlimited]) trace s ∧ s.isOver = true := by
  have hplan : (limitedPlan n).unlimited = (limitedPlan 1).unlimited := rfl
  rw [hplan]
  obtain ⟨trace, s, -, h, ho, -⟩ := exists_run [(limitedPlan 1).unlimited] onlyMoves
    (by simp [onlyMoves, afterReply]) (by decide)
  exact ⟨trace, s, h, ho⟩

end Sample

/-- One slot is enough for one instance. -/
theorem Runs.large_limit_sample : ∃ b trace s trace' s' result,
    Runs (Steady b Sample.services 0) (RunState.start [Sample.limitedPlan 1]) trace s ∧
    Runs (Steady b Sample.services 0) (RunState.start [(Sample.limitedPlan 1).unlimited])
      trace' s' ∧
    s.jobResult? 0 = some result ∧ s'.jobResult? 0 = some result ∧ result.instances.length = 1 := by
  obtain ⟨trace, s, -, h, ho, -⟩ := Sample.exists_run [Sample.limitedPlan 1]
    (.task 0 0 .grant :: Sample.onlyMoves) (by simp [Sample.onlyMoves, Sample.afterReply])
    (by decide)
  obtain ⟨trace', s', h', ho'⟩ := Sample.exists_unlimited 1
  have hp : [Sample.limitedPlan 1][0]? = some (Sample.limitedPlan 1) := rfl
  have hlarge := Runs.large_limit rfl Sample.instances_limited (Nat.le_refl 1) hp
  obtain ⟨result, hr, hr', hcount⟩ := (hlarge.1 (by decide)).2 rfl _ _ _ _ _ _ h h' ho ho'
  exact ⟨_, trace, s, trace', s', result, h, h', hr, hr', hcount⟩

/-- With more slots than there can be the job fails before it starts, though it has only one
instance, which succeeds without a limit. -/
theorem RunState.huge_limit_aborts :
    (RunState.start [Sample.hugePlan]).isOver = true ∧
    (RunState.start [Sample.hugePlan]).jobResult? 0 =
      some ⟨"fetch", "fetch", .failed, [], none⟩ ∧
    ∃ b trace s result,
      Runs (Steady b Sample.services 0) (RunState.start [Sample.hugePlan.unlimited]) trace s ∧
      s.isOver = true ∧ s.jobResult? 0 = some result ∧ result.status = .succeeded ∧
      result.instances.length = 1 := by
  have hlimit : maxSlots < 2305843009213693952 := by decide
  have hstart : (RunState.start [Sample.hugePlan]).jobs = [.aborted Sample.job] := by
    unfold RunState.start JobStage.ofPlan
    rw [List.map_singleton]
    exact congrArg ([·]) (if_pos hlimit)
  refine ⟨by rw [RunState.isOver, hstart]; rfl, by rw [RunState.jobResult?, hstart]; rfl, ?_⟩
  obtain ⟨trace, s, h, ho⟩ := Sample.exists_unlimited 2305843009213693952
  have hp : [Sample.hugePlan.unlimited][0]? = some Sample.hugePlan.unlimited := rfl
  have hresult := h.jobResult?_under hp Sample.instances_limited (Nat.zero_le _) rfl ho
  exact ⟨_, trace, s, _, h, ho, hresult, by decide, rfl⟩

end MatrixFlow
