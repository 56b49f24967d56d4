import MatrixFlow.Proofs.Run.Result

/-!
# The verdict of a run

* `InstanceResult.Complete i r`: the instance `i` did all its steps, all green.
* `JobPlan.Green`, `JobPlan.Broken`: a plan all of whose instances are complete, and one with a
  failure, be it of the expansion or of a step.
* `JobPlan.Proper`: the error of an expansion names the job, and a job does not ask for more slots
  than there can be, and has a step. The plans of workflows are proper (`Workflow.plan_proper`).
* `Runs.verdict`: a run without breakdowns that is over has succeeded if all plans are green, and
  has failed if one of them is broken, and only then.
-/

namespace MatrixFlow

/-! ## Aggregates -/

namespace RunStatus

theorem worse_eq_succeeded {a b : RunStatus} :
    worse a b = .succeeded ↔ a = .succeeded ∧ b = .succeeded := by
  cases a <;> cases b <;> simp [worse]

theorem worse_eq_failed {a b : RunStatus} : worse a b = .failed ↔ a = .failed ∨ b = .failed := by
  cases a <;> cases b <;> simp [worse]

theorem foldl_worse_eq_succeeded {a : RunStatus} {l : List RunStatus} :
    l.foldl worse a = .succeeded ↔ a = .succeeded ∧ ∀ b ∈ l, b = .succeeded := by
  induction l generalizing a with
  | nil => simp
  | cons b l ih => simp [ih, worse_eq_succeeded, and_assoc]

theorem foldl_worse_eq_failed {a : RunStatus} {l : List RunStatus} :
    l.foldl worse a = .failed ↔ a = .failed ∨ ∃ b ∈ l, b = .failed := by
  induction l generalizing a with
  | nil => simp
  | cons b l ih =>
    simp only [List.foldl_cons, ih, worse_eq_failed, List.exists_mem_cons_iff, or_assoc]

/-- Things succeed together if each of them does. -/
theorem aggregate_eq_succeeded {α : Type} {f : α → RunStatus} {l : List α} :
    aggregate (l.map f) = .succeeded ↔ ∀ a ∈ l, f a = .succeeded := by
  simp [aggregate, foldl_worse_eq_succeeded]

/-- Things fail together if one of them does. -/
theorem aggregate_eq_failed {α : Type} {f : α → RunStatus} {l : List α} :
    aggregate (l.map f) = .failed ↔ ∃ a ∈ l, f a = .failed := by
  simp [aggregate, foldl_worse_eq_failed]

end RunStatus

/-! ## Instances -/

/-- The instance did all its steps, all green: the outcomes are those of the steps of its job, in
their order, and there are no others. -/
structure InstanceResult.Complete (i : Instance) (r : InstanceResult) : Prop where
  summary : r.summary = i.summary
  length : r.steps.length = i.job.steps.length
  records : Records r.steps i.job.steps
  green : ∀ o ∈ r.steps, o.Green

namespace InstanceResult.Sound

variable {i : Instance} {r : InstanceResult}

theorem status_eq_succeeded (h : r.Sound i) (hne : i.job.steps ≠ []) :
    r.status = .succeeded ↔ r.Complete i := by
  constructor
  · intro hs
    obtain ⟨hlen, hg⟩ := h.succeeded hs
    exact ⟨h.summary, hlen, h.records, hg⟩
  · intro hc
    cases hs : r.status with
    | succeeded => rfl
    | failed =>
      obtain ⟨before, last, hsteps, -, hf⟩ := h.failed hs
      exact absurd (hc.green last (by simp [hsteps])).1 hf
    | cancelled =>
      have hlt := (h.cancelled hs).1 hne
      rw [hc.length] at hlt
      exact absurd hlt (Nat.lt_irrefl _)

theorem status_eq_failed (h : r.Sound i) :
    r.status = .failed ↔ ∃ o ∈ r.steps, o.failure ≠ none := by
  constructor
  · intro hs
    obtain ⟨before, last, hsteps, -, hf⟩ := h.failed hs
    exact ⟨last, by simp [hsteps], hf⟩
  · rintro ⟨o, ho, hf⟩
    cases hs : r.status with
    | failed => rfl
    | succeeded => exact absurd ((h.succeeded hs).2 o ho).1 hf
    | cancelled => exact absurd ((h.cancelled hs).2 o ho).1 hf

end InstanceResult.Sound

/-! ## Jobs -/

namespace JobPlan

/-- What the plans of workflows have. -/
structure Proper (plan : JobPlan) : Prop where
  names : ∀ e, plan.instances = .error e → e.job = plan.job.id
  slots : ∀ is, plan.instances = .ok is → plan.policy.maxParallel.getD 0 ≤ maxSlots
  steps : ∀ is, plan.instances = .ok is → ∀ i ∈ is, i.job.steps ≠ []

/-- The plan was expanded, and all its instances are complete. -/
def Green (plan : JobPlan) (result : JobResult) : Prop :=
  ∃ is, plan.instances = .ok is ∧
    List.Forall₂ (fun i (r : InstanceResult) => r.Complete i) is result.instances

/-- The plan could not be expanded. -/
def Broken (plan : JobPlan) : Prop := ∃ e, plan.instances = .error e

end JobPlan

/-- Some step of the job failed. -/
def JobResult.HasFailure (result : JobResult) : Prop :=
  ∃ r ∈ result.instances, ∃ o ∈ r.steps, o.failure ≠ none

/-- The result says of the plan what happened. -/
structure JobPlan.Verdict (plan : JobPlan) (result : JobResult) : Prop where
  id : result.id = plan.job.id
  succeeded : result.status = .succeeded ↔ plan.Green result
  failed : result.status = .failed ↔ plan.Broken ∨ result.HasFailure

namespace JobStage

theorem origin_ofPlan (plan : JobPlan) : (ofPlan plan).origin = ofPlan plan := by
  unfold ofPlan
  split
  · rfl
  · split
    · rfl
    · simp [origin, JobRun.start, TaskRun.start, List.map_map, Function.comp_def]

/-- The stage of a plan with a limit that can be met: it stays unexpanded, or has a task for each of
its instances. -/
theorem origin_eq_ofPlan {plan : JobPlan} {stage : JobStage}
    (hslots : ∀ is, plan.instances = .ok is → plan.policy.maxParallel.getD 0 ≤ maxSlots)
    (h : stage.origin = ofPlan plan) :
    (∃ e, plan.instances = .error e ∧ stage = .unexpanded plan.job e) ∨
    ∃ is run, plan.instances = .ok is ∧ stage = .started run ∧ run.job = plan.job ∧
      run.tasks.map (·.inst) = is := by
  unfold ofPlan at h
  split at h
  · rename_i e he
    cases stage <;> cases h
    exact .inl ⟨e, he, rfl⟩
  · rename_i is his
    rw [if_neg (Nat.not_lt.mpr (hslots is his))] at h
    cases stage with
    | unexpanded | aborted => cases h
    | started run =>
      simp only [origin, JobRun.start, JobStage.started.injEq, JobRun.mk.injEq] at h
      obtain ⟨hj, -, ht, -⟩ := h
      have hi := congrArg (List.map (·.inst)) ht
      simp only [List.map_map, Function.comp_def, TaskRun.start, List.map_id'] at hi
      exact .inr ⟨is, run, his, rfl, hj, hi⟩

end JobStage

theorem JobPlan.verdict_ofInstances {plan : JobPlan} {is : List Instance} {rs : List InstanceResult}
    (his : plan.instances = .ok is) (hp : plan.Proper)
    (hrs : List.Forall₂ (fun i (r : InstanceResult) => r.Sound i) is rs) :
    plan.Verdict (JobResult.ofInstances plan.job.id plan.job.displayName rs) where
  id := rfl
  succeeded := by
    have hall := forall_mem_iff_forall₂ hrs fun i hi r h =>
      h.status_eq_succeeded (hp.steps is his i hi)
    simp [JobResult.ofInstances, RunStatus.aggregate_eq_succeeded, hall, JobPlan.Green, his]
  failed := by
    have hex : (∃ r ∈ rs, r.status = .failed) ↔
        (∃ i ∈ is, False) ∨ ∃ r ∈ rs, ∃ o ∈ r.steps, o.failure ≠ none :=
      exists_mem_iff_of_forall₂ hrs fun i _ r h => by rw [h.status_eq_failed, false_or]
    simp only [and_false, exists_false, false_or] at hex
    simp [JobResult.ofInstances, RunStatus.aggregate_eq_failed, hex, JobPlan.Broken, his,
      JobResult.HasFailure]

theorem JobPlan.verdict_ofUnexpanded {plan : JobPlan} {e : ExpansionError}
    (he : plan.instances = .error e) (hp : plan.Proper) :
    plan.Verdict (JobResult.ofUnexpanded plan.job.displayName e.unexpanded) where
  id := hp.names e he
  succeeded := by simp [JobResult.ofUnexpanded, JobPlan.Green, he]
  failed := by simp [JobResult.ofUnexpanded, JobPlan.Broken, he]

/-! ## Runs -/

section Runs

variable {plans : List JobPlan} {trace : List (Move × List Event)} {s : RunState}

/-- The jobs of a run have begun as their plans say. -/
theorem Runs.origins {ok : Services → RunState → Move → Prop}
    (h : Runs ok (RunState.start plans) trace s) :
    List.Forall₂ (fun plan (stage : JobStage) => stage.origin = .ofPlan plan) plans s.jobs := by
  have ho : s.jobs.map JobStage.origin = plans.map JobStage.ofPlan := by
    rw [h.origin]
    simp [RunState.start, Function.comp_def, JobStage.origin_ofPlan]
  rw [← List.forall₂_eq_eq_eq, List.forall₂_map_left_iff, List.forall₂_map_right_iff] at ho
  exact ho.flip

/-- A plan with a limit that can be met has started, with a task for each of its instances. -/
theorem Runs.exists_job {ok : Services → RunState → Move → Prop}
    (h : Runs ok (RunState.start plans) trace s) {k : Nat} {plan : JobPlan} {is : List Instance}
    (hp : plans[k]? = some plan) (his : plan.instances = .ok is)
    (hslots : plan.policy.maxParallel.getD 0 ≤ maxSlots) :
    ∃ run, s.job? k = some run ∧ run.tasks.map (·.inst) = is := by
  obtain ⟨stage, hstage, ho⟩ := exists_getElem?_of_forall₂ h.origins hp
  obtain ⟨e, he, -⟩ | ⟨_, run, his', rfl, -, hinst⟩ :=
    JobStage.origin_eq_ofPlan (fun _ _ => hslots) ho
  · rw [his] at he
    cases he
  · rw [his] at his'
    cases his'
    exact ⟨run, RunState.job?_eq_some.mpr hstage, hinst⟩

/-- The jobs of a run that is over, each with its verdict, in the order of their plans. -/
theorem Runs.job_verdicts (hp : ∀ plan ∈ plans, plan.Proper)
    (h : Runs Calm (RunState.start plans) trace s) (hover : s.isOver = true) :
    ∃ results, s.jobResults? = some results ∧ List.Forall₂ JobPlan.Verdict plans results := by
  refine exists_mapM_eq_some h.origins fun plan hplan stage hstage ho => ?_
  obtain ⟨e, he, rfl⟩ | ⟨is, run, his, rfl, hj, hi⟩ :=
    JobStage.origin_eq_ofPlan (hp plan hplan).slots ho
  · exact ⟨_, rfl, JobPlan.verdict_ofUnexpanded he (hp plan hplan)⟩
  · obtain ⟨k, hk⟩ := List.getElem?_of_mem hstage
    have hk : s.job? k = some run := RunState.job?_eq_some.mpr hk
    have hrun : run.isOver = true := List.all_eq_true.mp hover _ hstage
    obtain ⟨rs, hr, hrs⟩ := run.exists_sound_result hrun (h.sound hk) (h.ne_crashed hk)
    rw [hj, hi] at *
    exact ⟨_, hr, JobPlan.verdict_ofInstances his (hp plan hplan) hrs⟩

/-- A run without breakdowns that is over has a result. It succeeded if all plans are green, and
failed if there is a plan that could not be expanded or a step that failed; in any other case it
was cancelled. -/
theorem Runs.verdict (hp : ∀ plan ∈ plans, plan.Proper)
    (h : Runs Calm (RunState.start plans) trace s) (hover : s.isOver = true) (workflow : String) :
    ∃ result, s.result? workflow = some result ∧
      result.jobs.map (·.id) = plans.map (·.job.id) ∧
      (result.status = .succeeded ↔ List.Forall₂ JobPlan.Green plans result.jobs) ∧
      (result.status = .failed ↔
        (∃ plan ∈ plans, plan.Broken) ∨ ∃ job ∈ result.jobs, job.HasFailure) ∧
      (result.status = .cancelled ↔ ¬ List.Forall₂ JobPlan.Green plans result.jobs ∧
        ¬ ((∃ plan ∈ plans, plan.Broken) ∨ ∃ job ∈ result.jobs, job.HasFailure)) := by
  obtain ⟨results, hr, hv⟩ := h.job_verdicts hp hover
  have hids : results.map (·.id) = plans.map (·.job.id) := by
    rw [← List.forall₂_eq_eq_eq, List.forall₂_map_left_iff, List.forall₂_map_right_iff]
    exact (hv.imp fun plan job hj => hj.id).flip
  have hgreen : RunStatus.aggregate (results.map (·.status)) = .succeeded ↔
      List.Forall₂ JobPlan.Green plans results :=
    RunStatus.aggregate_eq_succeeded.trans
      (forall_mem_iff_forall₂ hv fun _ _ _ hj => hj.succeeded)
  have hbroken : RunStatus.aggregate (results.map (·.status)) = .failed ↔
      (∃ plan ∈ plans, plan.Broken) ∨ ∃ job ∈ results, job.HasFailure :=
    RunStatus.aggregate_eq_failed.trans
      (exists_mem_iff_of_forall₂ hv fun _ _ _ hj => hj.failed)
  refine ⟨WorkflowResult.ofJobs workflow results Duration.zero, by simp [RunState.result?, hr],
    hids, hgreen, hbroken, ?_⟩
  simp only [WorkflowResult.ofJobs, ← hgreen, ← hbroken]
  cases RunStatus.aggregate (results.map (·.status)) <;> simp

/-- Both instances succeed, one after the other. -/
theorem Runs.verdict_sample : ∃ trace s result,
    Runs Calm (RunState.start [Sample.plan ⟨true, some 1⟩]) trace s ∧
    s.result? "ci" = some result ∧ result.status = .succeeded ∧
    List.Forall₂ JobPlan.Green [Sample.plan ⟨true, some 1⟩] result.jobs := by
  obtain ⟨trace, s, h, -, hcheck⟩ := RunState.exists_runs Calm Sample.services
    (RunState.start [Sample.plan ⟨true, some 1⟩])
    (Sample.upToCall 0 ++ Sample.afterReply 0 0 4 ++ Sample.upToCall 1 ++ Sample.afterReply 1 0 4)
    (fun s => s.isOver && (s.result? "ci").any (·.status == .succeeded))
    (by decide) (by simp [Calm, Sample.upToCall, Sample.afterReply])
  rw [Bool.and_eq_true] at hcheck
  have hproper : ∀ plan ∈ [Sample.plan ⟨true, some 1⟩], plan.Proper := by
    intro plan hplan
    rw [List.mem_singleton.mp hplan]
    refine ⟨fun e he => (by cases he), fun is _ => by decide, fun is his => ?_⟩
    cases his
    simp [Sample.inst, Sample.job]
  obtain ⟨result, hr, -, hs, -⟩ := Runs.verdict hproper h hcheck.1 "ci"
  have hstatus : result.status = .succeeded := by simpa [hr] using hcheck.2
  exact ⟨trace, s, result, h, hr, hstatus, hs.mp hstatus⟩

end Runs

end MatrixFlow
