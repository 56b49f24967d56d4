import MatrixFlow.Proofs.Matrix.Instances
import MatrixFlow.Proofs.Run.Verdict
import MatrixFlow.Proofs.Workflow.Read

/-!
# The plans of workflows

* `Workflow.steps_ne_nil`: every job of a workflow that was read from a text has a step.
* `Workflow.plan_proper`: the plans of such a workflow are proper, if no job asks for too many
  slots.
-/

namespace MatrixFlow

/-! ## Steps -/

namespace Check

theorem checkStepsFrom_ne_nil {source job : String} {index : Nat} {document : StepDocument}
    {rest : List StepDocument} {steps : List Step}
    (h : checkStepsFrom source job index (document :: rest) = .ok steps) : steps ≠ [] := by
  rw [checkStepsFrom, except_bind_eq_ok] at h
  obtain ⟨step, -, h⟩ := h
  obtain ⟨others, -, h⟩ := except_bind_eq_ok.mp h
  cases h
  simp

theorem checkSteps_ne_nil {source job : String} {documents : Option (List StepDocument)}
    {steps : List Step} (h : checkSteps source job documents = .ok steps) : steps ≠ [] := by
  unfold checkSteps at h
  split at h
  · exact checkStepsFrom_ne_nil h
  · cases h

end Check

/-! ## Plans -/

namespace Workflow

variable {w : Workflow} {policy : TriggerPolicy} {source : String} {config : RunConfig}

/-- A workflow without steps in some job is not read. -/
theorem steps_ne_nil (h : Workflow.ofText policy source = .ok w) :
    ∀ job ∈ w.jobs, job.steps ≠ [] := by
  obtain ⟨document, -, -, hjobs⟩ := Workflow.exists_document h
  intro job hjob
  obtain ⟨e, -, id, jobDocument, -, -, hread⟩ := hjobs job hjob
  exact Check.checkSteps_ne_nil hread.steps

theorem planJob_proper {globals : Env} {job : Job} (hsteps : job.steps ≠ [])
    (hslots : (config.maxParallel.or job.maxParallel).getD 0 ≤ maxSlots) :
    (Workflow.planJob config globals job).Proper where
  names _ he := Job.instances_error he
  slots _ _ := hslots
  steps _ his i hi := Job.instances_job his i hi ▸ hsteps

theorem mem_selectedJobs {job : Job} (h : job ∈ w.selectedJobs config) : job ∈ w.jobs := by
  unfold selectedJobs at h
  split at h
  · exact List.mem_of_mem_filter h
  · exact h

/-- The plans of a workflow that was read from a text are proper. -/
theorem plan_proper {plans : List JobPlan} (hw : Workflow.ofText policy source = .ok w)
    (h : w.plan config = .ok plans)
    (hslots : ∀ job ∈ w.jobs, (config.maxParallel.or job.maxParallel).getD 0 ≤ maxSlots) :
    ∀ plan ∈ plans, plan.Proper := by
  unfold plan at h
  split at h
  · cases h
  · cases h
    intro plan hplan
    obtain ⟨job, hjob, rfl⟩ := List.mem_map.mp hplan
    have hmem := mem_selectedJobs hjob
    exact planJob_proper (steps_ne_nil hw job hmem) (hslots job hmem)

end Workflow

end MatrixFlow
