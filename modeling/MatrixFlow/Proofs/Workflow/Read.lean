import MatrixFlow.Proofs.Workflow.Check.Place
import MatrixFlow.Workflow.Check

/-!
# What workflows are read from

The parts of what was accepted, each with the check that read it.

* `Check.JobRead`: the parts of a job that was accepted (`Check.checkJob_eq_ok`).
* `Check.exists_of_mem_steps`: every step was read by itself.
* `Workflow.exists_entries`, `Workflow.exists_document`: the variables and the jobs of a workflow
  that was read from a text.
-/

namespace MatrixFlow

namespace Check

variable {source id job : String}

/-- The parts of a job, and what each of them was read from. -/
structure JobRead (source id : String) (document : JobDocument) (job : Job) : Prop where
  id_eq : job.id = id
  runsOn : checkRunsOn source id document.runsOn = .ok job.runsOn
  env : checkEnv source id document.env = .ok job.env
  strategy : checkStrategy source id document.strategy =
    .ok ⟨job.matrix, job.failFast, job.maxParallel⟩
  steps : checkSteps source id document.steps = .ok job.steps

theorem checkJob_eq_ok {document : JobDocument} {job : Job}
    (h : checkJob source id document = .ok job) : JobRead source id document job := by
  obtain ⟨runsOn, hrunsOn, h⟩ := except_bind_eq_ok.mp h
  obtain ⟨env, henv, h⟩ := except_bind_eq_ok.mp h
  obtain ⟨strategy, hstrategy, h⟩ := except_bind_eq_ok.mp h
  obtain ⟨-, h⟩ := (unless_eq_ok (not_passes_reject _ _ _)).mp h
  obtain ⟨steps, hsteps, h⟩ := except_bind_eq_ok.mp h
  cases h
  exact ⟨rfl, hrunsOn, henv, hstrategy, hsteps⟩

theorem exists_of_mem_stepsFrom {index : Nat} {documents : List StepDocument} {steps : List Step}
    (h : checkStepsFrom source job index documents = .ok steps) : ∀ step ∈ steps,
      ∃ i, ∃ document ∈ documents, checkStep source job i document = .ok step := by
  induction documents generalizing index steps with
  | nil => cases h; simp
  | cons document documents ih =>
    rw [checkStepsFrom, except_bind_eq_ok] at h
    obtain ⟨first, hfirst, h⟩ := h
    obtain ⟨rest, hrest, h⟩ := except_bind_eq_ok.mp h
    cases h
    intro step hstep
    obtain rfl | hstep := List.mem_cons.mp hstep
    · exact ⟨index, document, List.mem_cons_self, hfirst⟩
    · obtain ⟨i, d, hd, hread⟩ := ih hrest step hstep
      exact ⟨i, d, List.mem_cons_of_mem _ hd, hread⟩

/-- Every step was read by itself. -/
theorem exists_of_mem_steps {documents : Option (List StepDocument)} {steps : List Step}
    (h : checkSteps source job documents = .ok steps) : ∀ step ∈ steps,
      ∃ i document, checkStep source job i document = .ok step := by
  unfold checkSteps at h
  split at h
  · intro step hstep
    obtain ⟨i, document, -, hread⟩ := exists_of_mem_stepsFrom h step hstep
    exact ⟨i, document, hread⟩
  · cases h

theorem checkJobEntry_eq_ok {key value : Yaml.Value} {job : Job}
    (h : checkJobEntry source key value = .ok job) : ∃ id document, key.asText? = some id ∧
      JobDocument.ofValue value = .ok document ∧ JobRead source id document job := by
  unfold checkJobEntry at h
  split at h
  · cases h
  · rename_i id hid
    split at h
    · cases h
    · rename_i document hdocument
      exact ⟨id, document, hid, hdocument, checkJob_eq_ok h⟩

end Check

theorem Workflow.ofText_of_load {policy : TriggerPolicy} {source : String}
    {document : WorkflowDocument} (h : WorkflowDocument.load source.toList = .ok document) :
    Workflow.ofText policy source = Check.checkWorkflow source policy document := by
  unfold Workflow.ofText
  split
  · rename_i hd
    cases h.symm.trans hd
  · rename_i hd
    cases h.symm.trans hd
    exact Eq.refl _

/-- What a workflow was read from: its variables, and its jobs entry by entry. -/
theorem Workflow.exists_entries {policy : TriggerPolicy} {source : String} {w : Workflow}
    (h : Workflow.ofText policy source = .ok w) : ∃ document,
      WorkflowDocument.load source.toList = .ok document ∧
      Check.checkEnv source "env" document.env = .ok w.env ∧
      List.Forall₂ (fun e job => Check.checkJobEntry source e.1 e.2 = .ok job)
        document.jobs w.jobs := by
  unfold Workflow.ofText at h
  split at h
  · cases h
  · rename_i document hload
    obtain ⟨triggers, -, h⟩ := except_bind_eq_ok.mp h
    obtain ⟨env, henv, h⟩ := except_bind_eq_ok.mp h
    obtain ⟨-, h⟩ := (Check.unless_eq_ok (Check.not_passes_rejectWith _ _ _ _)).mp h
    obtain ⟨jobs, hjobs, h⟩ := except_bind_eq_ok.mp h
    cases h
    exact ⟨document, hload, henv, forall₂_of_mapM_eq_ok hjobs⟩

/-- What a workflow was read from: its variables, and the entry of each of its jobs. -/
theorem Workflow.exists_document {policy : TriggerPolicy} {source : String} {w : Workflow}
    (h : Workflow.ofText policy source = .ok w) : ∃ document,
      WorkflowDocument.load source.toList = .ok document ∧
      Check.checkEnv source "env" document.env = .ok w.env ∧
      ∀ job ∈ w.jobs, ∃ e ∈ document.jobs, ∃ id jobDocument, e.1.asText? = some id ∧
        JobDocument.ofValue e.2 = .ok jobDocument ∧ Check.JobRead source id jobDocument job := by
  obtain ⟨document, hload, henv, hjobs⟩ := Workflow.exists_entries h
  refine ⟨document, hload, henv, fun job hjob => ?_⟩
  obtain ⟨e, he, hread⟩ := exists_mem_of_forall₂ hjobs job hjob
  exact ⟨e, he, Check.checkJobEntry_eq_ok hread⟩

end MatrixFlow
