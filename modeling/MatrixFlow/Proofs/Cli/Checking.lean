import MatrixFlow.Cli.Program
import MatrixFlow.Proofs.Matrix.Runner

/-!
# Checking a workflow and showing its instances

Checking expands the matrices of a workflow. Showing its instances also binds every combination to
a runner, in the environment of the process.

* `Surroundings.validate_against_matrix`: what each of the two commands decides, and where they
  differ: at a runner that does not resolve, and only there.
* `Surroundings.validates_unresolved_runner`: they do differ.
-/

namespace MatrixFlow

namespace Surroundings

variable {s : Surroundings} {path : String} {next : Workflow → CliResult}

/-- The workflow in a file. -/
def workflowAt (s : Surroundings) (path : String) : Except LoadFault Workflow :=
  Workflow.ofFile .standard s.files s.directory path

theorem withWorkflow_ok {w : Workflow} (h : s.workflowAt path = .ok w) :
    s.withWorkflow path next = next w := by
  rw [withWorkflow, ← workflowAt, h]

theorem withWorkflow_error {f : LoadFault} (h : s.workflowAt path = .error f) :
    (s.withWorkflow path next).code = .inputError := by
  rw [withWorkflow, ← workflowAt, h]
  cases f <;> rfl

theorem validate_ok {w : Workflow} (h : s.workflowAt path = .ok w) :
    (s.validate path).code = .success ↔ ∀ job ∈ w.jobs, Passes job.combinations := by
  simp only [validate, CliResult.after, withWorkflow_ok h]
  split
  · rename_i hbad
    refine iff_of_false nofun fun hall => ?_
    obtain ⟨job, hjob, hbad⟩ := List.length_filter_pos_iff.mp hbad
    obtain ⟨cs, hcs⟩ := hall job hjob
    rw [hcs] at hbad
    cases hbad
  · rename_i hbad
    refine iff_of_true rfl fun job hjob => ?_
    cases hcs : job.combinations with
    | ok cs => exact passes_ok cs
    | error e => exact absurd (List.length_filter_pos_iff.mpr ⟨job, hjob, by rw [hcs]⟩) hbad

theorem matrix_ok {w : Workflow} (h : s.workflowAt path = .ok w) (json : Bool) :
    (s.matrix path none json).code = .success ↔
      ∀ job ∈ w.jobs, Passes (job.instances (w.globalEnv s.env []) ".") := by
  rw [matrix, withWorkflow_ok h]
  dsimp only [Workflow.plan, Option.filter_none, Workflow.selectedJobs]
  split
  · rename_i hall
    refine iff_of_true rfl fun job hjob => ?_
    have hjob := List.all_eq_true.mp hall _ (List.mem_map_of_mem hjob)
    split at hjob
    · rename_i is his
      exact ⟨is, his⟩
    · cases hjob
  · rename_i hall
    refine iff_of_false nofun fun hpass => hall (List.all_eq_true.mpr fun plan hplan => ?_)
    obtain ⟨job, hjob, rfl⟩ := List.mem_map.mp hplan
    obtain ⟨is, his⟩ := hpass job hjob
    split
    · rfl
    · rename_i e he
      exact nomatch his.symm.trans he

theorem code_validate (s : Surroundings) (path : String) :
    (s.validate path).code = .success ∨ (s.validate path).code = .inputError := by
  cases h : s.workflowAt path with
  | error f => exact .inr (withWorkflow_error h)
  | ok w =>
    simp only [validate, CliResult.after, withWorkflow_ok h]
    split
    · exact .inr rfl
    · exact .inl rfl

theorem code_matrix (s : Surroundings) (path : String) (json : Bool) :
    (s.matrix path none json).code = .success ∨ (s.matrix path none json).code = .inputError := by
  cases h : s.workflowAt path with
  | error f => exact .inr (withWorkflow_error h)
  | ok w =>
    rw [matrix, withWorkflow_ok h]
    dsimp only [Workflow.plan, Option.filter_none]
    split
    · exact .inl rfl
    · exact .inr rfl

/-- Checking a workflow succeeds if it can be read and all its matrices expand. Showing its
instances succeeds if it can be read and all its jobs have instances, and that is so if checking
succeeds and the runner of every job resolves for each of its combinations, in the environment of
the process under that of the workflow. Otherwise the two end with an error in the input. -/
theorem validate_against_matrix (s : Surroundings) (path : String) (json : Bool) :
    ((s.validate path).code = .success ↔
      ∃ w, s.workflowAt path = .ok w ∧ ∀ job ∈ w.jobs, Passes job.combinations) ∧
    ((s.matrix path none json).code = .success ↔ ∃ w, s.workflowAt path = .ok w ∧
      ∀ job ∈ w.jobs, Passes (job.instances (w.globalEnv s.env []) ".")) ∧
    ((s.matrix path none json).code = .success ↔ (s.validate path).code = .success ∧
      ∀ w, s.workflowAt path = .ok w → ∀ job ∈ w.jobs, ∀ cs, job.combinations = .ok cs →
        ∀ c ∈ cs, job.Resolves (w.globalEnv s.env []) c) ∧
    ∀ r ∈ [s.validate path, s.matrix path none json], r.code = .success ∨ r.code = .inputError := by
  have hcodes : ∀ r ∈ [s.validate path, s.matrix path none json],
      r.code = .success ∨ r.code = .inputError := by
    simpa using ⟨s.code_validate path, s.code_matrix path json⟩
  cases h : s.workflowAt path with
  | error f =>
    have hvalidate : (s.validate path).code = .inputError := withWorkflow_error h
    have hmatrix : (s.matrix path none json).code = .inputError := withWorkflow_error h
    exact ⟨by simp [hvalidate], by simp [hmatrix], by simp [hvalidate, hmatrix], hcodes⟩
  | ok w =>
    refine ⟨by simp [validate_ok h], by simp [matrix_ok h], ?_, hcodes⟩
    simp only [validate_ok h, matrix_ok h, Except.ok.injEq, forall_eq', ← forall_and,
      Job.passes_instances]
    refine forall₂_congr fun job _ => ⟨?_, ?_⟩
    · rintro ⟨cs, hcs, hall⟩
      exact ⟨⟨cs, hcs⟩, fun cs' hcs' => Except.ok.inj (hcs.symm.trans hcs') ▸ hall⟩
    · rintro ⟨⟨cs, hcs⟩, hall⟩
      exact ⟨cs, hcs, hall cs hcs⟩

end Surroundings

namespace Sample

/-- A workflow whose runner is a variable of the process. -/
def runnerFromEnv : String :=
  "on: push\njobs:\n  b:\n    runs-on: $\x7b\x7b env.RUNNER \x7d\x7d\n" ++
    "    steps:\n      - run: echo\n"

/-- A process in a directory with this workflow. -/
def surroundingsOf (vars : List (String × String)) : Surroundings :=
  ⟨Env.ofList vars, [], FileTree.empty.putFile ["w.yml"] (Text.encode runnerFromEnv.toList) false⟩

end Sample

namespace Surroundings

/-- A workflow is reported to be valid although its job has no instances; only where the process
has the variable that its runner names do the two commands agree. -/
theorem validates_unresolved_runner :
    ((Sample.surroundingsOf []).validate "w.yml").code = .success ∧
    ((Sample.surroundingsOf []).matrix "w.yml" none false).code = .inputError ∧
    ((Sample.surroundingsOf [("RUNNER", "l")]).matrix "w.yml" none false).code = .success := by
  decide +kernel

end Surroundings

end MatrixFlow
