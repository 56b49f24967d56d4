import MatrixFlow.Cli.Program
import MatrixFlow.Proofs.Report.Junit
import MatrixFlow.Proofs.Run.Broadcast
import MatrixFlow.Report.Terminal

/-!
# The verdict in reports

Reports say by themselves what failed; the status of a run says it too.

* `JobResult.ShowsFailure`: the expansion of the job failed, or one of its instances did.
* `WorkflowResult.exists_failed_terminalLines`, `WorkflowResult.junitReport_counts_failure`: this is
  what the lines for a terminal and the numbers of test suites say.
* `JobStage.failed_iff`, `Runs.failed_iff`: the status says it too, and nothing else but that a plan
  asks for more slots than there can be.
* `Runs.outlets`, `RunState.fails_unseen`: reports and status agree but for such a plan, and then
  they do not.
-/

namespace MatrixFlow

open Markup

/-- Something failed that reports on the job show: the expansion, or an instance. -/
def JobResult.ShowsFailure (job : JobResult) : Prop :=
  job.unexpanded.isSome = true ∨ RunStatus.failed ∈ job.instances.map (·.status)

/-! ## The report for a terminal -/

namespace Terminal

/-- The line stands for an instance that failed, or for a job without instances. -/
def Failed (line : String) : Prop :=
  "  [x] ".toList <+: line.toList

theorem failed_append (status : RunStatus) (rest : String) :
    Failed ("  [" ++ (sign status ++ ("] " ++ rest))) ↔ status = .failed := by
  unfold Failed
  cases status <;> simp [sign, List.cons_prefix_cons]

/-- What is told of a step that failed is further to the right. -/
theorem not_failed_failureLines (step : StepOutcome) (failure : StepFailure) :
    ∀ line ∈ failureLines step failure, ¬Failed line := by
  unfold Failed
  simp [failureLines, List.cons_prefix_cons]

theorem exists_failed_instanceLines (r : InstanceResult) :
    (∃ line ∈ instanceLines r, Failed line) ↔ r.status = .failed := by
  unfold instanceLines
  rw [List.exists_mem_cons_iff]
  simp only [String.append_assoc, failed_append]
  refine or_iff_left ?_
  rintro ⟨line, hline, hfailed⟩
  cases h : r.firstFailure? with
  | none => simp [h] at hline
  | some failure =>
    rw [h] at hline
    exact not_failed_failureLines failure.1 failure.2 line hline hfailed

theorem exists_failed_jobLines (job : JobResult) :
    (∃ line ∈ jobLines job, Failed line) ↔ job.ShowsFailure := by
  unfold jobLines JobResult.ShowsFailure
  cases job.unexpanded with
  | some u =>
    refine iff_of_true ⟨_, List.mem_cons_self, ?_⟩ (.inl rfl)
    unfold Failed
    simp
  | none =>
    simp only [Option.isSome_none, Bool.false_eq_true, false_or, List.mem_map, exists_mem_flatMap,
      exists_failed_instanceLines]

theorem not_failed_summaryLine (result : WorkflowResult) : ¬Failed (summaryLine result) := by
  unfold Failed summaryLine
  cases result.status <;> simp [RunStatus.name, List.cons_prefix_cons]

/-- A number is no bracket. -/
theorem not_failed_number (n : Nat) (rest : String) :
    ¬Failed ("  " ++ (toString n ++ (" " ++ rest))) := by
  have hbracket : '[' ∉ Nat.toDigits 10 n := fun h =>
    absurd (Nat.isDigit_of_mem_toDigits (by decide) (by decide) h) (by decide)
  unfold Failed
  cases h : Nat.toDigits 10 n with
  | nil => simp [h, List.cons_prefix_cons]
  | cons c cs =>
    have hc : '[' ≠ c := fun hc => hbracket (by rw [h, hc]; exact List.mem_cons_self)
    simp [h, hc, List.cons_prefix_cons]

theorem not_failed_unexpandedLines (result : WorkflowResult) :
    ∀ line ∈ unexpandedLines result, ¬Failed line := by
  intro line hline
  simp only [unexpandedLines] at hline
  split at hline
  · cases hline
  · rw [List.mem_singleton.mp hline, String.append_assoc]
    exact not_failed_number _ "jobs could not be expanded"

end Terminal

/-! ## All reports -/

theorem Junit.number_pos (job : JobResult) :
    0 < Counted.failures.number job + Counted.errors.number job ↔ job.ShowsFailure := by
  rw [number_failures, number_errors, Nat.add_pos_iff_pos_or_pos, or_comm]
  refine or_congr ?_ ?_
  · cases h : job.unexpanded <;> simp [errorCount, h]
  · rw [JobResult.count, List.length_pos_iff_exists_mem]
    simp

namespace WorkflowResult

/-- Some job shows a failure. -/
def ShowsFailure (result : WorkflowResult) : Prop :=
  ∃ job ∈ result.jobs, job.ShowsFailure

/-- The lines of the report for a terminal. -/
def terminalLines (result : WorkflowResult) : List String :=
  ["", "Workflow: " ++ result.workflow, "".pushn '=' 60] ++
    result.jobs.flatMap Terminal.jobLines ++
    ["".pushn '-' 60, Terminal.summaryLine result] ++ Terminal.unexpandedLines result ++ [""]

theorem terminalReport_eq (result : WorkflowResult) :
    result.terminalReport = unlines result.terminalLines := rfl

/-- A line of something that failed is one of those for jobs and instances. -/
theorem mem_jobLines_of_failed {result : WorkflowResult} {line : String}
    (h : line ∈ result.terminalLines) (hfailed : Terminal.Failed line) :
    line ∈ result.jobs.flatMap Terminal.jobLines := by
  have hname : ¬Terminal.Failed ("Workflow: " ++ result.workflow) := by
    unfold Terminal.Failed
    simp [List.cons_prefix_cons]
  have hrule : ¬Terminal.Failed "" ∧ ¬Terminal.Failed ("".pushn '=' 60) ∧
      ¬Terminal.Failed ("".pushn '-' 60) := by
    unfold Terminal.Failed
    decide
  have hsummary := Terminal.not_failed_summaryLine result
  have hunexpanded := Terminal.not_failed_unexpandedLines result line
  simp only [terminalLines, List.mem_append, List.mem_cons, List.not_mem_nil, or_false] at h
  obtain ((((rfl | rfl | rfl) | h) | rfl | rfl) | h) | rfl := h <;> simp_all

theorem exists_failed_terminalLines (result : WorkflowResult) :
    (∃ line ∈ result.terminalLines, Terminal.Failed line) ↔ result.ShowsFailure := by
  simp only [ShowsFailure, ← Terminal.exists_failed_jobLines, ← exists_mem_flatMap]
  constructor
  · rintro ⟨line, hline, hfailed⟩
    exact ⟨line, mem_jobLines_of_failed hline hfailed, hfailed⟩
  · rintro ⟨line, hline, hfailed⟩
    exact ⟨line, by simp only [terminalLines, List.mem_append, hline, or_true, true_or], hfailed⟩

/-- The numbers of a report count a failure if a job shows one. -/
theorem junitReport_counts_failure (result : WorkflowResult) :
    ∃ root, ∃ failures errors : Nat, document? result.junitReport = some root ∧
      root.attr? "failures" = some (toString failures) ∧
      root.attr? "errors" = some (toString errors) ∧
      (1 ≤ failures + errors ↔ result.ShowsFailure) := by
  refine ⟨_, _, _, Junit.document?_junitReport result, Junit.attr?_element .failures result,
    Junit.attr?_element .errors result, ?_⟩
  rw [← List.sum_map_add]
  refine List.sum_pos_iff_exists_pos_nat.trans ?_
  simp only [List.mem_map, exists_exists_and_eq_and, Junit.number_pos, ShowsFailure]

/-- Times say nothing about failures. -/
theorem showsFailure_timed (times : List TimedEvent) (result : WorkflowResult) :
    (result.timed times).ShowsFailure ↔ result.ShowsFailure := by
  let shape (job : JobResult) := (job.unexpanded.isSome, job.instances.map (·.status))
  have hshows : ∀ r : WorkflowResult, r.ShowsFailure ↔
      ∃ p ∈ r.jobs.map shape, p.1 = true ∨ RunStatus.failed ∈ p.2 := fun r => by
    simp [ShowsFailure, JobResult.ShowsFailure, shape]
  have hshape : (result.timed times).jobs.map shape = result.jobs.map shape := by
    rw [timed, List.map_map]
    refine map_zipIdx (fun job k => ?_) result.jobs
    have hstatus := map_zipIdx (f := fun p => (p.1.timed times (k, p.2)).status)
      (g := (·.status)) (fun _ _ => rfl) job.instances
    exact Prod.ext rfl (List.map_map.trans hstatus)
  rw [hshows, hshows, hshape]

end WorkflowResult

/-! ## Runs -/

/-- The plan asks for more slots than there can be. -/
def JobPlan.Overreaches (plan : JobPlan) : Prop :=
  ∃ is, plan.instances = .ok is ∧ maxSlots < plan.policy.maxParallel.getD 0

/-- The failure of a job shows, unless its plan asks for too many slots. -/
theorem JobStage.failed_iff {plan : JobPlan} {stage : JobStage} {job : JobResult}
    (horigin : stage.origin = .ofPlan plan) (hresult : stage.result? = some job) :
    job.status = .failed ↔ plan.Overreaches ∨ job.ShowsFailure := by
  unfold ofPlan at horigin
  cases h : plan.instances with
  | error e =>
    rw [h] at horigin
    cases stage <;> cases horigin
    cases hresult
    exact iff_of_true rfl (.inr (.inl rfl))
  | ok is =>
    rw [h] at horigin
    dsimp only at horigin
    split at horigin
    · rename_i hlimit
      cases stage <;> cases horigin
      cases hresult
      exact iff_of_true rfl (.inl ⟨is, h, hlimit⟩)
    · rename_i hlimit
      have hnot : ¬plan.Overreaches := by
        rintro ⟨-, -, hover⟩
        exact hlimit hover
      cases stage with
      | unexpanded | aborted => cases horigin
      | started run =>
        obtain ⟨rs, -, rfl⟩ := Option.map_eq_some_iff.mp hresult
        rw [or_iff_right hnot]
        simp [JobResult.ofInstances, RunStatus.aggregate_eq_failed, JobResult.ShowsFailure]

section Runs

variable {ok : Services → RunState → Move → Prop} {plans : List JobPlan}
  {trace : List (Move × List Event)} {s : RunState}

/-- A run failed if it shows a failure, and also if a plan asks for too many slots. -/
theorem Runs.failed_iff (h : Runs ok (RunState.start plans) trace s) {jobs : List JobResult}
    (hjobs : s.jobResults? = some jobs) :
    RunStatus.aggregate (jobs.map (·.status)) = .failed ↔
      (∃ plan ∈ plans, plan.Overreaches) ∨ ∃ job ∈ jobs, job.ShowsFailure := by
  have hplans := forall₂_of_common h.origins.flip (forall₂_of_mapM_eq_some hjobs)
    fun _ _ _ _ horigin hresult => JobStage.failed_iff horigin hresult
  exact RunStatus.aggregate_eq_failed.trans
    (exists_mem_iff_of_forall₂ hplans fun _ _ _ hfailed => hfailed)

/-- A run that is over has a result, also if tasks broke down on the way, and whatever times are put
in it. The test suites count a failure or an error if and only if there is a line of something that
failed in the report for a terminal. If so, the run has failed, and the program says so in the end.
It fails without a word in the reports only for a plan that asks for too many slots. -/
theorem Runs.outlets (h : Runs ok (RunState.start plans) trace s) (hover : s.isOver = true)
    (workflow : String) (times : List TimedEvent) :
    ∃ result, (s.result? workflow).map (·.timed times) = some result ∧
      (∃ root, ∃ failures errors : Nat, document? result.junitReport = some root ∧
        root.attr? "failures" = some (toString failures) ∧
        root.attr? "errors" = some (toString errors) ∧
        (1 ≤ failures + errors ↔ ∃ line ∈ result.terminalLines, Terminal.Failed line)) ∧
      result.terminalReport = unlines result.terminalLines ∧
      ((ExitCode.ofStatus result.status).number = 1 ↔ result.status = .failed) ∧
      (result.status = .failed ↔ (∃ line ∈ result.terminalLines, Terminal.Failed line) ∨
        ∃ plan ∈ plans, plan.Overreaches) := by
  obtain ⟨jobs, hjobs⟩ := RunState.exists_jobResults hover
  refine ⟨_, by rw [RunState.result?, hjobs]; rfl, ?_, WorkflowResult.terminalReport_eq _, ?_, ?_⟩
  · rw [WorkflowResult.exists_failed_terminalLines]
    exact WorkflowResult.junitReport_counts_failure _
  · cases (WorkflowResult.timed times _).status <;> decide
  · rw [WorkflowResult.exists_failed_terminalLines, WorkflowResult.showsFailure_timed, or_comm]
    exact h.failed_iff hjobs

/-- Both instances break down, which all reports show. -/
theorem Runs.outlets_sample : ∃ trace s result,
    Runs AnyMove (RunState.start [Sample.plan ⟨false, none⟩]) trace s ∧ s.isOver = true ∧
    (s.result? "ci").map (·.timed []) = some result ∧ result.status = .failed ∧
    ∃ line ∈ result.terminalLines, Terminal.Failed line := by
  let toCrash (j : Nat) : List Move := List.replicate 4 (.task 0 j .go) ++ [.task 0 j .crash]
  obtain ⟨trace, s, h, -, hcheck⟩ := RunState.exists_runs AnyMove Sample.services
    (RunState.start [Sample.plan ⟨false, none⟩]) (toCrash 0 ++ toCrash 1)
    (fun s => s.isOver && ((s.result? "ci").map (·.timed [])).any (·.status == .failed))
    (by decide) (by simp [AnyMove])
  rw [Bool.and_eq_true] at hcheck
  obtain ⟨result, hr, -, -, -, hfailed⟩ := Runs.outlets h hcheck.1 "ci" []
  have hstatus : result.status = .failed := by simpa [hr] using hcheck.2
  have hplan : ¬∃ plan ∈ [Sample.plan ⟨false, none⟩], plan.Overreaches := by
    rintro ⟨plan, hplan, -, -, hlimit⟩
    rw [List.mem_singleton.mp hplan] at hlimit
    exact absurd hlimit (by decide)
  exact ⟨trace, s, result, h, hcheck.1, hr, hstatus, (hfailed.mp hstatus).resolve_right hplan⟩

/-- The run of a plan that asks for too many slots fails at once, and no report shows a failure. -/
theorem RunState.fails_unseen :
    (RunState.start [Sample.plan ⟨true, some (2 ^ 61)⟩]).isOver = true ∧ ∃ result,
    (RunState.start [Sample.plan ⟨true, some (2 ^ 61)⟩]).result? "ci" = some result ∧
    (ExitCode.ofStatus result.status).number = 1 ∧
    (∃ root, document? result.junitReport = some root ∧ root.attr? "failures" = some "0" ∧
      root.attr? "errors" = some "0") ∧
    ¬∃ line ∈ result.terminalLines, Terminal.Failed line := by
  have hlimit : maxSlots < 2 ^ 61 := by decide
  have hstart : (RunState.start [Sample.plan ⟨true, some (2 ^ 61)⟩]).jobs =
      [.aborted Sample.job] := by
    unfold RunState.start JobStage.ofPlan
    rw [List.map_singleton]
    exact congrArg ([·]) (if_pos hlimit)
  refine ⟨by rw [RunState.isOver, hstart]; rfl,
    .ofJobs "ci" [⟨"fetch", "fetch", .failed, [], none⟩] Duration.zero, ?_, rfl, ?_, ?_⟩
  · rw [RunState.result?, RunState.jobResults?, hstart]
    rfl
  · exact ⟨_, Junit.document?_junitReport _, Junit.attr?_element .failures _,
      Junit.attr?_element .errors _⟩
  · rw [WorkflowResult.exists_failed_terminalLines]
    simp [WorkflowResult.ShowsFailure, WorkflowResult.ofJobs, JobResult.ShowsFailure]

end Runs

end MatrixFlow
