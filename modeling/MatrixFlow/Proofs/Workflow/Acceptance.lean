import MatrixFlow.Proofs.Workflow.Check.Matrix
import MatrixFlow.Proofs.Workflow.Check.Step
import MatrixFlow.Workflow.Check

/-!
# Which workflows are accepted

* `Check.RunsOnOk`, `Check.StrategyOk`, `Check.JobOk`: what the checks of a job ask for.
* `WorkflowDocument.Acceptable`: what a document has to be.
* `Check.checkWorkflow_iff`: exactly such documents are accepted.
-/

namespace MatrixFlow

open Yaml (Value)

namespace Check

variable {source job : String}

/-! ## Runners -/

/-- One label that is not blank, or a list of labels that is not empty, all of them templates. -/
def RunsOnOk : Option RunsOnDocument → Prop
  | some (.label label) => label.isAllBlank = false ∧ Template.WellFormed label
  | some (.labels labels) => labels ≠ [] ∧ ∀ label ∈ labels, Template.WellFormed label
  | none => False

theorem passes_checkRunsOn {document : Option RunsOnDocument} :
    Passes (checkRunsOn source job document) ↔ RunsOnOk document := by
  have hlabels : ∀ runsOn : RunsOn, Passes (do
      for label in runsOn.toList do
        checkTemplate source label job ("job '" ++ job ++ "' runs-on")
      .ok runsOn : Checked RunsOn) ↔ ∀ label ∈ runsOn.toList, Template.WellFormed label := by
    intro runsOn
    rw [passes_bind_ok fun _ => passes_ok _]
    simp only [passes_forIn, passes_checkTemplate]
  unfold checkRunsOn
  match document with
  | none => simp [runsOn?, RunsOnOk]
  | some (.label label) =>
    simp only [runsOn?, RunsOnOk]
    cases label.isAllBlank with
    | true => simp
    | false => simpa [RunsOn.toList] using hlabels (.label label)
  | some (.labels []) => simp [runsOn?, RunsOnOk]
  | some (.labels (label :: labels)) =>
    simpa [runsOn?, RunsOnOk, RunsOn.toList] using hlabels (.labels (label :: labels))

/-! ## Strategies -/

/-- A matrix that is well formed, and a limit other than zero. -/
def StrategyOk (counting : List Value → List Value) (strategy : StrategyDocument) : Prop :=
  (∀ v, strategy.matrix = some v → MatrixOk counting v) ∧ strategy.maxParallel ≠ some 0

theorem passes_checkStrategy {document : Option StrategyDocument} :
    Passes (checkStrategy source job document) ↔
      ∀ strategy, document = some strategy → StrategyOk lastOf strategy := by
  cases document with
  | none => simp [checkStrategy]
  | some strategy =>
    have hlimit : Passes (checkMaxParallel source job strategy.maxParallel) ↔
        strategy.maxParallel ≠ some 0 := by
      unfold checkMaxParallel
      split <;> simp_all
    have hrest : ∀ m : Matrix, Passes (do
        let limit ← checkMaxParallel source job strategy.maxParallel
        .ok ⟨m, strategy.failFast, limit⟩ : Checked Strategy) ↔ strategy.maxParallel ≠ some 0 :=
      fun _ => (passes_bind_ok fun _ => passes_ok _).trans hlimit
    simp only [checkStrategy, Option.some.injEq, forall_eq', StrategyOk]
    cases strategy.matrix with
    | none => simpa using (passes_bind_iff hrest).trans (by simp)
    | some v =>
      simpa using (passes_bind_iff hrest).trans (and_congr_left' passes_checkMatrix)

/-! ## Jobs -/

theorem passes_checkStepsFrom {index : Nat} {steps : List StepDocument} :
    Passes (checkStepsFrom source job index steps) ↔ ∀ step ∈ steps, StepOk step := by
  induction steps generalizing index with
  | nil => simp [checkStepsFrom]
  | cons step steps ih =>
    rw [checkStepsFrom, List.forall_mem_cons]
    exact (passes_bind_iff fun _ => passes_bind_ok fun _ => passes_ok _).trans
      (and_congr passes_checkStep ih)

/-- What a job has to be. -/
structure JobOk (counting : List Value → List Value) (document : JobDocument) : Prop where
  runsOn : RunsOnOk document.runsOn
  env : EnvOk document.env
  strategy : ∀ strategy, document.strategy = some strategy → StrategyOk counting strategy
  timeout : document.timeoutMinutes ≠ some 0
  steps : ∃ steps, document.steps = some steps ∧ steps ≠ [] ∧ ∀ step ∈ steps, StepOk step

theorem passes_checkSteps {steps : Option (List StepDocument)} :
    Passes (checkSteps source job steps) ↔
      ∃ l, steps = some l ∧ l ≠ [] ∧ ∀ step ∈ l, StepOk step := by
  unfold checkSteps
  split
  · rename_i step rest
    rw [passes_checkStepsFrom]
    simp
  · rename_i hne
    refine iff_of_false (not_passes_rejectWith _ _ _ _) ?_
    rintro ⟨l, rfl, hl, -⟩
    cases l with
    | nil => exact hl rfl
    | cons step rest => exact hne step rest rfl

theorem passes_checkJob {document : JobDocument} :
    Passes (checkJob source job document) ↔ JobOk lastOf document := by
  refine (passes_bind_iff fun _ => passes_bind_iff fun _ => passes_bind_iff fun _ =>
    (passes_unless (not_passes_reject _ _ _)).trans <| and_congr_right' <|
      passes_bind_ok fun _ => passes_ok _).trans ?_
  rw [passes_checkRunsOn, passes_checkEnv, passes_checkStrategy, passes_checkSteps]
  exact ⟨fun ⟨hrunsOn, henv, hstrategy, htimeout, hsteps⟩ =>
    ⟨hrunsOn, henv, hstrategy, htimeout, hsteps⟩,
    fun h => ⟨h.runsOn, h.env, h.strategy, h.timeout, h.steps⟩⟩

end Check

/-! ## Workflows -/

/-- The events that are declared, as they are written. -/
def TriggerDocument.declared : TriggerDocument → List String
  | single event => [event]
  | multiple events => events
  | detailed entries => entries.filterMap (·.1.asText?)

theorem TriggerDocument.mem_distinct {seen l : List String} {s : String} :
    s ∈ distinct seen l ↔ s ∈ l ∧ s ∉ seen := by
  induction l generalizing seen with
  | nil => simp [distinct]
  | cons t l ih =>
    unfold distinct
    split
    · rename_i ht
      have ht : t ∈ seen := by simpa using ht
      rw [ih, List.mem_cons]
      constructor
      · rintro ⟨hs, hn⟩
        exact ⟨.inr hs, hn⟩
      · rintro ⟨rfl | hs, hn⟩
        · exact absurd ht hn
        · exact ⟨hs, hn⟩
    · rename_i ht
      have ht : t ∉ seen := by simpa using ht
      rw [List.mem_cons, ih, List.mem_cons, List.mem_cons]
      by_cases hst : s = t
      · simp [hst, ht]
      · simp [hst]

theorem TriggerDocument.mem_eventNames {on : TriggerDocument} {event : String} :
    event ∈ on.eventNames ↔ event ∈ on.declared := by
  cases on <;> simp [eventNames, declared, mem_distinct]

/-- A document that is a workflow under a policy, where some of the lists of exclusions of each
matrix count: its events are supported, its variables and jobs are well formed, and there is a
job. -/
structure WorkflowDocument.Acceptable (counting : List Value → List Value)
    (policy : TriggerPolicy) (document : WorkflowDocument) : Prop where
  declares : document.on.declared ≠ []
  supported : ∀ event ∈ document.on.declared, event ∈ policy.events
  env : Check.EnvOk document.env
  hasJobs : document.jobs ≠ []
  jobs : ∀ e ∈ document.jobs, ∃ id job, e.1.asText? = some id ∧ JobDocument.ofValue e.2 = .ok job ∧
    Check.JobOk counting job

namespace Check

variable {source : String} {policy : TriggerPolicy}

theorem passes_checkTriggers {on : TriggerDocument} :
    Passes (checkTriggers source policy on) ↔
      on.declared ≠ [] ∧ ∀ event ∈ on.declared, event ∈ policy.events := by
  have hempty : on.eventNames = [] ↔ on.declared = [] := by
    simp only [List.eq_nil_iff_forall_not_mem, TriggerDocument.mem_eventNames]
  unfold checkTriggers
  simp only [List.isEmpty_iff, hempty]
  by_cases hd : on.declared = []
  · simp [hd]
  · rw [if_neg hd]
    simp only [hd, ne_eq, not_false_eq_true, true_and, ← TriggerDocument.mem_eventNames]
    split
    · rename_i event hfind
      have hsome := List.find?_some hfind
      refine iff_of_false (not_passes_error _) fun h => ?_
      have hallowed := h event (List.mem_of_find?_eq_some hfind)
      simp [TriggerPolicy.allows, hallowed] at hsome
    · rename_i hfind
      refine iff_of_true (passes_ok _) fun event hevent => ?_
      simpa [TriggerPolicy.allows] using List.find?_eq_none.mp hfind event hevent

theorem passes_checkJobEntry {key value : Value} :
    Passes (checkJobEntry source key value) ↔ ∃ id job, key.asText? = some id ∧
      JobDocument.ofValue value = .ok job ∧ JobOk lastOf job := by
  unfold checkJobEntry
  cases key.asText? with
  | none => simp
  | some id =>
    cases JobDocument.ofValue value with
    | error e => simp
    | ok job => simp [passes_checkJob]

/-- A document is accepted if and only if it is acceptable, where of several lists of exclusions in
a matrix the last one counts. -/
theorem checkWorkflow_iff (source : String) (policy : TriggerPolicy)
    (document : WorkflowDocument) :
    (∃ w, checkWorkflow source policy document = .ok w) ↔
      document.Acceptable lastOf policy := by
  refine (passes_bind_iff fun _ => passes_bind_iff fun _ =>
    (passes_unless (not_passes_rejectWith _ _ _ _)).trans <| and_congr_right' <|
      passes_bind_ok fun _ => passes_ok _).trans ?_
  rw [passes_checkTriggers, passes_checkEnv, passes_mapM]
  simp only [passes_checkJobEntry, List.isEmpty_iff]
  exact ⟨fun ⟨⟨hdeclares, hsupported⟩, henv, hhas, hjobs⟩ =>
    ⟨hdeclares, hsupported, henv, hhas, hjobs⟩,
    fun h => ⟨⟨h.declares, h.supported⟩, h.env, h.hasJobs, h.jobs⟩⟩

end Check

namespace Sample

/-- A matrix with two lists of exclusions, one of them under a key with a tag. Only the first one
names something that is no axis. -/
def twoExclusions : Value :=
  .map [(.str "os", .seq [.str "a"]),
    (.str "exclude", .seq [.map [(.str "arch", .str "x")]]),
    (.tagged "!old" (.str "exclude"), .seq [.map [(.str "os", .str "b")]])]

/-- A job with this matrix. -/
def twoExclusionsJob : Value :=
  .map [(.str "runs-on", .str "linux"), (.str "strategy", .map [(.str "matrix", twoExclusions)]),
    (.str "steps", .seq [.map [(.str "run", .str "echo")]])]

theorem ofValue_twoExclusionsJob : JobDocument.ofValue twoExclusionsJob = .ok
    ⟨none, some (.label "linux"), [], some ⟨some twoExclusions, true, none⟩,
      some [⟨none, none, some "echo", none, none, none, [], [], none⟩], none⟩ := rfl

end Sample

/-- A list of exclusions that a later one replaces may name what is no axis. -/
theorem Check.accepts_replaced_exclusions :
    let document : WorkflowDocument :=
      ⟨none, .single "push", [], [(.str "build", Sample.twoExclusionsJob)]⟩
    (∃ w, checkWorkflow "" TriggerPolicy.standard document = .ok w) ∧
      ¬document.Acceptable id TriggerPolicy.standard := by
  refine ⟨⟨_, rfl⟩, fun h => ?_⟩
  obtain ⟨_, job, -, hjob, hok⟩ := h.jobs _ List.mem_cons_self
  rw [Sample.ofValue_twoExclusionsJob] at hjob
  cases hjob
  obtain ⟨entries, hentries, -, hnames⟩ := (hok.strategy _ rfl).1 _ rfl
  cases hentries
  have hfirst : Value.seq [.map [(.str "arch", .str "x")]] ∈
      [Value.seq [.map [(.str "arch", .str "x")]], .seq [.map [(.str "os", .str "b")]]] :=
    List.mem_cons_self
  exact absurd (hnames _ hfirst "arch" (by decide)) (by decide)

end MatrixFlow
