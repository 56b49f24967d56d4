import MatrixFlow.Proofs.Template.WellFormed
import MatrixFlow.Proofs.Workflow.Check.Step
import MatrixFlow.Proofs.Workflow.Read
import MatrixFlow.Run.Plan
import MatrixFlow.Run.Provider

/-!
# The templates of workflows

* `Workflow.templates`: all texts of a workflow whose references are filled in, when its jobs are
  planned or when its steps run. What a step asks of collaborators depends on the scope of its
  instance through these only (`Services.dialogue_congr`).
* `Workflow.checkedTemplates`, `Workflow.uncheckedTemplates`: those that are checked when a workflow
  is read, and those that are not: directories, and the profiles and components of toolchains.
* `Workflow.wellFormed_templates`: what is known of the templates of a workflow that was read.
-/

namespace MatrixFlow

open Template (WellFormed)

/-! ## Templates -/

namespace StepAction

/-- The templates of an action that are checked when it is read. -/
def checkedTemplates : StepAction → List String
  | .checkout _ => []
  | .toolchain options => [options.toolchain]
  | .run command => [command.command]

/-- The templates of an action that are not checked. -/
def uncheckedTemplates : StepAction → List String
  | .checkout _ => []
  | .toolchain options => options.profile.toList ++ options.components
  | .run command => command.workingDirectory.toList

/-- The templates of an action. -/
def templates (action : StepAction) : List String :=
  action.checkedTemplates ++ action.uncheckedTemplates

end StepAction

namespace Job

/-- The templates of a job that are checked when it is read. -/
def checkedTemplates (job : Job) : List String :=
  job.runsOn.toList ++ job.env.map (·.2) ++
    job.steps.flatMap fun step => step.env.map (·.2) ++ step.action.checkedTemplates

/-- The templates of a job that are not checked. -/
def uncheckedTemplates (job : Job) : List String :=
  job.steps.flatMap (·.action.uncheckedTemplates)

end Job

namespace Workflow

/-- The templates of a workflow that are checked when it is read. -/
def checkedTemplates (w : Workflow) : List String :=
  w.env.map (·.2) ++ w.jobs.flatMap Job.checkedTemplates

/-- The templates of a workflow that are not checked. -/
def uncheckedTemplates (w : Workflow) : List String :=
  w.jobs.flatMap Job.uncheckedTemplates

/-- The templates of a workflow. -/
def templates (w : Workflow) : List String :=
  w.env.map (·.2) ++ w.jobs.flatMap fun job =>
    job.runsOn.toList ++ job.env.map (·.2) ++
      job.steps.flatMap fun step => step.env.map (·.2) ++ step.action.templates

/-- A template is checked, or it is not. -/
theorem mem_templates {w : Workflow} {t : String} :
    t ∈ w.templates ↔ t ∈ w.checkedTemplates ∨ t ∈ w.uncheckedTemplates := by
  simp only [templates, checkedTemplates, uncheckedTemplates, Job.checkedTemplates,
    Job.uncheckedTemplates, StepAction.templates, List.mem_append, List.mem_flatMap]
  grind

end Workflow

/-! ## Rendering -/

theorem Services.renderToolchain_congr {scope scope' : Template.Scope} {options : ToolchainOptions}
    (h : ∀ t ∈ (StepAction.toolchain options).templates, scope.render t = scope'.render t) :
    renderToolchain scope options = renderToolchain scope' options := by
  simp only [StepAction.templates, StepAction.checkedTemplates, StepAction.uncheckedTemplates,
    List.mem_append, List.mem_singleton, Option.mem_toList] at h
  have hprofile : options.profile.map scope.render = options.profile.map scope'.render :=
    Option.map_congr fun t ht => h t (.inr (.inl ht))
  have hcomponents : options.components.map scope.render = options.components.map scope'.render :=
    List.map_congr_left fun t ht => h t (.inr (.inr ht))
  simp only [renderToolchain, h _ (.inl rfl), hprofile, hcomponents]

/-- What a step asks of collaborators depends on the combination and the runner of its instance only
through the templates of its action. -/
theorem Services.dialogue_congr (services : Services) {i i' : Instance} {env : Env} {step : Step}
    (hjob : i.job = i'.job) (hworkspace : i.workspace = i'.workspace)
    (h : ∀ t ∈ step.action.templates, (i.scope env).render t = (i'.scope env).render t) :
    services.dialogue i env step = services.dialogue i' env step := by
  unfold dialogue
  rw [hjob, hworkspace]
  cases haction : step.action with
  | checkout options => rfl
  | toolchain options =>
    rw [haction] at h
    simp only [renderToolchain_congr h]
  | run command =>
    rw [haction] at h
    simp only [StepAction.templates, StepAction.checkedTemplates, StepAction.uncheckedTemplates,
      List.mem_append, List.mem_singleton, Option.mem_toList] at h
    simp only [h _ (.inl rfl)]
    cases hdirectory : command.workingDirectory with
    | none => rfl
    | some directory => simp only [h directory (.inr hdirectory)]

/-! ## What is checked -/

namespace Check

variable {source job owner : String}

theorem checkTemplate_eq_ok {text key : String} {u : Unit}
    (h : checkTemplate source text key owner = .ok u) : WellFormed text :=
  passes_checkTemplate.mp ⟨u, h⟩

theorem wellFormed_of_checkRunsOn {document : Option RunsOnDocument} {runsOn : RunsOn}
    (h : checkRunsOn source job document = .ok runsOn) : ∀ t ∈ runsOn.toList, WellFormed t := by
  unfold checkRunsOn at h
  split at h
  · cases h
  · rename_i runsOn' _
    obtain ⟨u, hlabels, h⟩ := except_bind_eq_ok.mp h
    cases h
    intro t ht
    exact passes_checkTemplate.mp (passes_forIn.mp ⟨u, hlabels⟩ t ht)

theorem wellFormed_of_checkEnv {key : String} {vars : List (String × Yaml.Value)}
    {env : List (String × String)} (h : checkEnv source key vars = .ok env) :
    ∀ t ∈ env.map (·.2), WellFormed t := by
  rw [List.forall_mem_map]
  intro b hb
  obtain ⟨⟨name, value⟩, -, hread⟩ := exists_of_mem_mapM h b hb
  dsimp only [checkVar] at hread
  split at hread
  · cases hread
  · obtain ⟨u, htext, hread⟩ := except_bind_eq_ok.mp hread
    cases hread
    exact checkTemplate_eq_ok htext

theorem wellFormed_of_checkToolchain {uses : String} {byRevision : Bool} {revision : Option String}
    {inputs : Inputs} {options : ToolchainOptions}
    (h : checkToolchain source owner uses byRevision revision inputs = .ok options) :
    WellFormed options.toolchain := by
  obtain ⟨toolchain, -, h⟩ := except_bind_eq_ok.mp h
  obtain ⟨u, htoolchain, h⟩ := except_bind_eq_ok.mp h
  obtain ⟨overrides, -, h⟩ := except_bind_eq_ok.mp h
  obtain ⟨profile, -, h⟩ := except_bind_eq_ok.mp h
  cases h
  exact checkTemplate_eq_ok htoolchain

theorem wellFormed_of_checkNamedAction {uses name : String} {revision : Option String}
    {inputs : Inputs} {action : StepAction}
    (h : checkNamedAction source owner uses inputs name revision = .ok action) :
    ∀ t ∈ action.checkedTemplates, WellFormed t := by
  unfold checkNamedAction at h
  split at h
  · obtain ⟨submodules, -, h⟩ := except_bind_eq_ok.mp h
    obtain ⟨depth, -, h⟩ := except_bind_eq_ok.mp h
    cases h
    simp [StepAction.checkedTemplates]
  · split at h
    · obtain ⟨options, hoptions, rfl⟩ := except_map_eq_ok.mp h
      simpa [StepAction.checkedTemplates] using wellFormed_of_checkToolchain hoptions
    · cases h

theorem wellFormed_of_checkAction {uses : String} {inputs : Inputs} {action : StepAction}
    (h : checkAction source owner uses inputs = .ok action) :
    ∀ t ∈ action.checkedTemplates, WellFormed t := by
  rw [checkAction_eq] at h
  split at h <;> exact wellFormed_of_checkNamedAction h

theorem wellFormed_of_checkStep {index : Nat} {document : StepDocument} {step : Step}
    (h : checkStep source job index document = .ok step) :
    ∀ t ∈ step.env.map (·.2) ++ step.action.checkedTemplates, WellFormed t := by
  obtain ⟨-, h⟩ := (unless_eq_ok (not_passes_reject _ _ _)).mp h
  obtain ⟨env, henv, h⟩ := except_bind_eq_ok.mp h
  obtain ⟨action, haction, h⟩ := except_bind_eq_ok.mp h
  cases h
  refine List.forall_mem_append.mpr ⟨wellFormed_of_checkEnv henv, ?_⟩
  unfold checkStepAction at haction
  split at haction
  · cases haction
  · cases haction
  · obtain ⟨u, hcommand, haction⟩ := except_bind_eq_ok.mp haction
    obtain ⟨shell, -, haction⟩ := except_bind_eq_ok.mp haction
    cases haction
    simpa [StepAction.checkedTemplates] using checkTemplate_eq_ok hcommand
  · exact wellFormed_of_checkAction haction

theorem JobRead.wellFormed {id : String} {document : JobDocument} {job : Job}
    (h : JobRead source id document job) : ∀ t ∈ job.checkedTemplates, WellFormed t := by
  refine List.forall_mem_append.mpr ⟨List.forall_mem_append.mpr ?_, ?_⟩
  · exact ⟨wellFormed_of_checkRunsOn h.runsOn, wellFormed_of_checkEnv h.env⟩
  · intro t ht
    obtain ⟨step, hstep, ht⟩ := List.mem_flatMap.mp ht
    obtain ⟨i, document, hread⟩ := exists_of_mem_steps h.steps step hstep
    exact wellFormed_of_checkStep hread t ht

end Check

namespace Workflow

/-- Which templates of a workflow that was read are known to be well formed: all that are checked,
so that no reference in them is left open and each can be evaluated. All templates are well formed
if and only if the directories of its commands and the profiles and components of its toolchains
are. -/
theorem wellFormed_templates {policy : TriggerPolicy} {source : String} {w : Workflow}
    (h : Workflow.ofText policy source = .ok w) :
    (∀ t ∈ w.checkedTemplates, WellFormed t ∧
      ∀ seg ∈ Template.segments t.toList, seg.Sound) ∧
    ((∀ t ∈ w.templates, WellFormed t) ↔ ∀ t ∈ w.uncheckedTemplates, WellFormed t) := by
  have hchecked : ∀ t ∈ w.checkedTemplates, WellFormed t := by
    obtain ⟨document, -, henv, hjobs⟩ := Workflow.exists_document h
    refine List.forall_mem_append.mpr ⟨Check.wellFormed_of_checkEnv henv, fun t ht => ?_⟩
    obtain ⟨job, hjob, ht⟩ := List.mem_flatMap.mp ht
    obtain ⟨e, -, id, jobDocument, -, -, hread⟩ := hjobs job hjob
    exact hread.wellFormed t ht
  refine ⟨fun t ht => ⟨hchecked t ht, Template.wellFormed_iff.mp (hchecked t ht)⟩, ?_⟩
  simp only [mem_templates, or_imp, forall_and]
  exact and_iff_right hchecked

end Workflow

namespace Sample

/-- A workflow with references in a label, a command and a directory. -/
def references : String :=
  "on: push\njobs:\n  b:\n    runs-on: l-$\x7b\x7b runner.arch \x7d\x7d\n    steps:\n" ++
    "      - run: echo $\x7b\x7b env.A \x7d\x7d\n" ++
    "        working-directory: d/$\x7b\x7b env.A \x7d\x7d\n"

/-- Its templates, the directory last. -/
def referenceTemplates : List String :=
  ["l-$\x7b\x7b runner.arch \x7d\x7d", "echo $\x7b\x7b env.A \x7d\x7d",
    "d/$\x7b\x7b env.A \x7d\x7d"]

/-- A workflow with a reference that is left open in a directory, and one that names nothing in a
profile. -/
def strayReferences : String :=
  "on: push\njobs:\n  b:\n    runs-on: l\n    steps:\n" ++
    "      - run: echo\n        working-directory: $\x7b\x7b x\n" ++
    "      - uses: dtolnay/rust-toolchain@a\n" ++
    "        with:\n          profile: $\x7b\x7b p \x7d\x7d\n"

end Sample

namespace Workflow

set_option maxRecDepth 100000 in
/-- Every template of a workflow is well formed, as its directory is. -/
theorem wellFormed_templates_sample : ∃ w,
    Workflow.ofText TriggerPolicy.standard Sample.references = .ok w ∧
    w.templates = Sample.referenceTemplates ∧ ∀ t ∈ w.templates, WellFormed t := by
  have hread : (Workflow.ofText TriggerPolicy.standard Sample.references).toOption.any (fun w =>
      w.templates == Sample.referenceTemplates &&
        w.uncheckedTemplates == ["d/$\x7b\x7b env.A \x7d\x7d"]) = true := by decide +kernel
  obtain ⟨w, hw, hread⟩ := except_any_eq_true.mp hread
  obtain ⟨htemplates, hunchecked⟩ := Bool.and_eq_true_iff.mp hread
  refine ⟨w, hw, eq_of_beq htemplates, (wellFormed_templates hw).2.mpr ?_⟩
  rw [eq_of_beq hunchecked, List.forall_mem_singleton]
  rfl

set_option maxRecDepth 100000 in
/-- A workflow is accepted although references in its templates are not well formed. One of them
stays as it is written where its step runs, and the other is left out. -/
theorem accepts_stray_references : ∃ w,
    Workflow.ofText TriggerPolicy.standard Sample.strayReferences = .ok w ∧
    ∀ t ∈ ["$\x7b\x7b x", "$\x7b\x7b p \x7d\x7d"], t ∈ w.templates ∧ ¬WellFormed t ∧
      ∀ scope : Template.Scope, scope.render t = if t = "$\x7b\x7b x" then t else "" := by
  have hread : (Workflow.ofText TriggerPolicy.standard Sample.strayReferences).toOption.any
      (fun w => w.uncheckedTemplates == ["$\x7b\x7b x", "$\x7b\x7b p \x7d\x7d"]) = true := by
    decide +kernel
  obtain ⟨w, hw, hread⟩ := except_any_eq_true.mp hread
  refine ⟨w, hw, fun t ht => ⟨mem_templates.mpr (.inr (eq_of_beq hread ▸ ht)), ?_⟩⟩
  simp only [List.mem_cons, List.not_mem_nil, or_false] at ht
  obtain rfl | rfl := ht
  · exact ⟨fun h => (by cases h), fun scope => rfl⟩
  · exact ⟨fun h => (by cases h), fun scope => rfl⟩

end Workflow

end MatrixFlow
