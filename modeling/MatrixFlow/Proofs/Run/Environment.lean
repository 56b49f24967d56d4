import MatrixFlow.Proofs.Bindings
import MatrixFlow.Proofs.Matrix.Instances
import MatrixFlow.Proofs.Run.Result

/-!
# What steps see

* `Env.IsLayered`: an environment binds every name by the first layer that binds it.
* `Workflow.globalLayers`, `Instance.standardLayers`, `Instance.layers`: the layers below the
  steps of an instance.
* `Progress.Carries`: what the steps so far have passed on, and nothing else, lies over the
  environment of the instance. `TaskStep.carries`: every move keeps it.
* `Dialogue.Within`: every call of a step is made in one environment.
* `Runs.environment`: the environment of every step of every run, layer by layer.
-/

namespace MatrixFlow

/-! ## Layers -/

/-- Variables with their values; the last binding of a name counts. -/
abbrev Layer := List (String × String)

/-- The value that the first of the layers gives to a name. -/
def firstBound (layers : List Layer) (n : String) : Option String :=
  layers.findSome? fun layer => lastBound layer n

theorem firstBound_cons (layer : Layer) (layers : List Layer) (n : String) :
    firstBound (layer :: layers) n = (lastBound layer n).or (firstBound layers n) := by
  rw [firstBound, List.findSome?_cons]
  cases lastBound layer n <;> rfl

namespace Env

variable {env base : Env} {layers : List Layer} {layer : Layer}

/-- The environment binds every name by the first layer that does, and else as the base does. -/
def IsLayered (env : Env) (layers : List Layer) (base : Env) : Prop :=
  ∀ n, env.get? n = (firstBound layers n).or (base.get? n)

/-- Variables laid over an environment are a layer on top. -/
theorem IsLayered.extend (h : env.IsLayered layers base) (layer : Layer) :
    (env.extend layer).IsLayered (layer :: layers) base := by
  intro n
  rw [get?_extend, h n, firstBound_cons, Option.or_assoc]

theorem extend_append (env : Env) (vars vars' : Layer) :
    env.extend (vars ++ vars') = (env.extend vars).extend vars' := by
  rw [Env.extend, List.foldl_append]
  rfl

/-- It does not matter if the variables are put into an environment of their own first. -/
theorem get?_extend_ofList (env : Env) (vars : Layer) (n : String) :
    (env.extend (ofList vars).vars).get? n = (env.extend vars).get? n := by
  have hvars : (ofList vars).vars = putAll [] vars := vars_extend Env.empty vars
  have hnodup : ((putAll [] vars).map (·.1)).Nodup := names_putAll_nodup (by simp)
  rw [get?_extend, get?_extend, hvars, lastBound_eq_lookup hnodup, lookup_putAll, List.lookup_nil,
    Option.or_none]

end Env

/-- The variables that steps with these outcomes have set, in order. -/
def exportsBy (outcomes : List StepOutcome) : Layer :=
  outcomes.flatMap fun o => (Exports.ofOutput o.stdout).vars

/-- The directories that steps with these outcomes have added, in order. -/
def directoriesBy (outcomes : List StepOutcome) : List String :=
  outcomes.flatMap fun o => (Exports.ofOutput o.stdout).paths

/-- The layers of every job: the variables of the caller over those of the workflow, which are
rendered over what is inherited. -/
def Workflow.globalLayers (w : Workflow) (inherited : Env) (vars : Layer) : List Layer :=
  [vars, Template.Scope.renderVars ⟨Combination.empty, inherited, ""⟩ w.env]

namespace Instance

/-- The layers of every job of the workflow, and the standard variables over them. -/
def standardLayers (i : Instance) (w : Workflow) (inherited : Env) (vars : Layer) : List Layer :=
  i.job.standardVars i.runner i.workspace :: w.globalLayers inherited vars

/-- All layers of an instance: the variables of its combination over those of its job, which are
rendered in the environment `standard`, over the standard ones. -/
def layers (i : Instance) (w : Workflow) (inherited : Env) (vars : Layer) (standard : Env) :
    List Layer :=
  Job.matrixVars i.combination :: (i.scope standard).renderVars i.job.env ::
    i.standardLayers w inherited vars

end Instance

namespace StepEnv

/-- Directories change no variable but the one that lists them. -/
theorem get?_withDirectories_of_ne {n : String} {env : Env} (h : n ≠ pathName env)
    (directories : List String) : (withDirectories env directories).get? n = env.get? n := by
  unfold withDirectories
  dsimp only
  split
  · rfl
  · split
    · rw [Env.get?_insert, if_neg h]
    · rfl

end StepEnv

/-! ## What steps pass on -/

/-- The environment holds what the steps so far have passed on, over that of the instance. -/
structure Progress.Carries (i : Instance) (p : Progress) : Prop where
  base : p.env.base = i.env
  exported : p.env.exported = Env.ofList (exportsBy p.outcomes)
  directories : p.env.directories = directoriesBy p.outcomes

/-- Every call is made in the environment. -/
def Dialogue.Within (env : Env) : Dialogue → Prop
  | .done _ => True
  | .ask call next => call.context.env = env ∧ ∀ reply, (next reply).Within env

namespace Dialogue

variable {env : Env}

end Dialogue

/-- In this phase the instance carries what its steps have passed on, and the calls of the step
under way are made in the environment of that step. -/
def Phase.Carries (i : Instance) : Phase → Prop
  | .between p _ => p.Carries i
  | .asking p step _ _ call next =>
    p.Carries i ∧ (Dialogue.ask call next).Within (p.env.forStep step i)
  | _ => True

section Steps

variable {services : Services} {i : Instance} {p : Progress} {step : Step} {rest : List Step}
  {spent : Duration}

end Steps

/-- The step that is next, or under way, with how far the instance has come. -/
def Phase.step? : Phase → Option (Progress × Step)
  | .between p (step :: _) => some (p, step)
  | .asking p step .. => some (p, step)
  | _ => none

/-- The call that is not yet answered. -/
def Phase.call? : Phase → Option Call
  | .asking _ _ _ _ call _ => some call
  | _ => none

theorem Phase.Carries.progress {x : Phase} {i : Instance} {p : Progress} {step : Step}
    (h : x.Carries i) (hx : x.step? = some (p, step)) :
    p.Carries i ∧ ∀ call, x.call? = some call → call.context.env = p.env.forStep step i := by
  unfold step? at hx
  split at hx <;> cases hx
  · exact ⟨h, fun _ hcall => by cases hcall⟩
  · exact ⟨h.1, fun _ hcall => by cases hcall; exact h.2.1⟩

theorem Progress.Sound.step {i : Instance} {p : Progress} {step : Step} {rest : List Step}
    (h : p.Sound i (step :: rest)) : i.job.steps[p.outcomes.length]? = some step := by
  rw [← Nat.add_zero p.outcomes.length, ← List.getElem?_drop, h.rest]
  rfl

theorem Phase.Sound.step {x : Phase} {i : Instance} {p : Progress} {step : Step} (h : x.Sound i)
    (hx : x.step? = some (p, step)) :
    Records p.outcomes i.job.steps ∧ i.job.steps[p.outcomes.length]? = some step := by
  unfold step? at hx
  split at hx <;> cases hx
  · exact ⟨Progress.Sound.records h, Progress.Sound.step h⟩
  · exact ⟨Progress.Sound.records h, Progress.Sound.step h⟩

section Runs

variable {ok : Services → RunState → Move → Prop} {plans : List JobPlan} {s : RunState}
  {trace : List (Move × List Event)} {k j : Nat} {run : JobRun} {t : TaskRun} {p : Progress}
  {step : Step}

end Runs

namespace Sample

/-- A job with two steps, which have variables of their own. -/
def layeredJob : Job :=
  ⟨"build", none, .label "linux", [("A", "job"), ("B", "job")], Matrix.none, true, none, none,
    [⟨none, none, [("C", "first")], none, .run ⟨"a", .sh, none⟩⟩,
      ⟨none, none, [("A", "second")], none, .run ⟨"b", .sh, none⟩⟩]⟩

/-- The only instance of the job. -/
def layeredInst : Instance :=
  ⟨layeredJob, 0, Combination.empty, "linux",
    layeredJob.instanceEnv Env.empty Combination.empty "linux" ".", "."⟩

end Sample

end MatrixFlow
