import MatrixFlow.Proofs.Workflow.Check.Place
import MatrixFlow.Workflow.Check.Step

/-!
# When a step is accepted

* `Check.CheckoutOk`, `Check.ToolchainOk`, `Check.ActionOk`: the actions and their inputs.
* `Check.StepOk`: a step that either runs a command or uses an action.
* `Check.passes_checkStep`: exactly such steps are accepted.
-/

namespace MatrixFlow.Check

open Yaml (Value)

variable {source job owner : String}

/-! ## Inputs -/

/-- The input is missing, or its value is as `P` says. -/
def InputOk (inputs : Inputs) (name : String) (P : Value → Prop) : Prop :=
  ∀ v, inputs.get? name = some v → P v

/-- A scalar without a tag. -/
def IsScalar (v : Value) : Prop := ∃ text, scalarText? v = some text

/-- A truth value, or one of some texts. -/
def IsFlag (texts : List String) (v : Value) : Prop :=
  (∃ b, v = .bool b) ∨ ∃ text ∈ texts, v = .str text

/-- An integer from zero to what 32 bits can hold. -/
def IsDepth (v : Value) : Prop := ∃ n : Nat, n < pow2 32 ∧ v.untag = .num (.int n)

/-- The inputs of an action that fetches sources. -/
def CheckoutOk (inputs : Inputs) : Prop :=
  InputOk inputs "submodules" (IsFlag ["true", "false", "recursive"]) ∧
    InputOk inputs "fetch-depth" IsDepth

/-- The text that names a toolchain: the input, or else the revision, if the action goes by
revisions and this is not one of its branches. -/
def NamesToolchain (byRevision : Bool) (revision : Option String) (inputs : Inputs)
    (name : String) : Prop :=
  match inputs.get? "toolchain" with
  | some v => scalarText? v = some name
  | none => byRevision = true ∧ revision = some name ∧ name ∉ ["master", "main", "v1"]

/-- The inputs of an action that provides a toolchain. -/
def ToolchainOk (byRevision : Bool) (revision : Option String) (inputs : Inputs) : Prop :=
  (∃ name, NamesToolchain byRevision revision inputs name ∧ Template.WellFormed name) ∧
    InputOk inputs "override" (IsFlag ["true", "false"]) ∧ InputOk inputs "profile" IsScalar

/-- One of the known actions, with its inputs. -/
def ActionOk (uses : String) (inputs : Inputs) : Prop :=
  let (action, revision) := match uses.cutAt? "@" with
    | some (action, revision) => (action, some revision)
    | none => (uses, none)
  (action = checkoutAction ∧ CheckoutOk inputs) ∨
    (action = toolchainAction ∧ ToolchainOk false revision inputs) ∨
    (action = revisionToolchainAction ∧ ToolchainOk true revision inputs)

theorem submodules?_isSome {v : Value} :
    (submodules? v).isSome = true ↔ IsFlag ["true", "false", "recursive"] v := by
  unfold submodules? IsFlag
  split <;> simp_all

theorem passes_checkSubmodules {inputs : Inputs} :
    Passes (checkSubmodules source owner inputs) ↔
      InputOk inputs "submodules" (IsFlag ["true", "false", "recursive"]) := by
  unfold checkSubmodules InputOk
  cases inputs.get? "submodules" with
  | none => simp
  | some v =>
    simp only [Option.some.injEq, forall_eq', ← submodules?_isSome]
    cases submodules? v <;> simp

theorem depth?_isSome {v : Value} : (depth? v).isSome = true ↔ IsDepth v := by
  unfold depth? IsDepth
  split
  · rename_i i hi
    rw [hi]
    split
    · rename_i hbound
      simp only [Option.isSome_some, true_iff]
      exact ⟨i.toNat, by omega, by rw [Int.toNat_of_nonneg hbound.1]⟩
    · rename_i hbound
      simp only [Option.isSome_none, Bool.false_eq_true, false_iff]
      rintro ⟨n, hn, heq⟩
      cases heq
      omega
  · rename_i hne
    simp only [Option.isSome_none, Bool.false_eq_true, false_iff]
    rintro ⟨n, -, heq⟩
    exact hne n heq

theorem passes_checkDepth {inputs : Inputs} :
    Passes (checkDepth source owner inputs) ↔ InputOk inputs "fetch-depth" IsDepth := by
  unfold checkDepth InputOk
  cases inputs.get? "fetch-depth" with
  | none => simp
  | some v =>
    simp only [Option.some.injEq, forall_eq', ← depth?_isSome]
    cases depth? v <;> simp

theorem passes_checkInput {inputs : Inputs} {name : String} :
    Passes (checkInput source owner inputs name) ↔ InputOk inputs name IsScalar := by
  unfold checkInput InputOk IsScalar
  cases inputs.get? name with
  | none => simp
  | some v =>
    simp only [Option.some.injEq, forall_eq']
    cases scalarText? v <;> simp

theorem passes_checkOverride {byRevision : Bool} {inputs : Inputs} :
    Passes (checkOverride source owner byRevision inputs) ↔
      InputOk inputs "override" (IsFlag ["true", "false"]) := by
  unfold checkOverride InputOk IsFlag
  split <;> simp_all

theorem checkToolchainName_eq_ok {uses name : String} {byRevision : Bool}
    {revision : Option String} {inputs : Inputs} :
    checkToolchainName source owner uses byRevision revision inputs = .ok name ↔
      NamesToolchain byRevision revision inputs name := by
  unfold checkToolchainName checkInput NamesToolchain
  rw [except_bind_eq_ok]
  cases inputs.get? "toolchain" with
  | none =>
    simp only [Except.ok.injEq, exists_eq_left']
    cases byRevision with
    | false => simp [rejectWith]
    | true =>
      simp only [if_true, true_and]
      cases revision with
      | none => simp [reject]
      | some r =>
        simp only [Option.some.injEq, List.contains_iff_mem]
        split
        · rename_i hr
          simp only [reject, reduceCtorEq, false_iff, not_and, not_not]
          rintro rfl
          exact hr
        · rename_i hr
          simp only [Except.ok.injEq, iff_self_and]
          rintro rfl
          exact hr
  | some v =>
    cases h : scalarText? v <;> simp [h, reject]

theorem passes_checkToolchain {uses : String} {byRevision : Bool} {revision : Option String}
    {inputs : Inputs} :
    Passes (checkToolchain source owner uses byRevision revision inputs) ↔
      ToolchainOk byRevision revision inputs := by
  have hrest : ∀ name, Passes (do
      checkTemplate source name "toolchain" owner
      let overrides ← checkOverride source owner byRevision inputs
      let profile ← checkInput source owner inputs "profile"
      .ok ⟨uses, profile, name, overrides, componentsOf inputs⟩ : Checked ToolchainOptions) ↔
      Template.WellFormed name ∧ InputOk inputs "override" (IsFlag ["true", "false"]) ∧
        InputOk inputs "profile" IsScalar := by
    intro name
    rw [passes_bind_iff fun _ => passes_bind_iff fun _ => passes_bind_ok fun _ => passes_ok _,
      passes_checkTemplate, passes_checkOverride, passes_checkInput]
  refine passes_bind.trans ((exists_congr fun name =>
    and_congr checkToolchainName_eq_ok (hrest name)).trans ?_)
  simp only [← and_assoc, exists_and_right, ToolchainOk]

/-- Reads an action by its name and its revision. -/
def checkNamedAction (source owner uses : String) (inputs : Inputs) (name : String)
    (revision : Option String) : Checked StepAction :=
  if name = checkoutAction then do
    let submodules ← checkSubmodules source owner inputs
    let fetchDepth ← checkDepth source owner inputs
    .ok (.checkout ⟨uses, submodules, fetchDepth⟩)
  else if name = toolchainAction ∨ name = revisionToolchainAction then
    .toolchain <$>
      checkToolchain source owner uses (name == revisionToolchainAction) revision inputs
  else
    rejectWith source (owner ++ ": unsupported action '" ++ uses ++ "'") "uses"
      ("supported actions: " ++ ", ".intercalate
        [checkoutAction, toolchainAction, revisionToolchainAction])

theorem checkAction_eq (source owner uses : String) (inputs : Inputs) :
    checkAction source owner uses inputs =
      match uses.cutAt? "@" with
      | some (name, revision) => checkNamedAction source owner uses inputs name (some revision)
      | none => checkNamedAction source owner uses inputs uses none := by
  unfold checkAction
  cases uses.cutAt? "@" <;> rfl

theorem passes_checkNamedAction {uses name : String} {revision : Option String} {inputs : Inputs} :
    Passes (checkNamedAction source owner uses inputs name revision) ↔
      (name = checkoutAction ∧ CheckoutOk inputs) ∨
        (name = toolchainAction ∧ ToolchainOk false revision inputs) ∨
        (name = revisionToolchainAction ∧ ToolchainOk true revision inputs) := by
  have hne : checkoutAction ≠ toolchainAction ∧ checkoutAction ≠ revisionToolchainAction ∧
      toolchainAction ≠ revisionToolchainAction := by decide
  unfold checkNamedAction
  by_cases hcheckout : name = checkoutAction
  · subst hcheckout
    rw [if_pos rfl, passes_bind_iff fun _ => passes_bind_ok fun _ => passes_ok _,
      passes_checkSubmodules, passes_checkDepth]
    simp [hne.1, hne.2.1, CheckoutOk]
  · rw [if_neg hcheckout]
    by_cases hplain : name = toolchainAction
    · subst hplain
      rw [if_pos (.inl rfl), passes_map, passes_checkToolchain, beq_false_of_ne hne.2.2]
      simp [hcheckout, hne.2.2]
    · by_cases hrevision : name = revisionToolchainAction
      · subst hrevision
        rw [if_pos (.inr rfl), passes_map, passes_checkToolchain, beq_self_eq_true]
        simp [hcheckout, hplain]
      · simp [hcheckout, hplain, hrevision]

theorem passes_checkAction {uses : String} {inputs : Inputs} :
    Passes (checkAction source owner uses inputs) ↔ ActionOk uses inputs := by
  rw [checkAction_eq]
  unfold ActionOk
  cases uses.cutAt? "@" with
  | none => exact passes_checkNamedAction
  | some parts => exact passes_checkNamedAction

/-! ## Steps -/

/-- A command that is a template and has a known shell. -/
def CommandOk (command : String) (shell : Option String) : Prop :=
  Template.WellFormed command ∧ ∀ name, shell = some name → (Shell.ofName? name).isSome = true

/-- A step with a limit other than zero that either runs a command or uses an action. -/
structure StepOk (step : StepDocument) : Prop where
  timeout : step.timeoutMinutes ≠ some 0
  env : EnvOk step.env
  action : (∃ command, step.run = some command ∧ step.uses = none ∧ CommandOk command step.shell) ∨
    (∃ uses, step.uses = some uses ∧ step.run = none ∧ ActionOk uses step.inputs)

theorem passes_checkShell {name : Option String} :
    Passes (checkShell source owner name) ↔
      ∀ n, name = some n → (Shell.ofName? n).isSome = true := by
  unfold checkShell
  cases name with
  | none => simp
  | some n =>
    simp only [Option.some.injEq, forall_eq']
    cases Shell.ofName? n <;> simp

theorem passes_checkStepAction {step : StepDocument} :
    Passes (checkStepAction source job owner step) ↔
      (∃ command, step.run = some command ∧ step.uses = none ∧ CommandOk command step.shell) ∨
        (∃ uses, step.uses = some uses ∧ step.run = none ∧ ActionOk uses step.inputs) := by
  unfold checkStepAction
  cases step.run with
  | none =>
    cases step.uses with
    | none => simp
    | some uses => simp [passes_checkAction]
  | some command =>
    cases step.uses with
    | none =>
      refine (passes_bind_iff fun _ => passes_bind_ok fun _ => passes_ok _).trans ?_
      simp [passes_checkTemplate, passes_checkShell, CommandOk]
    | some uses => simp

theorem passes_checkStep {index : Nat} {step : StepDocument} :
    Passes (checkStep source job index step) ↔ StepOk step := by
  refine (passes_unless (not_passes_reject _ _ _)).trans ?_
  rw [passes_bind_iff fun _ => passes_bind_ok fun _ => passes_ok _, passes_checkEnv,
    passes_checkStepAction]
  exact ⟨fun ⟨htimeout, henv, haction⟩ => ⟨htimeout, henv, haction⟩,
    fun h => ⟨h.timeout, h.env, h.action⟩⟩

end MatrixFlow.Check
