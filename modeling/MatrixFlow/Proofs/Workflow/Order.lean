import MatrixFlow.Proofs.Workflow.Variables

/-!
# The order in which variables are checked

The variables of a map have no order of their own. They are checked one after the other, and the
first one that is wrong is told.

* `Orders`: the orders in which the variables of all maps are visited. `Workflow.ofTextIn` reads a
  workflow in given orders; `Workflow.ofText` visits them as they are written.
* `Workflow.Alike`: the same workflow, but for the order of variables.
* `Check.SameResult`: two values that are alike, or one rejection.
* `Check.InAnyOrder`: what a check comes to in all orders. It is accepted in all of them, or it is
  rejected in all of them, and only the variables of a single map decide how it is told. There is
  one lemma for each way in which checks are put together.
* `Workflow.order_of_variables`: this holds of reading a workflow.
-/

namespace MatrixFlow

open Yaml (Value)

/-! ## Orders -/

/-- In which order the variables of each map are visited. -/
structure Orders where
  visit : EnvPlace → List (String × Value) → List (String × Value)
  perm : ∀ place vars, (visit place vars).Perm vars

namespace Orders

/-- As they are written. -/
def written : Orders := ⟨fun _ vars => vars, fun _ _ => .refl _⟩

/-- The variable of a name first. -/
def first (name : String) : Orders :=
  ⟨fun _ vars => vars.filter (·.1 == name) ++ vars.filter (!·.1 == name),
    fun _ vars => List.filter_append_perm _ vars⟩

theorem exists_first_visit {vars : List (String × Value)} {b : String × Value}
    (hnames : (vars.map (·.1)).Nodup) (hb : b ∈ vars) (place : EnvPlace) :
    ∃ rest, (first b.1).visit place vars = b :: rest := by
  obtain ⟨before, after, rfl⟩ := List.append_of_mem hb
  rw [List.map_append, List.map_cons, List.nodup_append] at hnames
  have hbefore : before.filter (·.1 == b.1) = [] := List.filter_eq_nil_iff.mpr fun c hc hname =>
    hnames.2.2 c.1 (List.mem_map_of_mem hc) b.1 List.mem_cons_self (eq_of_beq hname)
  simp [first, hbefore]

end Orders

/-- The step, the one at an index of a job, with its variables in order. -/
def StepDocument.visited (orders : Orders) (job index : Nat) (step : StepDocument) :
    StepDocument :=
  { step with env := orders.visit (.step job index) step.env }

/-- The job, the one at an index, with the variables of it and of its steps in order. -/
def JobDocument.visited (orders : Orders) (job : Nat) (document : JobDocument) : JobDocument :=
  { document with
    env := orders.visit (.job job) document.env
    steps := document.steps.map fun steps =>
      steps.zipIdx.map fun (step, index) => step.visited orders job index }

namespace Check

/-- Reads an entry of the mapping of jobs, the one at an index, in given orders. -/
def checkJobEntryIn (orders : Orders) (source : String) (index : Nat) (key value : Value) :
    Checked Job :=
  match key.asText?, JobDocument.ofValue value with
  | some id, .ok document => checkJob source id (document.visited orders index)
  | _, _ => checkJobEntry source key value

/-- Reads a workflow from what its text says, in given orders. -/
def checkWorkflowIn (orders : Orders) (source : String) (policy : TriggerPolicy)
    (document : WorkflowDocument) : Checked Workflow := do
  let triggers ← checkTriggers source policy document.on
  let env ← checkEnv source "env" (orders.visit .workflow document.env)
  if document.jobs.isEmpty then
    rejectWith source "workflow has no jobs" "jobs" "add at least one job under 'jobs:'"
  let jobs ← document.jobs.zipIdx.mapM fun p =>
    checkJobEntryIn orders source p.2 p.1.1 p.1.2
  .ok ⟨document.name, triggers, env, jobs⟩

end Check

/-- Reads a workflow from its text, in given orders. -/
def Workflow.ofTextIn (orders : Orders) (policy : TriggerPolicy) (source : String) :
    Except Rejection Workflow :=
  match WorkflowDocument.load source.toList with
  | .error e => .error (Rejection.ofLoadError e source)
  | .ok document => Check.checkWorkflowIn orders source policy document

/-! ### As they are written -/

theorem JobDocument.visited_written (job : Nat) (document : JobDocument) :
    document.visited .written job = document := by
  have hsteps : ∀ steps : List StepDocument,
      steps.zipIdx.map (fun (step, index) => step.visited .written job index) = steps :=
    fun steps => (map_zipIdx (fun _ _ => rfl) steps).trans (List.map_id steps)
  unfold visited
  simp only [hsteps, Option.map_id']
  rfl

theorem Check.checkJobEntryIn_written (source : String) (index : Nat) (key value : Value) :
    checkJobEntryIn .written source index key value = checkJobEntry source key value := by
  unfold checkJobEntryIn
  split
  · rename_i id document hid hdocument
    rw [JobDocument.visited_written, checkJobEntry, hid, hdocument]
  · rfl

theorem Check.checkWorkflowIn_written (source : String) (policy : TriggerPolicy)
    (document : WorkflowDocument) :
    checkWorkflowIn .written source policy document = checkWorkflow source policy document := by
  have hjobs : (document.jobs.zipIdx.mapM fun p =>
      checkJobEntryIn .written source p.2 p.1.1 p.1.2) =
      document.jobs.mapM fun e => checkJobEntry source e.1 e.2 := by
    simp only [checkJobEntryIn_written]
    conv_rhs => rw [← List.zipIdx_map_fst 0 document.jobs, List.mapM_map]
    rfl
  unfold checkWorkflowIn checkWorkflow
  rw [hjobs]
  rfl

/-- Reading visits the variables as they are written. -/
theorem Workflow.ofTextIn_written (policy : TriggerPolicy) (source : String) :
    Workflow.ofTextIn .written policy source = Workflow.ofText policy source := by
  unfold ofTextIn ofText
  cases WorkflowDocument.load source.toList with
  | error e => rfl
  | ok document => exact Check.checkWorkflowIn_written source policy document

/-! ## Results -/

/-- The same result: two values that are alike, or one rejection. -/
inductive Check.SameResult {α : Type} (R : α → α → Prop) : Checked α → Checked α → Prop
  | ok {a b : α} (h : R a b) : SameResult R (.ok a) (.ok b)
  | error (r : Rejection) : SameResult R (.error r) (.error r)

/-- The same step, but for the order of its variables. -/
def Step.Alike (step step' : Step) : Prop :=
  ∃ env, step' = { step with env := env } ∧ Env.SameMap step.env env

/-- The same job, but for the order of the variables of it and of its steps. -/
def Job.Alike (job job' : Job) : Prop :=
  ∃ env steps, job' = { job with env := env, steps := steps } ∧ Env.SameMap job.env env ∧
    List.Forall₂ Step.Alike job.steps steps

/-- The same workflow, but for the order of the variables of it, of its jobs and of their steps. -/
def Workflow.Alike (w w' : Workflow) : Prop :=
  ∃ env jobs, w' = { w with env := env, jobs := jobs } ∧ Env.SameMap w.env env ∧
    List.Forall₂ Job.Alike w.jobs jobs

/-! ## Checks in all orders -/

namespace Check

/-- What a check comes to if it is made in all orders: its results are alike, or its rejection is
always the same one, or its rejection is that of one of the maps of variables. -/
inductive InAnyOrder {α : Type} (IsMap : EnvPlace → String → List (String × Value) → Prop)
    (source : String) (R : α → α → Prop) (check : Orders → Checked α) : Prop
  | accepted (made : Orders → α) (h : ∀ orders, check orders = .ok (made orders))
      (halike : ∀ orders orders', R (made orders) (made orders'))
  | rejected (r : Rejection) (h : ∀ orders, check orders = .error r)
  | decided (place : EnvPlace) (key : String) (vars : List (String × Value))
      (hmap : IsMap place key vars)
      (h : ∀ orders, ∃ r, check orders = .error r ∧
        checkEnv source key (orders.visit place vars) = .error r)

namespace InAnyOrder

variable {α β : Type} {IsMap : EnvPlace → String → List (String × Value) → Prop} {source : String}
  {R : α → α → Prop} {S : β → β → Prop} {check : Orders → Checked α}
  {next : Orders → α → Checked β}

theorem bind (h : InAnyOrder IsMap source R check)
    (hnext : ∀ made : Orders → α, (∀ orders orders', R (made orders) (made orders')) →
      InAnyOrder IsMap source S fun orders => next orders (made orders)) :
    InAnyOrder IsMap source S fun orders => check orders >>= next orders := by
  cases h with
  | accepted made h halike =>
    have hcheck : (fun orders => check orders >>= next orders) =
        fun orders => next orders (made orders) := funext fun orders => by rw [h orders]; rfl
    rw [hcheck]
    exact hnext made halike
  | rejected r h => exact .rejected r fun orders => by rw [h orders]; rfl
  | decided place key vars hmap h =>
    refine .decided place key vars hmap fun orders => ?_
    obtain ⟨r, hr, henv⟩ := h orders
    exact ⟨r, by rw [hr]; rfl, henv⟩

/-- A check that does not look at the order, and another one behind it. -/
theorem bind_same {x : Checked α}
    (hnext : ∀ a, InAnyOrder IsMap source S fun orders => next orders a) :
    InAnyOrder IsMap source S fun orders => x >>= next orders := by
  cases x with
  | error r => exact .rejected r fun _ => rfl
  | ok a => exact hnext a

/-- A test in front of a check. Whether it fails does not depend on the order. -/
theorem guarded {c : Orders → Prop} [∀ orders, Decidable (c orders)] {y : Checked PUnit}
    (hc : ∀ orders orders', c orders → c orders') (h : InAnyOrder IsMap source R check) :
    InAnyOrder IsMap source R fun orders =>
      if c orders then y >>= fun _ => check orders else check orders := by
  by_cases hfail : c .written
  · simp only [fun orders => hc _ orders hfail, if_true]
    exact bind_same fun _ => h
  · simpa only [fun orders => mt (hc orders _) hfail, if_false] using h

theorem cons {head : Orders → Checked α} {rest : Orders → Checked (List α)}
    (hhead : InAnyOrder IsMap source R head)
    (hrest : InAnyOrder IsMap source (List.Forall₂ R) rest) :
    InAnyOrder IsMap source (List.Forall₂ R) fun orders =>
      head orders >>= fun a => rest orders >>= fun as => .ok (a :: as) := by
  refine hhead.bind fun made halike => hrest.bind fun more hmore => ?_
  exact .accepted (fun orders => made orders :: more orders) (fun _ => rfl) fun orders orders' =>
    .cons (halike orders orders') (hmore orders orders')

theorem mapM {f : Orders → β → Checked α} {l : List β}
    (h : ∀ b ∈ l, InAnyOrder IsMap source R fun orders => f orders b) :
    InAnyOrder IsMap source (List.Forall₂ R) fun orders => l.mapM (f orders) := by
  induction l with
  | nil => exact .accepted (fun _ => []) (fun _ => rfl) fun _ _ => .nil
  | cons b l ih =>
    obtain ⟨hb, hl⟩ := List.forall_mem_cons.mp h
    simp only [List.mapM_cons]
    exact .cons hb (ih hl)

/-- All orders have the same result, unless a map decides. -/
theorem sameResult_or (h : InAnyOrder IsMap source R check) :
    (∀ orders orders', SameResult R (check orders) (check orders')) ∨
    ∃ place key vars, IsMap place key vars ∧ ∀ orders, ∃ r, check orders = .error r ∧
      Check.checkEnv source key (orders.visit place vars) = .error r := by
  cases h with
  | accepted made h halike =>
    refine .inl fun orders orders' => ?_
    rw [h, h]
    exact .ok (halike orders orders')
  | rejected r h =>
    refine .inl fun orders orders' => ?_
    rw [h, h]
    exact .error r
  | decided place key vars hmap h => exact .inr ⟨place, key, vars, hmap, h⟩

/-- Where no name stands twice in a map, the rejections of a check that it decides are those of its
variables. -/
theorem iff_of_decided {place : EnvPlace} {key : String} {vars : List (String × Value)}
    {r : Rejection} (hnames : (vars.map (·.1)).Nodup)
    (h : ∀ orders, ∃ r, check orders = .error r ∧
      checkEnv source key (orders.visit place vars) = .error r) :
    (∃ orders, check orders = .error r) ↔ ∃ b ∈ vars, checkVar source key b.1 b.2 = .error r := by
  constructor
  · rintro ⟨orders, hr⟩
    obtain ⟨r', hr', henv⟩ := h orders
    cases hr.symm.trans hr'
    exact exists_perm_checkEnv_eq_error.mp ⟨_, orders.perm place vars, henv⟩
  · rintro ⟨b, hb, hr⟩
    obtain ⟨rest, hrest⟩ := Orders.exists_first_visit hnames hb place
    obtain ⟨r', hr', henv⟩ := h (.first b.1)
    have hfirst : checkEnv source key (b :: rest) = .error r :=
      except_bind_eq_error.mpr (.inl hr)
    rw [hrest, hfirst] at henv
    cases henv
    exact ⟨_, hr'⟩

/-! ### Jobs and steps -/

section Documents

variable {place : EnvPlace} {key id job : String} {vars : List (String × Value)} {i j k : Nat}

theorem checkEnv (hmap : IsMap place key vars) (hnames : (vars.map (·.1)).Nodup) :
    InAnyOrder IsMap source Env.SameMap fun orders =>
      Check.checkEnv source key (orders.visit place vars) := by
  have hok : ∀ orders : Orders, EnvOk (orders.visit place vars) ↔ EnvOk vars := fun orders =>
    envOk_iff_of_perm (orders.perm place vars)
  by_cases h : EnvOk vars
  · refine .accepted (fun orders => (orders.visit place vars).map textOf)
      (fun orders => checkEnv_eq_ok.mpr ⟨(hok orders).mpr h, rfl⟩) fun orders orders' => ?_
    refine sameMap_textOf ((orders.perm place vars).trans (orders'.perm place vars).symm) ?_
    exact ((orders.perm place vars).map _).nodup_iff.mpr hnames
  · refine .decided place key vars hmap fun orders => ?_
    obtain ⟨r, hr⟩ := exists_checkEnv_eq_error (mt (hok orders).mp h)
    exact ⟨r, hr, hr⟩

theorem checkStep {step : StepDocument} (hmap : IsMap (.step i j) job step.env)
    (hnames : (step.env.map (·.1)).Nodup) :
    InAnyOrder IsMap source Step.Alike fun orders =>
      Check.checkStep source job j (step.visited orders i j) := by
  -- only the variables depend on the order
  have howner : ∀ orders, stepOwner job j (step.visited orders i j) = stepOwner job j step :=
    fun _ => rfl
  have haction : ∀ orders owner, checkStepAction source job owner (step.visited orders i j) =
      checkStepAction source job owner step := fun _ _ => rfl
  simp only [Check.checkStep, howner, haction]
  refine guarded (fun _ _ h => h) ?_
  refine (checkEnv hmap hnames).bind fun env henv => bind_same fun action => ?_
  exact .accepted (fun orders => ⟨step.id, step.name, env orders, step.timeoutMinutes, action⟩)
    (fun _ => rfl) fun orders orders' => ⟨_, rfl, henv orders orders'⟩

theorem checkStepsFrom {steps : List StepDocument}
    (hmap : ∀ p ∈ steps.zipIdx k, IsMap (.step i p.2) job p.1.env)
    (hnames : ∀ step ∈ steps, (step.env.map (·.1)).Nodup) :
    InAnyOrder IsMap source (List.Forall₂ Step.Alike) fun orders =>
      Check.checkStepsFrom source job k
        ((steps.zipIdx k).map fun (step, index) => step.visited orders i index) := by
  induction steps generalizing k with
  | nil => exact .accepted (fun _ => []) (fun _ => rfl) fun _ _ => .nil
  | cons step steps ih =>
    rw [List.zipIdx_cons] at hmap
    obtain ⟨hfirst, hmap⟩ := List.forall_mem_cons.mp hmap
    obtain ⟨hname, hnames⟩ := List.forall_mem_cons.mp hnames
    simp only [List.zipIdx_cons, List.map_cons, Check.checkStepsFrom]
    exact .cons (checkStep hfirst hname) (ih hmap hnames)

theorem checkSteps {steps : Option (List StepDocument)}
    (hmap : ∀ l, steps = some l → ∀ p ∈ l.zipIdx, IsMap (.step i p.2) job p.1.env)
    (hnames : ∀ l, steps = some l → ∀ step ∈ l, (step.env.map (·.1)).Nodup) :
    InAnyOrder IsMap source (List.Forall₂ Step.Alike) fun orders =>
      Check.checkSteps source job (steps.map fun steps =>
        steps.zipIdx.map fun (step, index) => step.visited orders i index) := by
  match steps with
  | none => exact .rejected _ fun _ => rfl
  | some [] => exact .rejected _ fun _ => rfl
  | some (step :: rest) => exact checkStepsFrom (hmap _ rfl) (hnames _ rfl)

theorem checkJob {document : JobDocument} (hmap : IsMap (.job i) id document.env)
    (hsteps : ∀ l, document.steps = some l → ∀ p ∈ l.zipIdx, IsMap (.step i p.2) id p.1.env)
    (hnames : document.NamesNodup) :
    InAnyOrder IsMap source Job.Alike fun orders =>
      Check.checkJob source id (document.visited orders i) := by
  have hrunsOn : ∀ orders, (document.visited orders i).runsOn = document.runsOn := fun _ => rfl
  have hstrategy : ∀ orders, (document.visited orders i).strategy = document.strategy :=
    fun _ => rfl
  simp only [Check.checkJob, hrunsOn, hstrategy]
  refine bind_same fun runsOn => (checkEnv hmap hnames.env).bind fun env henv => ?_
  refine bind_same fun strategy => guarded (fun _ _ h => h) ?_
  refine (checkSteps hsteps hnames.steps).bind fun steps halike => ?_
  exact .accepted (fun orders => ⟨id, document.name, runsOn, env orders, strategy.matrix,
      strategy.failFast, strategy.maxParallel, document.timeoutMinutes, steps orders⟩)
    (fun _ => rfl) fun orders orders' =>
      ⟨_, _, rfl, henv orders orders', halike orders orders'⟩

end Documents

/-! ### Workflows -/

section Workflows

variable {document : WorkflowDocument} {policy : TriggerPolicy}

theorem checkJobEntry {i : Nat} {e : Value × Value} (he : document.jobs[i]? = some e)
    (hnames : ∀ d, JobDocument.ofValue e.2 = .ok d → d.NamesNodup) :
    InAnyOrder document.HasEnv source Job.Alike fun orders =>
      checkJobEntryIn orders source i e.1 e.2 := by
  unfold checkJobEntryIn
  split
  · rename_i id d hid hd
    refine checkJob (.job he hid hd) (fun steps hsteps p hp => ?_) (hnames d hd)
    exact .step he hid hd hsteps (List.mk_mem_zipIdx_iff_getElem?.mp hp)
  · rename_i hnone
    -- such an entry is rejected before its variables are looked at
    cases hentry : Check.checkJobEntry source e.1 e.2 with
    | error r => exact .rejected r fun _ => rfl
    | ok job =>
      obtain ⟨id, d, hid, hd, -⟩ := checkJobEntry_eq_ok hentry
      exact absurd hd (hnone id d hid)

theorem checkWorkflow {cs : List Char} (hload : WorkflowDocument.load cs = .ok document) :
    InAnyOrder document.HasEnv source Workflow.Alike fun orders =>
      checkWorkflowIn orders source policy document := by
  obtain ⟨hinside, -⟩ := Value.keysUnique_map_iff.mp (WorkflowDocument.load_keysUnique hload)
  have hjobs : ∀ p ∈ document.jobs.zipIdx, InAnyOrder document.HasEnv source Job.Alike
      fun orders => checkJobEntryIn orders source p.2 p.1.1 p.1.2 := fun p hp => by
    have he : document.jobs[p.2]? = some p.1 := List.mk_mem_zipIdx_iff_getElem?.mp hp
    exact checkJobEntry he fun d =>
      JobDocument.ofValue_nodup (hinside p.1 (List.mem_of_getElem? he)).2
  have hnames := WorkflowDocument.load_nodup hload
  refine bind_same fun triggers => (checkEnv .workflow hnames).bind fun env henv => ?_
  refine guarded (fun _ _ h => h) ?_
  refine (mapM hjobs).bind fun jobs halike => ?_
  exact .accepted (fun orders => ⟨document.name, triggers, env orders, jobs orders⟩)
    (fun _ => rfl) fun orders orders' => ⟨_, _, rfl, henv orders orders', halike orders orders'⟩

end Workflows

end InAnyOrder

/-- Two orders of a map have the same result, unless two of its variables are rejected in different
ways. -/
theorem sameResult_iff {source key : String} {vars : List (String × Value)}
    (hnames : (vars.map (·.1)).Nodup) :
    (∀ vars₁ vars₂ : List (String × Value), vars₁.Perm vars → vars₂.Perm vars →
      SameResult Env.SameMap (checkEnv source key vars₁) (checkEnv source key vars₂)) ↔
    ∀ b ∈ vars, ∀ b' ∈ vars, ∀ r r', checkVar source key b.1 b.2 = .error r →
      checkVar source key b'.1 b'.2 = .error r' → r = r' := by
  constructor
  · intro h b hb b' hb' r r' hr hr'
    obtain ⟨vars₁, hperm₁, h₁⟩ := exists_perm_checkEnv_eq_error.mpr ⟨b, hb, hr⟩
    obtain ⟨vars₂, hperm₂, h₂⟩ := exists_perm_checkEnv_eq_error.mpr ⟨b', hb', hr'⟩
    have hsame := h vars₁ vars₂ hperm₁ hperm₂
    rw [h₁, h₂] at hsame
    cases hsame
    rfl
  · intro h vars₁ vars₂ hperm₁ hperm₂
    have hperm : vars₁.Perm vars₂ := hperm₁.trans hperm₂.symm
    by_cases hok : EnvOk vars₁
    · rw [checkEnv_eq_ok.mpr ⟨hok, rfl⟩,
        checkEnv_eq_ok.mpr ⟨(envOk_iff_of_perm hperm).mp hok, rfl⟩]
      exact .ok (sameMap_textOf hperm ((hperm₁.map _).nodup_iff.mpr hnames))
    · obtain ⟨r₁, h₁⟩ : ∃ r, checkEnv source key vars₁ = .error r := exists_checkEnv_eq_error hok
      obtain ⟨r₂, h₂⟩ : ∃ r, checkEnv source key vars₂ = .error r :=
        exists_checkEnv_eq_error (mt (envOk_iff_of_perm hperm).mpr hok)
      obtain ⟨b₁, hb₁, hr₁⟩ := exists_perm_checkEnv_eq_error.mp ⟨vars₁, hperm₁, h₁⟩
      obtain ⟨b₂, hb₂, hr₂⟩ := exists_perm_checkEnv_eq_error.mp ⟨vars₂, hperm₂, h₂⟩
      obtain rfl := h b₁ hb₁ b₂ hb₂ r₁ r₂ hr₁ hr₂
      rw [h₁, h₂]
      exact .error r₁

end Check

/-! ## Reading in any order -/

namespace Workflow

open Check (checkEnv checkVar SameResult)

/-- All orders of reading a text have the same result, unless one of its maps decides. -/
theorem sameResult_ofTextIn_or {policy : TriggerPolicy} {source : String} :
    (∀ orders orders', SameResult Alike (Workflow.ofTextIn orders policy source)
      (Workflow.ofTextIn orders' policy source)) ∨
    ∃ document place key vars, WorkflowDocument.load source.toList = .ok document ∧
      document.HasEnv place key vars ∧
      (∀ orders, ∃ r, Workflow.ofTextIn orders policy source = .error r) ∧
      ∀ r, (∃ orders, Workflow.ofTextIn orders policy source = .error r) ↔
        ∃ b ∈ vars, checkVar source key b.1 b.2 = .error r := by
  unfold ofTextIn
  cases hload : WorkflowDocument.load source.toList with
  | error e => exact .inl fun orders orders' => .error _
  | ok document =>
    have hread : Check.InAnyOrder document.HasEnv source Alike fun orders =>
      Check.checkWorkflowIn orders source policy document := .checkWorkflow hload
    refine hread.sameResult_or.imp_right fun ⟨place, key, vars, hmap, h⟩ => ?_
    refine ⟨document, place, key, vars, rfl, hmap, fun orders => ?_, fun r => ?_⟩
    · exact (h orders).imp fun r hr => hr.1
    · exact Check.InAnyOrder.iff_of_decided (hmap.nodup hload) h

/-- What the order of variables matters for. Reading a workflow visits them as they are written. The
orders of a map have the same result, be it the same variables or the same rejection, if and only if
no two of its variables are rejected in different ways, because every rejection of one of them is
given by some order. All orders of the maps of a text give the same workflow or the same rejection;
or else all of them reject it, and the rejections are those of the variables of one map. -/
theorem order_of_variables {policy : TriggerPolicy} {source key : String}
    {vars : List (String × Value)} (hnames : (vars.map (·.1)).Nodup) :
    Workflow.ofText policy source = Workflow.ofTextIn .written policy source ∧
    ((∀ vars₁ vars₂ : List (String × Value), vars₁.Perm vars → vars₂.Perm vars →
      SameResult Env.SameMap (checkEnv source key vars₁) (checkEnv source key vars₂)) ↔
      ∀ b ∈ vars, ∀ b' ∈ vars, ∀ r r', checkVar source key b.1 b.2 = .error r →
        checkVar source key b'.1 b'.2 = .error r' → r = r') ∧
    (∀ r, (∃ vars', vars'.Perm vars ∧ checkEnv source key vars' = .error r) ↔
      ∃ b ∈ vars, checkVar source key b.1 b.2 = .error r) ∧
    ((∀ orders orders', SameResult Alike (Workflow.ofTextIn orders policy source)
        (Workflow.ofTextIn orders' policy source)) ∨
      ∃ document place key' vars', WorkflowDocument.load source.toList = .ok document ∧
        document.HasEnv place key' vars' ∧
        (∀ orders, ∃ r, Workflow.ofTextIn orders policy source = .error r) ∧
        ∀ r, (∃ orders, Workflow.ofTextIn orders policy source = .error r) ↔
          ∃ b ∈ vars', checkVar source key' b.1 b.2 = .error r) :=
  ⟨(ofTextIn_written policy source).symm, Check.sameResult_iff hnames,
    fun _ => Check.exists_perm_checkEnv_eq_error, sameResult_ofTextIn_or⟩

end Workflow

namespace Sample

/-- Two variables, of which one is no scalar. -/
def oneFault : List (String × Value) := [("A", .str "x"), ("B", .seq [])]

/-- A workflow with two variables that are no scalars. -/
def twoFaults : String :=
  "on: push\nenv:\n  A: []\n  B: []\njobs:\n  b:\n    runs-on: l\n    steps:\n" ++
    "      - run: echo\n"

end Sample

namespace Workflow

open Check (checkEnv SameResult)

/-- Where only one variable is wrong, both orders say so. -/
theorem order_of_variables_sample : (Sample.oneFault.map (·.1)).Nodup ∧
    SameResult Env.SameMap (checkEnv "" "env" Sample.oneFault)
      (checkEnv "" "env" Sample.oneFault.reverse) := by
  have hnames : (Sample.oneFault.map (·.1)).Nodup := by decide
  obtain ⟨-, hmap, -⟩ := @order_of_variables TriggerPolicy.standard "" "env" _ hnames
  refine ⟨hnames, hmap.mpr ?_ _ _ (.refl _) (List.reverse_perm _)⟩
  have hfault : ∀ b ∈ Sample.oneFault, ∀ r, Check.checkVar "" "env" b.1 b.2 = .error r →
      r = Check.rejection "" "environment variable 'B' must be a scalar value" "env" := by
    simp only [Sample.oneFault, List.forall_mem_cons]
    exact ⟨by rintro r ⟨⟩, by rintro r ⟨⟩; rfl, by simp⟩
  exact fun b hb b' hb' r r' hr hr' => (hfault b hb r hr).trans (hfault b' hb' r' hr').symm

set_option maxRecDepth 100000 in
/-- Where two variables are wrong, the one that is visited first is told. -/
theorem tells_first_fault :
    ¬SameResult Env.SameMap (checkEnv "" "env" [("A", .seq []), ("B", .seq [])])
      (checkEnv "" "env" [("B", .seq []), ("A", .seq [])]) ∧
    ∀ name ∈ ["A", "B"], ∃ r,
      Workflow.ofTextIn (.first name) TriggerPolicy.standard Sample.twoFaults = .error r ∧
      r.message = "environment variable '" ++ name ++ "' must be a scalar value" := by
  refine ⟨nofun, fun name hname => ?_⟩
  have hread : ∀ name ∈ ["A", "B"],
      (match Workflow.ofTextIn (.first name) TriggerPolicy.standard Sample.twoFaults with
        | .error r => r.message == "environment variable '" ++ name ++ "' must be a scalar value"
        | .ok _ => false) = true := by decide +kernel
  have hread := hread name hname
  cases h : Workflow.ofTextIn (.first name) TriggerPolicy.standard Sample.twoFaults with
  | ok w =>
    rw [h] at hread
    cases hread
  | error r =>
    rw [h] at hread
    exact ⟨r, rfl, eq_of_beq hread⟩

end Workflow

end MatrixFlow
