import MatrixFlow.Proofs.Workflow.Keys

/-!
# The variables of workflows

The variables of a workflow, of a job and of a step are maps.

* `Env.SameMap`: the same variables, maybe in another order.
* `Check.checkEnv_eq_ok`: what is made of a map that is accepted.
* `Check.exists_perm_checkEnv_eq_error`: the rejections that the orders of a map give are those of
  its variables.
* `WorkflowDocument.HasEnv`: the maps of a document. No name stands twice in any of them
  (`WorkflowDocument.HasEnv.nodup`).
-/

namespace MatrixFlow

open Yaml (Value)

/-! ## The variables of a map -/

/-- The same variables: none has another value in one environment than in the other. -/
def Env.SameMap (vars vars' : List (String × String)) : Prop :=
  ∀ name, (ofList vars).get? name = (ofList vars').get? name

theorem Env.SameMap.of_perm {vars vars' : List (String × String)} (h : vars.Perm vars')
    (hnames : (vars.map (·.1)).Nodup) : SameMap vars vars' := by
  intro name
  have hnames' : (vars'.map (·.1)).Nodup := (h.map _).nodup hnames
  have hget : ∀ l : List (String × String), (l.map (·.1)).Nodup →
      (ofList l).get? name = l.lookup name := fun l hl => by
    rw [ofList, get?_extend, lastBound_eq_lookup hl]
    exact Option.or_none
  rw [hget vars hnames, hget vars' hnames']
  ext value
  rw [lookup_eq_some_iff_mem hnames, lookup_eq_some_iff_mem hnames', h.mem_iff]

namespace Check

variable {source key : String} {vars vars' : List (String × Value)}

/-- The text of a variable that is accepted. -/
def textOf (b : String × Value) : String × String := (b.1, (scalarText? b.2).getD "")

theorem checkVar_eq_ok {b : String × Value} {made : String × String} :
    checkVar source key b.1 b.2 = .ok made ↔ VarOk b.2 ∧ made = textOf b := by
  have hpasses : VarOk b.2 ↔ Passes (checkVar source key b.1 b.2) := passes_checkVar.symm
  rw [hpasses]
  unfold checkVar textOf
  split
  · simp [reject]
  · rename_i text h
    rw [h, except_bind_eq_ok, passes_bind_ok fun _ => passes_ok _]
    simp [Passes, eq_comm]

theorem checkEnv_eq_ok {env : List (String × String)} :
    checkEnv source key vars = .ok env ↔ EnvOk vars ∧ env = vars.map textOf :=
  mapM_eq_ok fun _ _ => checkVar_eq_ok

theorem sameMap_textOf (hperm : vars.Perm vars') (hnames : (vars.map (·.1)).Nodup) :
    Env.SameMap (vars.map textOf) (vars'.map textOf) := by
  refine .of_perm (hperm.map textOf) ?_
  rw [List.map_map]
  exact hnames

theorem envOk_iff_of_perm (hperm : vars.Perm vars') : EnvOk vars ↔ EnvOk vars' := by
  simp only [EnvOk, hperm.mem_iff]

theorem exists_checkEnv_eq_error (h : ¬EnvOk vars) : ∃ r, checkEnv source key vars = .error r := by
  cases hcheck : checkEnv source key vars with
  | error r => exact ⟨r, rfl⟩
  | ok env => exact absurd (checkEnv_eq_ok.mp hcheck).1 h

/-- The rejections that the orders of a map give are those of its variables. -/
theorem exists_perm_checkEnv_eq_error {r : Rejection} :
    (∃ vars', vars'.Perm vars ∧ checkEnv source key vars' = .error r) ↔
      ∃ b ∈ vars, checkVar source key b.1 b.2 = .error r :=
  exists_perm_mapM_eq_error

end Check

/-! ## The variables of a document -/

theorem Yaml.Value.toNamed_nodup {v : Value} {named : List (String × Value)}
    (h : v.toNamed = .ok named) : (named.map (·.1)).Nodup := by
  obtain ⟨entries, -, h⟩ := except_bind_eq_ok.mp h
  obtain ⟨pairs, -, h⟩ := except_bind_eq_ok.mp h
  cases h
  exact names_putAll_nodup List.nodup_nil

theorem StepDocument.ofValue_nodup {v : Value} {step : StepDocument} (hv : v.keysUnique = true)
    (h : StepDocument.ofValue v = .ok step) : (step.env.map (·.1)).Nodup := by
  refine Value.foldFields_keeps (I := fun step : StepDocument => (step.env.map (·.1)).Nodup) ?_ hv
    (by simp) h
  intro step name w step' hstep _ hread
  unfold readField at hread
  dsimp only at hread
  split at hread
  case h_8 =>
    obtain ⟨env, henv, heq⟩ := except_bind_eq_ok.mp hread
    cases heq
    exact Value.toNamed_nodup henv
  case h_10 =>
    cases hread
    exact hstep
  all_goals
    obtain ⟨field, -, heq⟩ := except_bind_eq_ok.mp hread
    cases heq
    exact hstep

/-- No name stands twice among the variables of the job, or of one of its steps. -/
structure JobDocument.NamesNodup (document : JobDocument) : Prop where
  env : (document.env.map (·.1)).Nodup
  steps : ∀ steps, document.steps = some steps → ∀ step ∈ steps, (step.env.map (·.1)).Nodup

theorem JobDocument.ofValue_nodup {v : Value} {document : JobDocument} (hv : v.keysUnique = true)
    (h : JobDocument.ofValue v = .ok document) : document.NamesNodup := by
  refine Value.foldFields_keeps (I := NamesNodup) ?_ hv ⟨by simp, by rintro _ ⟨⟩⟩ h
  intro document name w document' hdocument hw hread
  unfold readField at hread
  split at hread
  case h_3 =>
    obtain ⟨env, henv, heq⟩ := except_bind_eq_ok.mp hread
    cases heq
    exact ⟨Value.toNamed_nodup henv, hdocument.steps⟩
  case h_5 =>
    obtain ⟨steps, hsteps, heq⟩ := except_bind_eq_ok.mp hread
    cases heq
    refine ⟨hdocument.env, ?_⟩
    rintro steps rfl step hstep
    obtain ⟨items, hitems, hsteps⟩ := except_bind_eq_ok.mp (Value.eq_ok_of_toOption hsteps)
    obtain ⟨item, hitem, hread⟩ := exists_of_mem_mapM hsteps step hstep
    exact StepDocument.ofValue_nodup (Value.keysUnique_of_toItems hw hitems item hitem) hread
  case h_7 =>
    cases hread
    exact hdocument
  all_goals
    obtain ⟨field, -, heq⟩ := except_bind_eq_ok.mp hread
    cases heq
    exact ⟨hdocument.env, hdocument.steps⟩

theorem WorkflowDocument.load_nodup {cs : List Char} {document : WorkflowDocument}
    (h : WorkflowDocument.load cs = .ok document) : (document.env.map (·.1)).Nodup := by
  have hkept : Fields.Kept fun fields =>
      ∀ env, fields.env = some env → (env.map (·.1)).Nodup := by
    refine ⟨by rintro _ ⟨⟩, fun _ _ h => h, fun _ _ h => h, ?_, fun _ _ h _ => h⟩
    rintro fields pairs - _ ⟨⟩
    exact names_putAll_nodup List.nodup_nil
  obtain ⟨fields, hfields, hdocument, -⟩ := hkept.load h
  rw [hdocument]
  cases henv : fields.env with
  | none => exact List.nodup_nil
  | some env => exact hfields env henv

/-- The maps of variables in a document: that of the workflow, that of a job, and that of a step.
Jobs and the steps of a job are counted from zero. -/
inductive EnvPlace where
  | workflow
  | job (job : Nat)
  | step (job step : Nat)

/-- A document has a map of variables at a place. Its faults are located by the key, or by the name
of a variable. -/
inductive WorkflowDocument.HasEnv (document : WorkflowDocument) :
    EnvPlace → String → List (String × Value) → Prop
  | workflow : HasEnv document .workflow "env" document.env
  | job {i : Nat} {e : Value × Value} {id : String} {d : JobDocument}
      (he : document.jobs[i]? = some e) (hid : e.1.asText? = some id)
      (hd : JobDocument.ofValue e.2 = .ok d) : HasEnv document (.job i) id d.env
  | step {i j : Nat} {e : Value × Value} {id : String} {d : JobDocument} {steps : List StepDocument}
      {step : StepDocument} (he : document.jobs[i]? = some e) (hid : e.1.asText? = some id)
      (hd : JobDocument.ofValue e.2 = .ok d) (hsteps : d.steps = some steps)
      (hstep : steps[j]? = some step) : HasEnv document (.step i j) id step.env

/-- No name stands twice in such a map. -/
theorem WorkflowDocument.HasEnv.nodup {cs : List Char} {document : WorkflowDocument}
    {place : EnvPlace} {key : String} {vars : List (String × Value)}
    (hload : WorkflowDocument.load cs = .ok document) (h : document.HasEnv place key vars) :
    (vars.map (·.1)).Nodup := by
  obtain ⟨hinside, -⟩ := Value.keysUnique_map_iff.mp (WorkflowDocument.load_keysUnique hload)
  cases h with
  | workflow => exact WorkflowDocument.load_nodup hload
  | job he hid hd =>
    exact (JobDocument.ofValue_nodup (hinside _ (List.mem_of_getElem? he)).2 hd).env
  | step he hid hd hsteps hstep =>
    have hnames := JobDocument.ofValue_nodup (hinside _ (List.mem_of_getElem? he)).2 hd
    exact hnames.steps _ hsteps _ (List.mem_of_getElem? hstep)

end MatrixFlow
