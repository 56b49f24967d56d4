import MatrixFlow.Proofs.Run.Runs

/-!
# Results of instances

What a task has recorded at any moment of any run, and what it comes to.

* `Records outcomes steps`: the outcomes are those of the first steps, in order.
* `InstanceResult.Sound i r`: `r` says of `i` what happened. A success has all steps, all green; a
  cancelled instance only some of them, all green; a failure ends with the step that failed.
* `TaskStep.sound`: every move of a task keeps this; `Runs.sound`: it holds in every run.
* `TaskRun.ending?`: what an instance comes to, as soon as it is decided. No move changes it
  (`TaskStep.ending`), and only a task that has been told to stop is cancelled
  (`TaskStep.hasCancelled`).
-/

namespace MatrixFlow

/-! ## What has been recorded -/

/-- The outcomes are those of the first steps, in order. -/
def Records (outcomes : List StepOutcome) (steps : List Step) : Prop :=
  ∀ (k : Nat) (o : StepOutcome), outcomes[k]? = some o →
    ∃ step, steps[k]? = some step ∧ o.IsOf k step

theorem Records.nil (steps : List Step) : Records [] steps := by
  intro k o h
  cases h

theorem Records.length_le {outcomes : List StepOutcome} {steps : List Step}
    (h : Records outcomes steps) : outcomes.length ≤ steps.length := by
  refine Nat.le_of_not_lt fun hlt => ?_
  obtain ⟨step, hs, -⟩ := h steps.length _ (List.getElem?_eq_getElem hlt)
  simp at hs

theorem Records.snoc {outcomes : List StepOutcome} {steps rest : List Step} {step : Step}
    {o : StepOutcome} (h : Records outcomes steps)
    (hd : steps.drop outcomes.length = step :: rest) (ho : o.IsOf outcomes.length step) :
    Records (outcomes ++ [o]) steps := by
  intro k o' hk
  rw [List.getElem?_append] at hk
  split at hk
  · exact h k o' hk
  · rename_i hlt
    have hk0 : k = outcomes.length := by
      by_cases hgt : outcomes.length < k
      · rw [List.getElem?_eq_none (by simp; omega)] at hk
        cases hk
      · omega
    subst hk0
    simp only [Nat.sub_self, List.getElem?_cons_zero, Option.some.injEq] at hk
    subst hk
    refine ⟨step, ?_, ho⟩
    have := congrArg (·[0]?) hd
    simpa using this

/-- The outcomes so far are those of the first steps, all green, and `rest` is left. -/
structure Progress.Sound (i : Instance) (p : Progress) (rest : List Step) : Prop where
  index : p.index = p.outcomes.length
  rest : i.job.steps.drop p.outcomes.length = rest
  records : Records p.outcomes i.job.steps
  green : ∀ o ∈ p.outcomes, o.Green

/-- The result says what happened to the instance. -/
structure InstanceResult.Sound (i : Instance) (r : InstanceResult) : Prop where
  summary : r.summary = i.summary
  records : Records r.steps i.job.steps
  succeeded : r.status = .succeeded →
    r.steps.length = i.job.steps.length ∧ ∀ o ∈ r.steps, o.Green
  cancelled : r.status = .cancelled →
    (i.job.steps ≠ [] → r.steps.length < i.job.steps.length) ∧ ∀ o ∈ r.steps, o.Green
  failed : r.status = .failed →
    ∃ before last, r.steps = before ++ [last] ∧ (∀ o ∈ before, o.Green) ∧ last.failure ≠ none

/-- What a task in this phase has recorded is what happened. -/
def Phase.Sound (i : Instance) : Phase → Prop
  | .between p rest => p.Sound i rest
  | .asking p step rest _ _ _ => p.Sound i (step :: rest)
  | .leaving r | .recorded r | .releasing r | .settled r => r.Sound i
  | .waiting | .opening | .entering | .crashed => True

namespace Progress

theorem sound_start (i : Instance) : (Progress.start i).Sound i i.job.steps :=
  ⟨rfl, rfl, Records.nil _, by simp [Progress.start]⟩

variable {i : Instance} {p : Progress} {step : Step} {rest : List Step}

theorem Sound.succeeded (h : p.Sound i []) : (i.resultOf .succeeded p.outcomes).Sound i where
  summary := rfl
  records := h.records
  succeeded _ := by
    have hle := List.drop_eq_nil_iff.mp h.rest
    exact ⟨Nat.le_antisymm h.records.length_le hle, h.green⟩
  cancelled hs := by cases hs
  failed hs := by cases hs

theorem Sound.lt_length (h : p.Sound i (step :: rest)) :
    p.outcomes.length < i.job.steps.length := by
  refine Nat.lt_of_not_le fun hle => ?_
  have := h.rest
  rw [List.drop_eq_nil_of_le hle] at this
  cases this

theorem Sound.cancelled (h : p.Sound i (step :: rest)) :
    (i.resultOf .cancelled p.outcomes).Sound i where
  summary := rfl
  records := h.records
  succeeded hs := by cases hs
  cancelled _ := ⟨fun _ => h.lt_length, h.green⟩
  failed hs := by cases hs

theorem Sound.snoc {o : StepOutcome} {env : StepEnv} (h : p.Sound i (step :: rest))
    (ho : o.IsOf p.index step) (hg : o.Green) :
    (⟨p.index + 1, env, p.outcomes ++ [o]⟩ : Progress).Sound i rest where
  index := by simp [h.index]
  rest := by
    have := congrArg (List.drop 1) h.rest
    simpa using this
  records := h.records.snoc h.rest (h.index ▸ ho)
  green := by
    intro o' ho'
    rcases List.mem_append.mp ho' with hb | hl
    · exact h.green o' hb
    · rwa [List.mem_singleton.mp hl]

theorem Sound.failed {o : StepOutcome} (h : p.Sound i (step :: rest))
    (ho : o.IsOf p.index step) (hf : o.failure ≠ none) :
    (i.resultOf .failed (p.outcomes ++ [o])).Sound i where
  summary := rfl
  records := h.records.snoc h.rest (h.index ▸ ho)
  succeeded hs := by cases hs
  cancelled hs := by cases hs
  failed _ := ⟨p.outcomes, o, rfl, h.green, hf⟩

end Progress

theorem InstanceResult.sound_cancelled (i : Instance) :
    (InstanceResult.cancelled i.summary).Sound i where
  summary := rfl
  records := Records.nil _
  succeeded hs := by cases hs
  cancelled _ := ⟨fun hne => List.length_pos_iff.mpr hne, by simp [InstanceResult.cancelled]⟩
  failed hs := by cases hs

/-! ## Moves -/

theorem StepLeads.sound {i : Instance} {p : Progress} {step : Step} {rest : List Step} {x : Phase}
    (hx : StepLeads i p step rest x) (h : p.Sound i (step :: rest)) : x.Sound i := by
  cases hx with
  | call spent call next => exact h
  | next ho hg => exact h.snoc ho hg
  | failure ho hf => exact h.failed ho hf

/-- What the task has recorded is what happened. -/
def TaskRun.Sound (t : TaskRun) : Prop := t.phase.Sound t.inst

theorem TaskStep.sound {services : Services} {policy : DispatchPolicy} {free stopped : Bool}
    {t : TaskRun} {mv : TaskMove} {a : Advance} (ha : TaskStep services policy free stopped t mv a)
    (h : t.Sound) : (t.advance a).Sound := by
  unfold TaskRun.Sound at h
  cases ha with
  | grant | leaveLine | pass | allow | crash => trivial
  | refuse => exact InstanceResult.sound_cancelled t.inst
  | enter => exact Progress.sound_start t.inst
  | finish hp => rw [hp] at h; exact h.succeeded
  | cancel hp _ => rw [hp] at h; exact h.cancelled
  | launch hp _ => rw [hp] at h; exact (beginStep_leads ..).sound h
  | record hp | tell hp | release hp => rw [hp] at h; exact h
  | reply hp => rw [hp] at h; exact (takeReply_leads ..).sound h

theorem StepLeads.ne_crashed {i : Instance} {p : Progress} {step : Step} {rest : List Step}
    {x : Phase} (hx : StepLeads i p step rest x) : x ≠ .crashed := by
  cases hx <;> simp

/-- Only a breakdown makes a task crash. -/
theorem TaskStep.ne_crashed {services : Services} {policy : DispatchPolicy} {free stopped : Bool}
    {t : TaskRun} {mv : TaskMove} {a : Advance} (ha : TaskStep services policy free stopped t mv a)
    (hmv : mv ≠ .crash) : (t.advance a).phase ≠ .crashed := by
  cases ha with
  | launch => exact (beginStep_leads ..).ne_crashed
  | reply => exact (takeReply_leads ..).ne_crashed
  | crash => exact absurd rfl hmv
  | _ => simp [TaskRun.goTo]

section Runs

variable {ok : Services → RunState → Move → Prop} {plans : List JobPlan} {s : RunState}
  {trace : List (Move × List Event)} {k : Nat} {run : JobRun}

/-- In every run, the tasks of every job have recorded what happened. -/
theorem Runs.sound (h : Runs ok (RunState.start plans) trace s) (hk : s.job? k = some run) :
    ∀ t ∈ run.tasks, t.Sound :=
  h.task_induction hk (fun _ => trivial) fun _ _ _ _ _ _ _ _ _ _ _ ha ht => ha.sound ht

theorem Runs.ne_crashed (h : Runs Calm (RunState.start plans) trace s) (hk : s.job? k = some run) :
    ∀ t ∈ run.tasks, t.phase ≠ .crashed := by
  refine h.task_induction hk (P := fun t => t.phase ≠ .crashed)
    (fun _ => by simp [TaskRun.start]) ?_
  intro trace services a r j t mv adv _ _ hok ha _
  exact ha.ne_crashed fun hmv => hok k j (by rw [hmv])

end Runs

/-! ## Endings -/

/-- What the instance comes to, as soon as it is decided. -/
def TaskRun.ending? (t : TaskRun) : Option InstanceResult :=
  match t.phase with
  | .leaving r | .recorded r | .releasing r | .settled r => some r
  | .crashed => some ⟨t.inst.summary, .failed, [], Duration.zero⟩
  | _ => none

/-- The instance has ended as failed, and the table shows it. -/
def TaskRun.HasFailed (t : TaskRun) : Prop :=
  match t.phase with
  | .recorded r | .releasing r | .settled r => r.status = .failed
  | .crashed => True
  | _ => False

/-- It is decided that the instance is cancelled. -/
def TaskRun.HasCancelled (t : TaskRun) : Prop := ∃ r, t.ending? = some r ∧ r.status = .cancelled

section Ending

variable {services : Services} {policy : DispatchPolicy} {free stopped : Bool} {t : TaskRun}
  {mv : TaskMove} {a : Advance}

theorem TaskRun.result?_ending {r : InstanceResult} (h : t.result? = some r) :
    t.ending? = some r := by
  unfold result? at h
  unfold ending?
  cases hp : t.phase with
  | settled | crashed => rw [hp] at h; exact h
  | _ => rw [hp] at h; cases h

theorem TaskRun.hasFailed_of_hasCrashed (h : t.hasCrashed = true) : t.HasFailed := by
  unfold hasCrashed at h
  split at h
  · rename_i hp
    rw [HasFailed, hp]
    trivial
  · cases h

/-- What has been decided is not changed. -/
theorem TaskStep.ending (ha : TaskStep services policy free stopped t mv a) {r : InstanceResult}
    (h : t.ending? = some r) : (t.advance a).ending? = some r := by
  unfold TaskRun.ending? at h
  cases ha with
  | grant hp | leaveLine hp | pass hp | refuse hp | allow hp | enter hp | finish hp | cancel hp
  | launch hp | reply hp | crash hp => rw [hp] at h; cases h
  | record hp | tell hp | release hp => rw [hp] at h; exact h

theorem TaskStep.hasFailed (ha : TaskStep services policy free stopped t mv a)
    (h : t.HasFailed) : (t.advance a).HasFailed := by
  unfold TaskRun.HasFailed at h
  cases ha with
  | grant hp | leaveLine hp | pass hp | refuse hp | allow hp | enter hp | finish hp | cancel hp
  | launch hp | record hp | reply hp | crash hp => rw [hp] at h; exact h.elim
  | tell hp | release hp => rw [hp] at h; exact h

/-- A task that tells its group to stop has failed. -/
theorem TaskStep.raises (ha : TaskStep services policy free stopped t mv a)
    (h : a.raises = true) : policy.failFast = true ∧ (t.advance a).HasFailed := by
  cases ha with
  | tell hp =>
    rw [Bool.and_eq_true, beq_iff_eq] at h
    exact ⟨h.1, h.2⟩
  | _ => cases h

theorem StepLeads.not_hasCancelled {i : Instance} {p : Progress} {step : Step} {rest : List Step}
    {x : Phase} (hx : StepLeads i p step rest x) (slot : Bool) :
    ¬ (⟨i, x, slot⟩ : TaskRun).HasCancelled := by
  rintro ⟨r, hr, hs⟩
  cases hx with
  | call | next => cases hr
  | failure => cases hr; cases hs

/-- Only a task whose group has been told to stop is cancelled. -/
theorem TaskStep.hasCancelled (ha : TaskStep services policy free stopped t mv a)
    (h : (t.advance a).HasCancelled) : t.HasCancelled ∨ stopped = true := by
  obtain ⟨r, hr, hs⟩ := h
  cases ha with
  | grant | pass | leaveLine | allow | enter => cases hr
  | refuse _ hstop | cancel _ hstop => exact .inr hstop
  | finish | crash => cases hr; cases hs
  | launch => exact absurd ⟨r, hr, hs⟩ ((beginStep_leads ..).not_hasCancelled _)
  | reply => exact absurd ⟨r, hr, hs⟩ ((takeReply_leads ..).not_hasCancelled _)
  | record hp | tell hp | release hp =>
    exact .inl ⟨r, by rw [TaskRun.ending?, hp]; exact hr, hs⟩

end Ending

theorem TaskRun.Sound.ending {t : TaskRun} {r : InstanceResult} (h : t.Sound)
    (hc : r.status = .cancelled) (hr : t.ending? = some r) : r.Sound t.inst := by
  unfold TaskRun.Sound at h
  unfold ending? at hr
  split at hr <;> cases hr
  case h_5 => cases hc
  all_goals
    rename_i hp
    rwa [hp] at h

/-! ## The result of a job -/

theorem TaskRun.exists_result {t : TaskRun} (h : t.isOver = true) : ∃ r, t.result? = some r := by
  unfold isOver at h
  unfold result?
  split at h <;> simp_all

theorem TaskRun.Sound.result {t : TaskRun} {r : InstanceResult} (h : t.Sound)
    (hc : t.phase ≠ .crashed) (hr : t.result? = some r) : r.Sound t.inst := by
  unfold TaskRun.Sound at h
  unfold result? at hr
  split at hr
  · rename_i hp
    cases hr
    rwa [hp] at h
  · exact absurd ‹_› hc
  · cases hr

/-- The result of a job that is over has one result for each of its tasks, in their order. -/
theorem JobRun.exists_result {run : JobRun} (h : run.isOver = true) :
    ∃ rs, run.result? = some (JobResult.ofInstances run.job.id run.job.displayName rs) ∧
      List.Forall₂ (fun t r => t.result? = some r) run.tasks rs := by
  have hsame : List.Forall₂ (fun t u : TaskRun => t = u) run.tasks run.tasks :=
    List.forall₂_same.mpr fun _ _ => rfl
  obtain ⟨rs, hrs, hf⟩ := exists_mapM_eq_some (f := TaskRun.result?)
    (R := fun t r => t.result? = some r) hsame fun t ht u _ htu => by
      obtain ⟨r, hr⟩ := TaskRun.exists_result (List.all_eq_true.mp h t ht)
      exact ⟨r, htu ▸ hr, hr⟩
  exact ⟨rs, by simp [result?, hrs], hf⟩

/-- The results of a job whose tasks did not break down say what happened to its instances. -/
theorem JobRun.exists_sound_result {run : JobRun} (h : run.isOver = true)
    (hs : ∀ t ∈ run.tasks, t.Sound) (hc : ∀ t ∈ run.tasks, t.phase ≠ .crashed) :
    ∃ rs, run.result? = some (JobResult.ofInstances run.job.id run.job.displayName rs) ∧
      List.Forall₂ (fun i (r : InstanceResult) => r.Sound i) (run.tasks.map (·.inst)) rs := by
  obtain ⟨rs, hr, hrs⟩ := run.exists_result h
  refine ⟨rs, hr, List.forall₂_map_left_iff.mpr ?_⟩
  have hall := (List.forall₂_and_left _ _).mpr ⟨fun t ht => And.intro (hs t ht) (hc t ht), hrs⟩
  exact hall.imp fun t r ⟨⟨hst, hct⟩, hrt⟩ => hst.result hct hrt

end MatrixFlow
