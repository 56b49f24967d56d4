import MatrixFlow.Proofs.Run.Result

/-!
# The table of states

* `TaskRun.Fits policy stopped t entry`: where the task `t` stands, and what the table says of it.
  With a limit, a task that the table shows as running has a slot, and one that has failed keeps
  its slot until its group is told.
* `TaskStep.legal`: a task only requests states to which its entry can move.
* `JobRun.Fits`: all tasks of a job fit the table. Every move without a breakdown keeps it, and so
  it holds in every run (`Runs.fits`).
-/

namespace MatrixFlow

/-- The task has a slot, or needs none. -/
def TaskRun.HasRoom (policy : DispatchPolicy) (t : TaskRun) : Prop :=
  t.slot = true ∨ policy.maxParallel = none

/-- Where a task stands and what the table says of it, when its group has been told to stop or
not. -/
def TaskRun.Fits (policy : DispatchPolicy) (stopped : Bool) (t : TaskRun) (entry : InstanceState) :
    Prop :=
  match t.phase with
  | .waiting => entry = .pending
  | .opening => entry = .pending ∧ (t.HasRoom policy ∨ stopped = true)
  | .entering => entry = .pending ∧ t.HasRoom policy
  | .between .. | .asking .. => entry = .running ∧ t.HasRoom policy
  | .leaving r => (entry = .pending ∧ r.status = .cancelled) ∨
      (entry = .running ∧ t.HasRoom policy)
  | .recorded r => entry = r.status.state ∧ (r.status = .failed → t.HasRoom policy)
  | .releasing r => entry = r.status.state ∧
      (policy.failFast = true → r.status = .failed → stopped = true)
  | .settled r => entry = r.status.state ∧ t.slot = false ∧
      (policy.failFast = true → r.status = .failed → stopped = true)
  | .crashed => False

/-! ## One task -/

section Task

variable {services : Services} {policy : DispatchPolicy} {free stopped : Bool} {t : TaskRun}
  {mv : TaskMove} {a : Advance} {entry : InstanceState}

/-- A task that fits goes on to fit when its group is told to stop. -/
theorem TaskRun.Fits.stop (h : t.Fits policy stopped entry) : t.Fits policy true entry := by
  unfold Fits at h ⊢
  cases hp : t.phase with
  | opening => rw [hp] at h; exact ⟨h.1, .inr rfl⟩
  | releasing => rw [hp] at h; exact ⟨h.1, fun _ _ => rfl⟩
  | settled => rw [hp] at h; exact ⟨h.1, h.2.1, fun _ _ => rfl⟩
  | _ => rw [hp] at h; exact h

theorem StepLeads.fits {i : Instance} {p : Progress} {step : Step} {rest : List Step} {x : Phase}
    {slot : Bool} (hx : StepLeads i p step rest x) (h : slot = true ∨ policy.maxParallel = none) :
    (⟨i, x, slot⟩ : TaskRun).Fits policy stopped .running := by
  cases hx with
  | call | next => exact ⟨rfl, h⟩
  | failure => exact .inr ⟨rfl, h⟩

/-- A task that fits the table requests only what is legal. -/
theorem TaskStep.legal (ha : TaskStep services policy free stopped t mv a)
    (h : t.Fits policy stopped entry) {next : InstanceState} (hreq : a.request = some next) :
    entry.canMoveTo next = true := by
  unfold TaskRun.Fits at h
  cases ha with
  | enter hp =>
    cases hreq
    rw [hp] at h
    rw [h.1]
    rfl
  | @record r hp =>
    cases hreq
    rw [hp] at h
    obtain ⟨rfl, hc⟩ | ⟨rfl, -⟩ := h
    · rw [hc]; rfl
    · cases r.status <;> rfl
  | crash hp =>
    cases hreq
    rw [hp] at h
    rw [h.1]
    rfl
  | _ => cases hreq

/-- A task fits the table after its move, when the table shows what it requested. -/
theorem TaskStep.fits (ha : TaskStep services policy free stopped t mv a) (hmv : mv ≠ .crash)
    (h : t.Fits policy stopped entry) :
    (t.advance a).Fits policy (stopped || a.raises) (a.request.getD entry) := by
  unfold TaskRun.Fits at h
  cases ha with
  | grant hp => rw [hp] at h; exact h
  | leaveLine hp hs => rw [hp] at h; exact ⟨h, .inr (by rw [hs]; rfl)⟩
  | pass hp _ hslot => rw [hp] at h; exact ⟨h, .inl hslot⟩
  | refuse hp => rw [hp] at h; exact .inl ⟨h.1, rfl⟩
  | allow hp hs =>
    rw [hp] at h
    obtain ⟨he, hr | hs'⟩ := h
    · exact ⟨he, hr⟩
    · rw [hs] at hs'; cases hs'
  | enter hp => rw [hp] at h; exact ⟨rfl, h.2⟩
  | finish hp | cancel hp => rw [hp] at h; exact .inr h
  | launch hp =>
    rw [hp] at h
    exact h.1 ▸ (beginStep_leads ..).fits h.2
  | @record r hp =>
    rw [hp] at h
    refine ⟨rfl, fun hf => ?_⟩
    obtain ⟨-, hc⟩ | ⟨-, hr⟩ := h
    · rw [hc] at hf; cases hf
    · exact hr
  | tell hp =>
    rw [hp] at h
    exact ⟨h.1, fun hff hf => by simp [hff, hf]⟩
  | release hp =>
    rw [hp] at h
    exact ⟨h.1, rfl, fun hff hf => by rw [h.2 hff hf]; rfl⟩
  | reply hp =>
    rw [hp] at h
    exact h.1 ▸ (takeReply_leads ..).fits h.2
  | crash => exact absurd rfl hmv

end Task

/-! ## The tasks of a job -/

/-- The tasks of the job fit its table. -/
def JobRun.Fits (stopped : Bool) (run : JobRun) : Prop :=
  List.Forall₂ (TaskRun.Fits run.policy stopped) run.tasks run.table.states

namespace JobRun

variable {run : JobRun} {stopped : Bool}

theorem Fits.stop (h : run.Fits stopped) : run.Fits true :=
  h.imp fun _ _ ht => ht.stop

theorem fits_start (job : Job) (policy : DispatchPolicy) (is : List Instance) :
    (JobRun.start job policy is).Fits false := by
  have hstates : List.replicate is.length InstanceState.pending =
      is.map fun _ => InstanceState.pending := List.map_const'.symm
  unfold Fits JobRun.start StatusTable.ofSize
  rw [hstates, List.forall₂_map_left_iff, List.forall₂_map_right_iff, List.forall₂_same]
  exact fun _ _ => rfl

/-- A request that is legal is granted. -/
theorem states_apply {j : Nat} {a : Advance} {entry : InstanceState}
    (he : run.table.states[j]? = some entry)
    (hl : ∀ next, a.request = some next → entry.canMoveTo next = true) :
    (run.apply j a).table.states = run.table.states.set j (a.request.getD entry) := by
  unfold apply
  cases hreq : a.request with
  | none => exact (set_eq_self he).symm
  | some next =>
    simp [request, StatusTable.request, StatusTable.get?, he, hl next hreq]

end JobRun

theorem JobStep.fits {services : Services} {k : Nat} {run run' : JobRun} {sig sig' : Signals}
    {m : Move} {events : List Event} (hs : JobStep services k run sig m events run' sig')
    (hm : ∀ j, m ≠ .task k j .crash) (h : run.Fits (sig.isRaised k)) :
    run'.Fits (sig'.isRaised k) := by
  cases hs with
  | @own j mv t a ht ha =>
    obtain ⟨entry, he, hfit⟩ := exists_getElem?_of_forall₂ h ht
    have hmv : mv ≠ .crash := by
      rintro rfl
      exact hm j rfl
    have hstates := JobRun.states_apply he fun next hreq => ha.legal hfit hreq
    have hsig : (if a.raises then sig.raise k else sig).isRaised k = (sig.isRaised k || a.raises) :=
      by cases a.raises <;> simp
    unfold JobRun.Fits
    rw [JobRun.apply_policy, JobRun.apply_tasks ht, hstates, hsig]
    refine forall₂_set ?_ (ha.fits hmv hfit)
    cases a.raises with
    | false => rwa [Bool.or_false]
    | true => rw [Bool.or_true]; exact h.stop
  | other _ hr => rwa [hr]
  | notice | stopAll => simpa using h.stop

/-- In every run without breakdowns, the tasks of every job fit its table. -/
theorem Runs.fits {plans : List JobPlan} {trace : List (Move × List Event)} {s : RunState} {k : Nat}
    {run : JobRun} (h : Runs Calm (RunState.start plans) trace s) (hk : s.job? k = some run) :
    run.Fits (s.signals.isRaised k) := by
  refine h.job_induction (P := fun run sig => run.Fits (sig.isRaised k)) ?_ ?_ run hk
  · intro run₀ h₀
    obtain ⟨plan, is, -, -, -, rfl⟩ := RunState.job?_start h₀
    exact JobRun.fits_start _ _ _
  · intro trace services a m events r r' sig' _ _ hok hs ih
    exact hs.fits (hok k) ih

end MatrixFlow
