import Mathlib.Data.List.Chain
import MatrixFlow.Proofs.Run.Table

/-!
# The table and the results

* `InstanceState.IsLifecycle`: the ways through the states, as far as they have come.
* `Requests ok s k j trace asked s'`: a run, in which the task at `j` of the job at `k` requests the
  states `asked`, in order. Every run is one (`Runs.exists_requests`).
* `Requests.granted`: without breakdowns every request is legal, and the table shows the last one.
* `Runs.table_agrees`: the table of a job in every run, and its results once the job is over.
-/

namespace MatrixFlow

/-! ## Ways through the states -/

namespace InstanceState

/-- Pending, running and an end, or pending and cancelled, or a part of these from the start. -/
def IsLifecycle (states : List InstanceState) : Prop :=
  (∃ last : InstanceState, last.isTerminal = true ∧ states <+: [pending, running, last]) ∨
    states <+: [pending, cancelled]

/-- There is no way on from an end. -/
theorem eq_nil_of_isTerminal {s : InstanceState} {states : List InstanceState}
    (hs : s.isTerminal = true)
    (h : (s :: states).IsChain fun s next => s.canMoveTo next = true) : states = [] := by
  cases states with
  | nil => rfl
  | cons next states =>
    have hnext := (List.isChain_cons_cons.mp h).1
    cases s <;> simp_all [isTerminal, canMoveTo]

/-- Legal moves from pending on are a lifecycle. -/
theorem isLifecycle_of_isChain {states : List InstanceState}
    (h : (pending :: states).IsChain fun s next => s.canMoveTo next = true) :
    IsLifecycle (pending :: states) := by
  cases states with
  | nil => exact .inr ⟨[cancelled], rfl⟩
  | cons first rest =>
    obtain ⟨hfirst, hrest⟩ := List.isChain_cons_cons.mp h
    cases first with
    | running =>
      cases rest with
      | nil => exact .inl ⟨succeeded, rfl, [succeeded], rfl⟩
      | cons last rest =>
        obtain ⟨hlast, hend⟩ := List.isChain_cons_cons.mp hrest
        have hterminal : last.isTerminal = true := by cases last <;> first | rfl | cases hlast
        rw [eq_nil_of_isTerminal hterminal hend]
        exact .inl ⟨last, hterminal, List.prefix_rfl⟩
    | cancelled =>
      rw [eq_nil_of_isTerminal rfl hrest]
      exact .inr List.prefix_rfl
    | pending | succeeded | failed => cases hfirst

end InstanceState

theorem RunStatus.isTerminal_state (status : RunStatus) : status.state.isTerminal = true := by
  cases status <;> rfl

/-! ## Requests -/

/-- Moves that `ok` allows lead from `s` to the last state, told with their events. On the way the
task at `j` of the job at `k` requests the states `asked` of the table, in order. -/
inductive Requests (ok : Services → RunState → Move → Prop) (s : RunState) (k j : Nat) :
    List (Move × List Event) → List InstanceState → RunState → Prop
  | nil : Requests ok s k j [] [] s
  /-- The task makes a move, which may request a state. -/
  | own {trace : List (Move × List Event)} {asked : List InstanceState} {a : RunState}
      {services : Services} {mv : TaskMove} {run : JobRun} {t : TaskRun} {adv : Advance} :
      Requests ok s k j trace asked a → ok services a (.task k j mv) →
      a.job? k = some run → run.tasks[j]? = some t →
      t.perform services run.policy run.hasSlot (a.signals.isRaised k) mv = some adv →
      Requests ok s k j (trace ++ [(.task k j mv, adv.events)]) (asked ++ adv.request.toList)
        (a.apply k j run adv)
  /-- Somebody else makes a move. -/
  | other {trace : List (Move × List Event)} {asked : List InstanceState} {a b : RunState}
      {services : Services} {m : Move} {events : List Event} :
      Requests ok s k j trace asked a → ok services a m → (∀ mv, m ≠ .task k j mv) →
      a.perform services m = some (b, events) →
      Requests ok s k j (trace ++ [(m, events)]) asked b

section Requests

variable {ok : Services → RunState → Move → Prop} {s s' : RunState} {k j : Nat}
  {trace : List (Move × List Event)} {asked : List InstanceState}

theorem Requests.runs (h : Requests ok s k j trace asked s') : Runs ok s trace s' := by
  induction h with
  | nil => exact .nil
  | own _ hok hk ht ha ih => exact .snoc ih hok (RunState.perform_task hk ht ha)
  | other _ hok _ hm ih => exact .snoc ih hok hm

theorem Runs.exists_requests (h : Runs ok s trace s') (k j : Nat) :
    ∃ asked, Requests ok s k j trace asked s' := by
  induction h with
  | nil => exact ⟨[], .nil⟩
  | @snoc trace a b services m events _ hok hm ih =>
    obtain ⟨asked, ih⟩ := ih
    by_cases hown : ∃ mv, m = .task k j mv
    · obtain ⟨mv, rfl⟩ := hown
      obtain ⟨l, i, mv', run, t, adv, hmv, hk, ht, ha, rfl, rfl⟩ | ⟨l, run, hmv, -⟩ | ⟨hmv, -⟩ :=
        RunState.perform_cases hm
      · cases hmv
        exact ⟨_, .own ih hok hk ht ha⟩
      · cases hmv
      · cases hmv
    · exact ⟨asked, .other ih hok (fun mv hmv => hown ⟨mv, hmv⟩) hm⟩

end Requests

/-! ## What the table shows -/

namespace JobRun

/-- A move of one task leaves the entries of the others as they are. -/
theorem get?_apply_ne {run : JobRun} {i j : Nat} (h : i ≠ j) (a : Advance) :
    (run.apply i a).table.get? j = run.table.get? j := by
  unfold apply request StatusTable.request StatusTable.get?
  cases a.request with
  | none => rfl
  | some next =>
    dsimp only
    cases run.table.states[i]? with
    | none => rfl
    | some current =>
      dsimp only
      split <;> rename_i heq
      · split at heq <;> cases heq
        exact List.getElem?_set_ne h
      · rfl

end JobRun

/-- A move of the run that is none of the task at `j` leaves its entry as it is. -/
theorem JobStep.get?_table {services : Services} {k j : Nat} {run run' : JobRun}
    {sig sig' : Signals} {m : Move} {events : List Event}
    (hs : JobStep services k run sig m events run' sig') (hm : ∀ mv, m ≠ .task k j mv) :
    run'.table.get? j = run.table.get? j := by
  cases hs with
  | @own i mv t a _ _ =>
    refine JobRun.get?_apply_ne ?_ a
    rintro rfl
    exact hm mv rfl
  | other | notice | stopAll => rfl

/-- A request of a task that fits the table is legal, and granted. -/
theorem TaskStep.granted {services : Services} {free stopped : Bool} {run : JobRun} {j : Nat}
    {t : TaskRun} {mv : TaskMove} {a : Advance} {next : InstanceState}
    (ha : TaskStep services run.policy free stopped t mv a) (hfit : run.Fits stopped)
    (ht : run.tasks[j]? = some t) (hreq : a.request = some next) :
    ∃ current table, run.table.get? j = some current ∧ current.canMoveTo next = true ∧
      run.table.request j next = .ok (current, table) ∧ (run.apply j a).table = table := by
  obtain ⟨current, hc, hf⟩ := exists_getElem?_of_forall₂ hfit ht
  have hlegal := ha.legal hf hreq
  refine ⟨current, ⟨run.table.states.set j next⟩, hc, hlegal, ?_, ?_⟩
  · simp [StatusTable.request, StatusTable.get?, hc, hlegal]
  · simp [JobRun.apply, JobRun.request, hreq, StatusTable.request, StatusTable.get?, hc, hlegal]

section Runs

variable {plans : List JobPlan} {trace : List (Move × List Event)} {s : RunState} {k j : Nat}
  {asked : List InstanceState}

/-- Without breakdowns, the requests of a task are legal moves one after the other, and the table
shows where they have led. -/
theorem Requests.granted (h : Requests Calm (RunState.start plans) k j trace asked s)
    {run : JobRun} (hk : s.job? k = some run) (hj : j < run.tasks.length) :
    ((InstanceState.pending :: asked).IsChain fun s next => s.canMoveTo next = true) ∧
      run.table.get? j = (InstanceState.pending :: asked).getLast? := by
  induction h generalizing run with
  | nil =>
    obtain ⟨plan, is, -, -, -, rfl⟩ := RunState.job?_start hk
    have hlt : j < is.length := by simpa [JobRun.start] using hj
    exact ⟨.singleton _, by simp [JobRun.start, StatusTable.ofSize, StatusTable.get?, hlt]⟩
  | @own trace asked a services mv r t adv h hok hr ht ha ih =>
    rw [RunState.job?_apply_self hr] at hk
    cases hk
    rw [JobRun.apply_tasks ht, List.length_set] at hj
    obtain ⟨hchain, hentry⟩ := ih hr hj
    have hstep := TaskRun.perform_step ha
    have hfit := h.runs.fits hr
    cases hreq : adv.request with
    | none =>
      have htable : (r.apply j adv).table = r.table := by simp [JobRun.apply, hreq]
      rw [Option.toList_none, List.append_nil, htable]
      exact ⟨hchain, hentry⟩
    | some next =>
      obtain ⟨current, table, hc, hlegal, hrequest, htable⟩ := hstep.granted hfit ht hreq
      rw [hc] at hentry
      have hlast : ∀ e ∈ (InstanceState.pending :: asked).getLast?, e.canMoveTo next = true := by
        rw [← hentry]
        simpa using hlegal
      rw [Option.toList_some, ← List.cons_append]
      refine ⟨hchain.append (.singleton next) (by simpa using hlast), ?_⟩
      have hlt := (List.getElem?_eq_some_iff.mp hc).1
      have : table = ⟨r.table.states.set j next⟩ := by
        simpa [StatusTable.request, hc, hlegal, eq_comm] using hrequest
      rw [htable, this, List.getLast?_concat]
      simp [StatusTable.get?, hlt]
  | @other trace asked a b services m events h hok hne hm ih =>
    obtain ⟨r, hr, hs⟩ := RunState.job_step_back hm hk
    rw [hs.get?_table hne]
    rw [hs.length_tasks] at hj
    exact ih hr hj

/-! ## What comes of it -/

theorem TaskRun.Fits.ne_crashed {policy : DispatchPolicy} {stopped : Bool} {t : TaskRun}
    {entry : InstanceState} (h : t.Fits policy stopped entry) : t.phase ≠ .crashed := by
  intro hp
  rw [TaskRun.Fits, hp] at h
  exact h

/-- The table shows how an instance that is over has ended. -/
theorem TaskRun.Fits.eq_state {policy : DispatchPolicy} {stopped : Bool} {t : TaskRun}
    {entry : InstanceState} {r : InstanceResult} (h : t.Fits policy stopped entry)
    (hr : t.result? = some r) : entry = r.status.state := by
  have hc := h.ne_crashed
  unfold Fits at h
  unfold result? at hr
  cases hp : t.phase with
  | settled =>
    rw [hp] at h hr
    cases hr
    exact h.1
  | crashed => exact absurd hp hc
  | _ => rw [hp] at hr; cases hr

theorem TaskRun.Sound.summary {t : TaskRun} {r : InstanceResult} (h : t.Sound)
    (hr : t.result? = some r) : r.summary = t.inst.summary := by
  by_cases hc : t.phase = .crashed
  · rw [TaskRun.result?, hc] at hr
    cases hr
    rfl
  · exact (h.result hc hr).summary

/-- What a job came to has a result for each task, in order, with the summary of its instance. -/
theorem JobRun.map_summary {run : JobRun} {result : JobResult} (hs : ∀ t ∈ run.tasks, t.Sound)
    (hr : run.result? = some result) :
    result.instances.map (·.summary) = run.tasks.map (·.inst.summary) := by
  obtain ⟨rs, hrs, rfl⟩ := Option.map_eq_some_iff.mp hr
  rw [← List.forall₂_eq_eq_eq, List.forall₂_map_left_iff, List.forall₂_map_right_iff]
  have hself : List.Forall₂ Eq run.tasks run.tasks := List.forall₂_same.mpr fun _ _ => rfl
  exact forall₂_of_common (forall₂_of_mapM_eq_some hrs) hself
    fun t ht r u hr htu => htu ▸ (hs t ht).summary hr

/-- A job that is over has a result for each task, in order, with the summary of its instance, and
the table shows how each of them has ended. -/
theorem JobRun.Fits.exists_result {run : JobRun} {stopped : Bool} (h : run.Fits stopped)
    (hs : ∀ t ∈ run.tasks, t.Sound) (hover : run.isOver = true) :
    ∃ result, run.result? = some result ∧
      result.instances.map (·.summary) = run.tasks.map (·.inst.summary) ∧
      run.table.states = result.instances.map (·.status.state) := by
  obtain ⟨rs, hr, hrs⟩ := run.exists_result hover
  refine ⟨_, hr, run.map_summary hs hr, ?_⟩
  rw [← List.forall₂_eq_eq_eq, List.forall₂_map_right_iff]
  exact forall₂_of_common h hrs fun t _ entry r hfit htr => hfit.eq_state htr

/-- The table of a job in a run without breakdowns. Every state that a task can request is legal and
granted; what a task has requested so far is a lifecycle, and its entry shows how far it has come.
Once the job is over it has a result for each instance, in order, with its summary, and the entry
of each instance is the end that its result tells. -/
theorem Runs.table_agrees {plan : JobPlan} {is : List Instance} {run : JobRun}
    (h : Runs Calm (RunState.start plans) trace s) (hp : plans[k]? = some plan)
    (his : plan.instances = .ok is) (hk : s.job? k = some run) :
    (∀ services j t mv a next, run.tasks[j]? = some t →
      t.perform services run.policy run.hasSlot (s.signals.isRaised k) mv = some a →
      a.request = some next →
      ∃ current table, run.table.get? j = some current ∧ current.canMoveTo next = true ∧
        run.table.request j next = .ok (current, table) ∧ (run.apply j a).table = table) ∧
    (∀ j < is.length, (∃ asked, Requests Calm (RunState.start plans) k j trace asked s) ∧
      ∀ asked, Requests Calm (RunState.start plans) k j trace asked s →
        InstanceState.IsLifecycle (.pending :: asked) ∧
        run.table.get? j = (InstanceState.pending :: asked).getLast?) ∧
    (run.isOver = true → ∃ result, run.result? = some result ∧
      result.instances.map (·.summary) = is.map (·.summary) ∧
      run.table.states = result.instances.map (·.status.state) ∧
      ∀ entry ∈ run.table.states, entry.isTerminal = true) := by
  have hfits := h.fits hk
  have his : run.tasks.map (·.inst) = is := by
    have := (h.job?_eq_plan hk hp).2.2
    rw [his] at this
    exact (Except.ok.inj this).symm
  refine ⟨fun services j t mv a next ht ha hreq =>
    (TaskRun.perform_step ha).granted hfits ht hreq, fun j hj => ⟨h.exists_requests k j, ?_⟩, ?_⟩
  · intro asked hasked
    have hlt : j < run.tasks.length := by simpa [← his] using hj
    obtain ⟨hchain, hentry⟩ := hasked.granted hk hlt
    exact ⟨InstanceState.isLifecycle_of_isChain hchain, hentry⟩
  · intro hover
    obtain ⟨result, hr, hsummary, hstates⟩ := hfits.exists_result (h.sound hk) hover
    refine ⟨result, hr, by simp [hsummary, ← his], hstates, ?_⟩
    rw [hstates, List.forall_mem_map]
    exact fun r _ => r.status.isTerminal_state

/-- The first instance fails, which cancels the second one before it has begun. -/
theorem Runs.table_agrees_sample : ∃ trace s run result,
    Runs Calm (RunState.start [Sample.plan ⟨true, some 1⟩]) trace s ∧ s.job? 0 = some run ∧
    run.result? = some result ∧ result.instances.map (·.status) = [.failed, .cancelled] ∧
    run.table.states = [.failed, .cancelled] ∧
    result.instances.map (·.summary) = [(Sample.inst 0).summary, (Sample.inst 1).summary] := by
  obtain ⟨trace, s, h, -, hcheck⟩ := RunState.exists_runs Calm Sample.services
    (RunState.start [Sample.plan ⟨true, some 1⟩])
    (Sample.upToCall 0 ++ Sample.afterReply 0 1 3 ++ List.replicate 5 (.task 0 1 .go))
    (fun s => (s.job? 0).any fun run => run.isOver && run.result?.any fun result =>
      result.instances.map (·.status) == [.failed, .cancelled])
    (by decide) (by simp [Calm, Sample.upToCall, Sample.afterReply])
  rw [Option.any_eq_true] at hcheck
  obtain ⟨run, hk, hcheck⟩ := hcheck
  rw [Bool.and_eq_true] at hcheck
  obtain ⟨hover, hcheck⟩ := hcheck
  have hplan : [Sample.plan ⟨true, some 1⟩][0]? = some (Sample.plan ⟨true, some 1⟩) := rfl
  obtain ⟨-, -, hresult⟩ := Runs.table_agrees h hplan rfl hk
  obtain ⟨result, hr, hsummary, hstates, -⟩ := hresult hover
  have hstatus : result.instances.map (·.status) = [.failed, .cancelled] := by
    simpa [hr] using hcheck
  refine ⟨trace, s, run, result, h, hk, hr, hstatus, ?_, hsummary⟩
  have hstate := congrArg (List.map RunStatus.state) hstatus
  rw [List.map_map] at hstate
  exact hstates.trans hstate

end Runs

end MatrixFlow
