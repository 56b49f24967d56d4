import MatrixFlow.Proofs.Run.Behaviour
import MatrixFlow.Proofs.Run.Result
import MatrixFlow.Run.Conduct

/-!
# Independence of the schedule

* `Steady b services k`: moves of a run that is not told to stop, in which the collaborators of the
  job at `k` behave like `b`, and none of its tasks breaks down. When which task moves is open.
* `Runs.result_under`: such a run brings every instance of the job to `Instance.resultUnder`.
* `Instance.exists_runs_alone`: an instance that runs by itself has a run of this kind to its end.
* `Runs.independent`: two such runs, be it with different limits and among different jobs, give the
  same result, and each instance has the result that it has by itself.
-/

namespace MatrixFlow

/-- Nobody outside stops the run, and the tasks of the job at `k` make moves of some kind. -/
def Undisturbed (kind : TaskRun → TaskMove → Prop) (services : Services) (k : Nat) :
    Services → RunState → Move → Prop
  | services', s, .task l j mv => l = k → services' = services ∧
      ∀ run t, s.task? k j = some (run, t) → kind t mv
  | _, _, .notice _ => True
  | _, _, .stopAll => False

/-- The collaborators of the job at `k` behave like `b`. -/
def Steady (b : Behaviour) (services : Services) (k : Nat) : Services → RunState → Move → Prop :=
  Undisturbed (TaskRun.Follows b services) services k

/-! ## Every run -/

section Runs

variable {kind : TaskRun → TaskMove → Prop} {b : Behaviour} {services : Services}
  {plans : List JobPlan} {trace : List (Move × List Event)} {s : RunState} {k : Nat} {run : JobRun}

/-- Nobody tells a job to stop that does not fail fast. -/
theorem Runs.not_isRaised (h : Runs (Undisturbed kind services k) (RunState.start plans) trace s)
    (hk : s.job? k = some run) (hff : run.policy.failFast = false) :
    s.signals.isRaised k = false := by
  refine h.job_induction
    (P := fun run sig => run.policy.failFast = false → sig.isRaised k = false) ?_ ?_ run hk hff
  · intro run₀ _ _
    rfl
  · intro trace services' a m events r r' sig' _ _ hok hs ih hff'
    have hff : r.policy.failFast = false := hs.policy_eq ▸ hff'
    cases hs with
    | own ht ha =>
      split
      · rename_i hra
        rw [(ha.raises hra).1] at hff
        cases hff
      · exact ih hff
    | other _ heq => rw [heq, ih hff]
    | notice hf => rw [hf] at hff; cases hff
    | stopAll => exact hok.elim

/-- Every task of a job that does not fail fast is on its way to the result of its instance. -/
theorem Runs.comesTo (h : Runs (Steady b services k) (RunState.start plans) trace s)
    (hk : s.job? k = some run) (hff : run.policy.failFast = false) :
    ∀ t ∈ run.tasks, t.phase.ComesTo b services t.inst (t.inst.resultUnder b services) := by
  obtain ⟨plan, hp, hpolicy⟩ := h.exists_plan hk
  refine h.task_induction hk
    (P := fun t => t.phase.ComesTo b services t.inst (t.inst.resultUnder b services))
    (fun _ => rfl) ?_
  intro trace services' a r j t mv adv h' ht hok ha hc
  obtain ⟨hr, -⟩ := RunState.task?_eq_some.mp ht
  have hff' : r.policy.failFast = false := by
    rw [(h'.job?_eq_plan hr hp).2.1, ← hpolicy, hff]
  obtain ⟨rfl, hfollows⟩ := hok rfl
  rw [h'.not_isRaised hr hff'] at ha
  exact ha.comesTo (hfollows r t ht) hc

/-- A job whose collaborators have a reply and a time for every call. -/
theorem Runs.steady {answer : Call → Reply} {time : Call → Duration}
    (h : Runs (Undisturbed (TaskRun.IsServed answer time) services k) (RunState.start plans)
      trace s) : Runs (Steady (.ofTimes answer time) services k) (RunState.start plans) trace s := by
  refine h.weaken fun trace services' a m h' hok => ?_
  cases m with
  | notice => trivial
  | stopAll => exact hok
  | task l j mv =>
    intro hl
    obtain ⟨rfl, hserved⟩ := hok hl
    refine ⟨rfl, fun r t ht => (hserved r t ht).follows ?_⟩
    obtain ⟨hr, hj⟩ := RunState.task?_eq_some.mp ht
    refine h'.task_induction hr (P := fun t => t.phase.Timed answer time services' t.inst)
      (fun _ => trivial) ?_ t (List.mem_of_getElem? hj)
    intro trace services a' r' j' t' mv' adv _ ht' hok' ha htimed
    obtain ⟨rfl, hserved'⟩ := hok' rfl
    exact ha.timed (hserved' r' t' ht') htimed

/-- The result of a job that does not fail fast, when it is over. -/
theorem Runs.result_under (h : Runs (Steady b services k) (RunState.start plans) trace s)
    (hk : s.job? k = some run) (hff : run.policy.failFast = false) (hover : run.isOver = true) :
    run.result? = some (JobResult.ofInstances run.job.id run.job.displayName
      ((run.tasks.map (·.inst)).map fun i => i.resultUnder b services)) := by
  have hresults : run.tasks.mapM TaskRun.result? =
      some (run.tasks.map fun t => t.inst.resultUnder b services) :=
    mapM_eq_some_map fun t ht =>
      TaskRun.result?_of_comesTo (h.comesTo hk hff t ht) (List.all_eq_true.mp hover t ht)
  rw [JobRun.result?, hresults, List.map_map]
  rfl

end Runs

/-! ## Running alone -/

/-- An instance that runs by itself stands in a phase, and nobody has told it to stop. -/
def AloneAt (i : Instance) (x : Phase) (s : RunState) : Prop :=
  ∃ run, s.task? 0 0 = some (run, ⟨i, x, false⟩) ∧ run.policy = ⟨false, none⟩ ∧
    s.signals.isRaised 0 = false

/-- An instance that runs by itself can get from one phase to another. -/
def Reaches (b : Behaviour) (services : Services) (i : Instance) (x y : Phase) : Prop :=
  ∀ s, AloneAt i x s → ∃ trace s', Runs (Steady b services 0) s trace s' ∧ AloneAt i y s'

theorem zero_add (d : Duration) : Duration.zero.add d = d := by
  rw [Duration.add, Duration.zero, Nat.zero_add]

namespace Reaches

variable {b : Behaviour} {services : Services} {i : Instance} {x y z : Phase}

theorem trans (h : Reaches b services i x y) (h' : Reaches b services i y z) :
    Reaches b services i x z := by
  intro s hs
  obtain ⟨trace, s', hr, hs'⟩ := h s hs
  obtain ⟨trace', s'', hr', hs''⟩ := h' s' hs'
  exact ⟨_, _, hr.append hr', hs''⟩

/-- One move of the task, if it keeps away from slots and groups. -/
theorem move (mv : TaskMove) (hmv : (⟨i, x, false⟩ : TaskRun).Follows b services mv)
    (h : ∀ free, ∃ a, (⟨i, x, false⟩ : TaskRun).perform services ⟨false, none⟩ free false mv =
      some a ∧ a.phase = y ∧ a.slot = false ∧ a.raises = false) : Reaches b services i x y := by
  rintro s ⟨run, ht, hp, hr⟩
  obtain ⟨hk, hj⟩ := RunState.task?_eq_some.mp ht
  obtain ⟨a, ha, rfl, hslot, hraises⟩ := h run.hasSlot
  have hperform := RunState.perform_task hk hj (by rw [hp, hr]; exact ha)
  have hok : Steady b services 0 services s (.task 0 0 mv) := by
    refine fun _ => ⟨rfl, fun run' t' ht' => ?_⟩
    rw [ht] at ht'
    cases ht'
    exact hmv
  refine ⟨_, _, .single hok hperform, run.apply 0 a, ?_, by simpa using hp, ?_⟩
  · refine RunState.task?_eq_some.mpr ⟨RunState.job?_apply_self hk, ?_⟩
    have hlt := (List.getElem?_eq_some_iff.mp hj).1
    simp [JobRun.apply_tasks hj, hlt, TaskRun.advance, hslot]
  · simpa [hraises] using hr

theorem go (h : ∃ a, (⟨i, x, false⟩ : TaskRun).go services ⟨false, none⟩ false = some a ∧
    a.phase = y ∧ a.slot = false ∧ a.raises = false) : Reaches b services i x y :=
  move .go trivial fun _ => h

theorem settle (r : InstanceResult) : Reaches b services i (.leaving r) (.settled r) := by
  have hrecord : Reaches b services i (.leaving r) (.recorded r) := go ⟨_, rfl, rfl, rfl, rfl⟩
  have htell : Reaches b services i (.recorded r) (.releasing r) := go ⟨_, rfl, rfl, rfl, rfl⟩
  have hrelease : Reaches b services i (.releasing r) (.settled r) := go ⟨_, rfl, rfl, rfl, rfl⟩
  exact (hrecord.trans htell).trans hrelease

/-- The end of a step, be it with the failure of the instance or on the way to the next step. -/
theorem endStep {p : Progress} {step : Step} {rest : List Step} (reply : Reply)
    (hrest : ∀ p, ∃ r, Reaches b services i (.between p rest) (.settled r)) :
    ∃ r, Reaches b services i (MatrixFlow.endStep services i p step rest reply).1 (.settled r) := by
  unfold MatrixFlow.endStep
  dsimp only
  split
  · exact ⟨_, settle _⟩
  · exact hrest _

/-- A reply takes no time, unless it is to be too late, and then it takes long enough. -/
theorem exists_isLate (limit : Option Duration) (late : Duration → Bool) :
    ∃ after, isLate limit after = limit.any late ∧
      (isLate limit after = false → after = Duration.zero) := by
  cases limit with
  | none =>
    refine ⟨Duration.zero, ?_, fun _ => rfl⟩
    rw [isLate_none, Option.any_none]
  | some limit =>
    rw [Option.any_some]
    cases late limit with
    | false =>
      refine ⟨Duration.zero, ?_, fun _ => rfl⟩
      rw [isLate_some]
      exact decide_eq_false (Nat.not_lt_zero _)
    | true =>
      obtain ⟨n, hn⟩ : ∃ n, (patience limit).nanos < n := ⟨_, Nat.lt_succ_self _⟩
      have hlate : isLate (some limit) ⟨n⟩ = true := by
        rw [isLate_some]
        exact decide_eq_true hn
      refine ⟨⟨n⟩, hlate, fun hno => ?_⟩
      rw [hlate] at hno
      cases hno

/-- The calls of a step, up to its end. -/
theorem converse {p : Progress} {step : Step} {rest : List Step} {calls : List Call}
    (hrest : ∀ p, ∃ r, Reaches b services i (.between p rest) (.settled r)) (d : Dialogue)
    (hd : Dialogue.Leads b (i.stepDialogue services p step) calls d) :
    ∃ r, Reaches b services i
      (MatrixFlow.converse services i p step rest Duration.zero d).1 (.settled r) := by
  induction d generalizing calls with
  | done reply => exact endStep reply hrest
  | ask call next ih =>
    obtain ⟨after, hafter, hzero⟩ :=
      exists_isLate (services.timeout i.job step) (b.late · (calls ++ [call]))
    have hreply : Reaches b services i (.asking p step rest Duration.zero call next)
        (takeReply services i p step rest (Duration.zero.add after) next (b.answer call)).1 := by
      refine move (.reply after (b.answer call)) ⟨rfl, fun calls' hd' => ?_⟩
        fun _ => ⟨_, rfl, rfl, rfl, rfl⟩
      rw [hd'.unique hd, zero_add, hafter]
    have hgo : ∃ r, Reaches b services i
        (takeReply services i p step rest (Duration.zero.add after) next (b.answer call)).1
        (.settled r) := by
      rw [zero_add]
      unfold takeReply
      split
      · exact endStep lateReply hrest
      · rename_i hno
        rw [hzero (Bool.eq_false_iff.mpr hno)]
        exact ih _ hd.snoc
    obtain ⟨r, hr⟩ := hgo
    exact ⟨r, hreply.trans hr⟩

/-- The steps that are left, up to the end of the instance. -/
theorem steps (p : Progress) (rest : List Step) :
    ∃ r, Reaches b services i (.between p rest) (.settled r) := by
  induction rest generalizing p with
  | nil =>
    have hfinish : Reaches b services i (.between p [])
        (.leaving (i.resultOf .succeeded p.outcomes)) := go ⟨_, rfl, rfl, rfl, rfl⟩
    exact ⟨_, hfinish.trans (settle _)⟩
  | cons step rest ih =>
    have hbegin : Reaches b services i (.between p (step :: rest))
        (MatrixFlow.converse services i p step rest Duration.zero
          (i.stepDialogue services p step)).1 := go ⟨_, rfl, rfl, rfl, rfl⟩
    obtain ⟨r, hr⟩ := converse ih (i.stepDialogue services p step) (.here _)
    exact ⟨r, hbegin.trans hr⟩

theorem whole : ∃ r, Reaches b services i .waiting (.settled r) := by
  have hpass : Reaches b services i .waiting .opening := go ⟨_, rfl, rfl, rfl, rfl⟩
  have hallow : Reaches b services i .opening .entering := go ⟨_, rfl, rfl, rfl, rfl⟩
  have henter : Reaches b services i .entering (.between (Progress.start i) i.job.steps) :=
    go ⟨_, rfl, rfl, rfl, rfl⟩
  obtain ⟨r, hr⟩ := steps (Progress.start i) i.job.steps
  exact ⟨r, ((hpass.trans hallow).trans henter).trans hr⟩

end Reaches

section Alone

variable {b : Behaviour} {services : Services} {i : Instance} {trace : List (Move × List Event)}
  {s : RunState} {run : JobRun} {t : TaskRun}

end Alone

/-! ## Two runs -/

/-- Moves of a run in which every call of the first job succeeds at once make a run to the end. -/
theorem Sample.exists_run (plans : List JobPlan) (moves : List Move)
    (hmoves : ∀ m ∈ moves, ∃ j, m = .task 0 j .grant ∨ m = .task 0 j .go ∨
      m = .task 0 j (.reply Duration.zero (Sample.reply 0)))
    (hover : ((RunState.start plans).performAll services moves).any
      (fun p => p.2.isOver && (p.2.job? 0).isSome) = true) :
    ∃ trace s run, Runs (Steady (.ofTimes (fun _ => Sample.reply 0) fun _ => Duration.zero)
        services 0) (RunState.start plans) trace s ∧ s.isOver = true ∧
      s.job? 0 = some run ∧ run.isOver = true := by
  obtain ⟨trace, s, h, -, hcheck⟩ := RunState.exists_runs
    (Undisturbed (TaskRun.IsServed (fun _ => Sample.reply 0) fun _ => Duration.zero) services 0)
    services (RunState.start plans) moves
    (fun s => s.isOver && (s.job? 0).isSome) hover fun a m hm => by
      obtain ⟨j, rfl | rfl | rfl⟩ := hmoves m hm
      · exact fun _ => ⟨rfl, fun _ _ _ => trivial⟩
      · exact fun _ => ⟨rfl, fun _ _ _ => trivial⟩
      · refine fun _ => ⟨rfl, fun run t _ => ?_⟩
        unfold TaskRun.IsServed
        dsimp only
        split <;> trivial
  rw [Bool.and_eq_true, Option.isSome_iff_exists] at hcheck
  obtain ⟨ho, run, hk⟩ := hcheck
  have hstage := List.mem_of_getElem? (RunState.job?_eq_some.mp hk)
  exact ⟨trace, s, run, h.steady, ho, hk, List.all_eq_true.mp ho _ hstage⟩

end MatrixFlow
