import MatrixFlow.Proofs.Run.Table

/-!
# Slots

* `TaskRun.mayFail`: the instance has failed, or can fail before its next check.
* `JobRun.Bounded m`: no more slots are taken than there are, and no more instances of a job that
  fails fast have failed or can fail. A task that can fail has a slot until its group is told to
  stop, and nobody begins to be able to fail after that.
* `Runs.bounded`: every run without breakdowns keeps these bounds.
* `Runs.exists_canMove`: some task of a job that is not over can move, at the latest when the
  collaborators come back.
* `Runs.slots`: both for a job with a limit, in terms of its table and its result.
-/

namespace MatrixFlow

theorem JobRun.takenSlots_eq (run : JobRun) : run.takenSlots = run.tasks.countP TaskRun.slot :=
  List.countP_eq_length_filter.symm

/-! ## Bounds -/

namespace TaskRun

/-- It is decided that the instance fails. -/
def fails (t : TaskRun) : Bool := t.ending?.any (·.status == .failed)

/-- The instance fails, or can fail before its next check. -/
def mayFail (t : TaskRun) : Bool :=
  match t.phase with
  | .asking .. => true
  | _ => t.fails

theorem mayFail_of_fails {t : TaskRun} (h : t.fails = true) : t.mayFail = true := by
  unfold mayFail
  split
  · rfl
  · exact h

end TaskRun

section Task

variable {services : Services} {policy : DispatchPolicy} {free stopped : Bool} {t : TaskRun}
  {mv : TaskMove} {a : Advance} {entry : InstanceState}

/-- With a limit, a task that can fail has a slot, as long as its group has not been told to
stop. -/
theorem TaskRun.Fits.slot_of_mayFail {m : Nat} (h : t.Fits policy false entry)
    (hm : policy.maxParallel = some m) (hff : policy.failFast = true) (hf : t.mayFail = true) :
    t.slot = true := by
  have hroom : t.HasRoom policy → t.slot = true := fun hr => hr.resolve_right (by simp [hm])
  unfold Fits at h
  unfold mayFail fails ending? at hf
  cases hp : t.phase with
  | asking => rw [hp] at h; exact hroom h.2
  | leaving r =>
    rw [hp] at h hf
    obtain ⟨-, hc⟩ | ⟨-, hr⟩ := h
    · simp [hc] at hf
    · exact hroom hr
  | recorded r =>
    rw [hp] at h hf
    exact hroom (h.2 (by simpa using hf))
  | releasing r =>
    rw [hp] at h hf
    exact absurd (h.2 hff (by simpa using hf)) (by simp)
  | settled r =>
    rw [hp] at h hf
    exact absurd (h.2.2 hff (by simpa using hf)) (by simp)
  | crashed => rw [hp] at h; exact h.elim
  | waiting | opening | entering | between => rw [hp] at hf; cases hf

/-- A task that the table shows as running has a slot, if there is a limit. -/
theorem TaskRun.Fits.slot_of_running {m : Nat} (h : t.Fits policy stopped .running)
    (hm : policy.maxParallel = some m) : t.slot = true := by
  have hroom : t.HasRoom policy → t.slot = true := fun hr => hr.resolve_right (by simp [hm])
  unfold Fits at h
  cases hp : t.phase with
  | between | asking => rw [hp] at h; exact hroom h.2
  | leaving r =>
    rw [hp] at h
    obtain ⟨hc, -⟩ | ⟨-, hr⟩ := h
    · cases hc
    · exact hroom hr
  | waiting => rw [hp] at h; cases h
  | opening | entering => rw [hp] at h; cases h.1
  | recorded r | releasing r | settled r =>
    rw [hp] at h
    have hr := h.1
    cases hs : r.status <;> rw [hs] at hr <;> cases hr
  | crashed => rw [hp] at h; exact h.elim

/-- Only a free slot is given away. -/
theorem TaskStep.slot (ha : TaskStep services policy free stopped t mv a)
    (h : (t.advance a).slot = true) : t.slot = true ∨ free = true := by
  cases ha with
  | grant _ hfree => exact .inr hfree
  | leaveLine | release | crash => cases h
  | _ => exact .inl h

/-- Once its group is told to stop, no task begins to be able to fail. -/
theorem TaskStep.mayFail (ha : TaskStep services policy free stopped t mv a)
    (hs : stopped = true ∨ a.raises = true) (hmv : mv ≠ .crash)
    (h : (t.advance a).mayFail = true) : t.mayFail = true := by
  cases ha with
  | launch _ hgo =>
    obtain hs | hr := hs
    · rw [hgo] at hs; cases hs
    · cases hr
  | record hp | tell hp | release hp =>
    unfold TaskRun.mayFail TaskRun.fails TaskRun.ending?
    rw [hp]
    exact h
  | reply hp =>
    unfold TaskRun.mayFail
    rw [hp]
  | crash => exact absurd rfl hmv
  | grant | leaveLine | pass | refuse | allow | enter | finish | cancel => cases h

end Task

namespace JobRun

/-- The bounds for a job with `m` slots. -/
structure Bounded (m : Nat) (run : JobRun) : Prop where
  taken : run.takenSlots ≤ max 1 m
  failing : run.policy.failFast = true → run.tasks.countP TaskRun.mayFail ≤ max 1 m

theorem bounded_start (m : Nat) (job : Job) (policy : DispatchPolicy) (is : List Instance) :
    (JobRun.start job policy is).Bounded m := by
  have hzero : ∀ p : TaskRun → Bool, (∀ i, p (TaskRun.start i) = false) →
      (JobRun.start job policy is).tasks.countP p = 0 := by
    intro p hp
    refine List.countP_eq_zero.mpr fun t ht => ?_
    obtain ⟨i, -, rfl⟩ := List.mem_map.mp ht
    simp [hp]
  refine ⟨?_, fun _ => ?_⟩
  · rw [takenSlots_eq, hzero TaskRun.slot fun _ => rfl]
    exact Nat.zero_le _
  · rw [hzero TaskRun.mayFail fun _ => rfl]
    exact Nat.zero_le _

/-- Before its group is told to stop, only tasks with a slot can fail. -/
theorem Fits.mayFail_le {run : JobRun} {m : Nat} (h : run.Fits false)
    (hm : run.policy.maxParallel = some m) (hff : run.policy.failFast = true) :
    run.tasks.countP TaskRun.mayFail ≤ run.takenSlots := by
  rw [takenSlots_eq]
  refine List.countP_mono_left fun t ht hf => ?_
  obtain ⟨j, hj⟩ := List.getElem?_of_mem ht
  obtain ⟨entry, -, hfit⟩ := exists_getElem?_of_forall₂ h hj
  exact hfit.slot_of_mayFail hm hff hf

end JobRun

section Step

variable {services : Services} {k m : Nat} {run run' : JobRun} {sig sig' : Signals} {mv : Move}
  {events : List Event}

theorem JobStep.taken (hs : JobStep services k run sig mv events run' sig')
    (hm : run.policy.maxParallel = some m) (h : run.takenSlots ≤ max 1 m) :
    run'.takenSlots ≤ max 1 m := by
  cases hs with
  | @own j mv t a ht ha =>
    rw [JobRun.takenSlots_eq] at h ⊢
    rw [JobRun.apply_tasks ht]
    by_cases hfree : run.hasSlot = true
    · have hlt : run.tasks.countP TaskRun.slot < max 1 m := by
        rw [JobRun.hasSlot, hm] at hfree
        rw [← JobRun.takenSlots_eq]
        simpa using hfree
      exact Nat.le_trans (countP_set_le_succ ht) hlt
    · have hslot : (t.advance a).slot = true → t.slot = true := fun hb =>
        (ha.slot hb).resolve_right hfree
      exact Nat.le_trans (countP_set_le ht hslot) h
  | other | notice | stopAll => exact h

/-- Once the group is told to stop, no more tasks can fail than before. -/
theorem JobStep.mayFail_le (hs : JobStep services k run sig mv events run' sig')
    (hmv : ∀ j, mv ≠ .task k j .crash) (hr : sig'.isRaised k = true) :
    run'.tasks.countP TaskRun.mayFail ≤ run.tasks.countP TaskRun.mayFail := by
  cases hs with
  | @own j mv t a ht ha =>
    have hcalm : mv ≠ .crash := by
      rintro rfl
      exact hmv j rfl
    have hstop : sig.isRaised k = true ∨ a.raises = true := by
      cases hra : a.raises with
      | true => exact .inr rfl
      | false => rw [hra] at hr; exact .inl hr
    rw [JobRun.apply_tasks ht]
    exact countP_set_le ht fun hf => ha.mayFail hstop hcalm hf
  | other | notice | stopAll => exact Nat.le_refl _

theorem JobStep.bounded (hs : JobStep services k run sig mv events run' sig')
    (hmv : ∀ j, mv ≠ .task k j .crash) (hm : run.policy.maxParallel = some m)
    (hfit : run'.Fits (sig'.isRaised k)) (h : run.Bounded m) : run'.Bounded m := by
  have htaken := hs.taken hm h.taken
  refine ⟨htaken, fun hff => ?_⟩
  cases hr : sig'.isRaised k with
  | true => exact Nat.le_trans (hs.mayFail_le hmv hr) (h.failing (hs.policy_eq ▸ hff))
  | false =>
    rw [hr] at hfit
    exact Nat.le_trans (hfit.mayFail_le (hs.policy_eq ▸ hm) hff) htaken

end Step

section Runs

variable {plans : List JobPlan} {trace : List (Move × List Event)} {s : RunState} {k m : Nat}
  {run : JobRun}

/-- Every run without breakdowns keeps the bounds. -/
theorem Runs.bounded (h : Runs Calm (RunState.start plans) trace s) (hk : s.job? k = some run)
    (hm : run.policy.maxParallel = some m) : run.Bounded m := by
  refine h.job_induction (P := fun run _ => run.policy.maxParallel = some m → run.Bounded m)
    ?_ ?_ run hk hm
  · intro run₀ h₀ _
    obtain ⟨plan, is, -, -, -, rfl⟩ := RunState.job?_start h₀
    exact JobRun.bounded_start _ _ _ _
  · intro trace services a mv events r r' sig' h hr hok hs ih hm'
    have hm₀ : r.policy.maxParallel = some m := hs.policy_eq ▸ hm'
    exact hs.bounded (hok k) hm₀ (hs.fits (hok k) (h.fits hr)) (ih hm₀)

end Runs

/-! ## Somebody can move -/

/-- The task can move by itself or be given a slot, or it waits for a collaborator, and can move
whatever the collaborator says. -/
def RunState.CanMove (services : Services) (s : RunState) (k j : Nat) : Prop :=
  (∃ mv, (mv = .grant ∨ mv = .go) ∧ (s.perform services (.task k j mv)).isSome = true) ∨
  ∀ after reply, (s.perform services (.task k j (.reply after reply))).isSome = true

namespace TaskRun

variable {services : Services} {policy : DispatchPolicy} {free stopped : Bool} {t : TaskRun}

/-- A task that is not over goes on by itself, or asks, or stands in line without a slot. -/
theorem go_cases (services : Services) (policy : DispatchPolicy) (stopped : Bool)
    (h : t.isOver = false) :
    (t.go services policy stopped).isSome = true ∨ (∃ p step rest spent call next,
      t.phase = .asking p step rest spent call next) ∨ (t.phase = .waiting ∧ t.slot = false) := by
  unfold isOver at h
  unfold go
  cases hp : t.phase with
  | waiting =>
    cases hs : t.slot with
    | false => exact .inr (.inr ⟨rfl, rfl⟩)
    | true => cases stopped <;> exact .inl rfl
  | asking p step rest spent call next => exact .inr (.inl ⟨p, step, rest, spent, call, next, rfl⟩)
  | between p rest => cases rest <;> exact .inl rfl
  | opening | entering | leaving | recorded | releasing => exact .inl rfl
  | settled | crashed => rw [hp] at h; cases h

/-- A task that has a slot is not over, if it fits the table. -/
theorem Fits.isOver_of_slot {entry : InstanceState} (h : t.Fits policy stopped entry)
    (hslot : t.slot = true) : t.isOver = false := by
  unfold Fits at h
  unfold isOver
  cases hp : t.phase with
  | settled =>
    rw [hp] at h
    rw [hslot] at h
    exact absurd h.2.1 (by simp)
  | crashed => rw [hp] at h; exact h.elim
  | _ => rfl

end TaskRun

theorem RunState.isSome_perform {services : Services} {s : RunState} {k j : Nat} {mv : TaskMove}
    {run : JobRun} {t : TaskRun} (hk : s.job? k = some run) (ht : run.tasks[j]? = some t)
    (h : (t.perform services run.policy run.hasSlot (s.signals.isRaised k) mv).isSome = true) :
    (s.perform services (.task k j mv)).isSome = true := by
  obtain ⟨a, ha⟩ := Option.isSome_iff_exists.mp h
  rw [perform_task hk ht ha]
  rfl

/-- A task that is not over can move, unless it stands in line without a slot. -/
theorem RunState.canMove_of_not_isOver {s : RunState} {k j : Nat} {run : JobRun} {t : TaskRun}
    (services : Services) (hk : s.job? k = some run) (ht : run.tasks[j]? = some t)
    (hover : t.isOver = false) : s.CanMove services k j ∨ (t.phase = .waiting ∧ t.slot = false) := by
  obtain hgo | ⟨p, step, rest, spent, call, next, hp⟩ | hw :=
    t.go_cases services run.policy (s.signals.isRaised k) hover
  · exact .inl (.inl ⟨.go, .inr rfl, isSome_perform hk ht hgo⟩)
  · refine .inl (.inr fun after reply => isSome_perform hk ht ?_)
    simp [TaskRun.perform, hp]
  · exact .inr hw

section Runs

variable {plans : List JobPlan} {trace : List (Move × List Event)} {s : RunState} {k m : Nat}
  {run : JobRun}

/-- Some task of a job that is not over can move. If all of them stand in line without a slot, none
is taken, and there is one to give. -/
theorem Runs.exists_canMove (h : Runs Calm (RunState.start plans) trace s)
    (hk : s.job? k = some run) (hover : run.isOver = false) (services : Services) :
    ∃ j, s.CanMove services k j := by
  obtain ⟨t, ht, ho⟩ := List.all_eq_false.mp hover
  obtain ⟨j, hj⟩ := List.getElem?_of_mem ht
  obtain hmove | ⟨hp, hslot⟩ :=
    RunState.canMove_of_not_isOver services hk hj (Bool.eq_false_iff.mpr ho)
  · exact ⟨j, hmove⟩
  by_cases hfree : run.hasSlot = true
  · refine ⟨j, .inl ⟨.grant, .inl rfl, RunState.isSome_perform hk hj ?_⟩⟩
    simp [TaskRun.perform, hp, hfree, hslot]
  cases hm : run.policy.maxParallel with
  | none =>
    refine ⟨j, .inl ⟨.go, .inr rfl, RunState.isSome_perform hk hj ?_⟩⟩
    simp only [TaskRun.perform, TaskRun.go, hp, hm, Option.isNone_none, Bool.or_true, if_true]
    split <;> rfl
  | some m =>
    have htaken : 0 < run.tasks.countP TaskRun.slot := by
      rw [JobRun.hasSlot, hm] at hfree
      rw [← JobRun.takenSlots_eq]
      have hge : ¬ run.takenSlots < max 1 m := by simpa using hfree
      omega
    obtain ⟨u, hu, hus⟩ := List.countP_pos_iff.mp htaken
    obtain ⟨l, hl⟩ := List.getElem?_of_mem hu
    obtain ⟨entry, -, hfit⟩ := exists_getElem?_of_forall₂ (h.fits hk) hl
    obtain hmove | ⟨-, hno⟩ :=
      RunState.canMove_of_not_isOver services hk hl (hfit.isOver_of_slot hus)
    · exact ⟨l, hmove⟩
    · rw [hus] at hno; cases hno

/-- A job with a limit of `m`, in every run without breakdowns: the table never shows more than `m`
instances as running, though one is always let through; if the job fails fast, no more than that
fail in all; and as long as the job is not over, one of its tasks can move. -/
theorem Runs.slots (h : Runs Calm (RunState.start plans) trace s) (hk : s.job? k = some run)
    (hm : run.policy.maxParallel = some m) :
    run.table.states.count .running ≤ max 1 m ∧
    (run.policy.failFast = true → run.tasks.countP TaskRun.fails ≤ max 1 m ∧
      ∀ result, run.result? = some result → result.count .failed ≤ max 1 m) ∧
    (run.isOver = false → ∀ services, ∃ j, s.CanMove services k j) := by
  have hb := h.bounded hk hm
  refine ⟨?_, fun hff => ?_, fun hover services => h.exists_canMove hk hover services⟩
  · refine Nat.le_trans (countP_le_of_forall₂ (h.fits hk) fun t entry hfit he => ?_)
      (JobRun.takenSlots_eq run ▸ hb.taken)
    rw [beq_iff_eq] at he
    subst he
    exact hfit.slot_of_running hm
  · have hfails : run.tasks.countP TaskRun.fails ≤ max 1 m :=
      Nat.le_trans (List.countP_mono_left fun _ _ hf => TaskRun.mayFail_of_fails hf)
        (hb.failing hff)
    refine ⟨hfails, fun result hr => ?_⟩
    rw [JobRun.result?, Option.map_eq_some_iff] at hr
    obtain ⟨rs, hrs, rfl⟩ := hr
    refine Nat.le_trans ?_ hfails
    rw [JobResult.count, ← List.countP_eq_length_filter]
    refine countP_le_of_forall₂ (forall₂_of_mapM_eq_some hrs) fun t r htr hf => ?_
    simpa [TaskRun.fails, TaskRun.result?_ending htr] using hf

/-- The first instance runs, and the second one stands in line. -/
theorem Runs.slots_sample : ∃ trace s run,
    Runs Calm (RunState.start [Sample.plan ⟨true, some 1⟩]) trace s ∧ s.job? 0 = some run ∧
    run.policy.maxParallel = some 1 ∧ run.table.states.count .running ≤ max 1 1 ∧
    run.tasks.countP TaskRun.fails ≤ max 1 1 ∧ ∃ j, s.CanMove Sample.services 0 j := by
  obtain ⟨trace, s, h, -, hcheck⟩ := RunState.exists_runs Calm Sample.services
    (RunState.start [Sample.plan ⟨true, some 1⟩]) (Sample.upToCall 0)
    (fun s => (s.job? 0).any fun run => run.policy == ⟨true, some 1⟩ && !run.isOver)
    (by decide) (by simp [Calm, Sample.upToCall])
  rw [Option.any_eq_true] at hcheck
  obtain ⟨run, hk, hcheck⟩ := hcheck
  rw [Bool.and_eq_true, beq_iff_eq] at hcheck
  obtain ⟨hp, hover⟩ := hcheck
  have hm : run.policy.maxParallel = some 1 := by rw [hp]
  obtain ⟨hrunning, hfailing, hmove⟩ := Runs.slots h hk hm
  exact ⟨trace, s, run, h, hk, hm, hrunning, (hfailing (by rw [hp])).1,
    hmove (by simpa using hover) Sample.services⟩

end Runs

end MatrixFlow
