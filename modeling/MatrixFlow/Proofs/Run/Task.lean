import MatrixFlow.Run.System

/-!
# Moves of tasks

What a task can do, case by case, so that no later proof has to unfold `TaskRun.perform`.

* `StepOutcome.Green`: a step that succeeded, with exit code zero. Every other step that ends has a
  failure (`closeStep_green`).
* `StepLeads`: where a step leads, from its begin or from a reply: to another call, to the next
  step, or to the failure of the instance.
* `TaskStep`: a move of a task with what comes of it. `TaskRun.perform_step` shows that there are no
  others.
-/

namespace MatrixFlow

/-! ## Steps -/

/-- The step succeeded, with exit code zero. -/
def StepOutcome.Green (o : StepOutcome) : Prop := o.failure = none ∧ o.exitCode = some 0

/-- The outcome is that of a step at a position. -/
def StepOutcome.IsOf (o : StepOutcome) (k : Nat) (step : Step) : Prop :=
  o.index = k ∧ o.identifier = step.identifier k ∧ o.displayName = step.displayName

theorem classify_green {limit : Option Duration} {reply : Reply}
    (h : (classify limit reply).2 = none) : (classify limit reply).1.exitCode = some 0 := by
  unfold classify at h ⊢
  split at h
  · cases h
  · rename_i o
    split at h
    · cases h
    · split at h
      · rename_i ht hs
        simp only [ht, hs, ↓reduceIte]
        simp only [CommandOutput.isSuccess, Bool.and_eq_true, beq_iff_eq] at hs
        exact hs.2
      · cases h

theorem isLate_none (spent : Duration) : isLate none spent = false := by
  rw [isLate, Option.any_none]

theorem isLate_some (limit spent : Duration) :
    isLate (some limit) spent = decide ((patience limit).nanos < spent.nanos) := by
  rw [isLate, Option.any_some]

theorem isLate_zero (limit : Option Duration) : isLate limit Duration.zero = false := by
  cases limit with
  | none => exact isLate_none _
  | some limit => rw [isLate_some, decide_eq_false_iff_not]; exact Nat.not_lt_zero _

theorem isLate_mono {limit : Option Duration} {spent spent' : Duration}
    (h : isLate limit spent = true) (hle : spent.nanos ≤ spent'.nanos) :
    isLate limit spent' = true := by
  cases limit with
  | none => rw [isLate_none] at h; cases h
  | some limit =>
    rw [isLate_some, decide_eq_true_eq] at h ⊢
    exact Nat.lt_of_lt_of_le h hle

section CloseStep

variable (services : Services) (i : Instance) (p : Progress) (step : Step) (reply : Reply)

theorem closeStep_isOf : (closeStep services i p step reply).outcome.IsOf p.index step :=
  ⟨rfl, rfl, rfl⟩

theorem closeStep_green (h : (closeStep services i p step reply).outcome.failure = none) :
    (closeStep services i p step reply).outcome.Green :=
  ⟨h, classify_green h⟩

end CloseStep

/-- Where a step leads. -/
inductive StepLeads (i : Instance) (p : Progress) (step : Step) (rest : List Step) : Phase → Prop
  /-- To another call. -/
  | call (spent : Duration) (call : Call) (next : Reply → Dialogue) :
      StepLeads i p step rest (.asking p step rest spent call next)
  /-- To the next step, because it succeeded. -/
  | next {o : StepOutcome} {env : StepEnv} (ho : o.IsOf p.index step) (hg : o.Green) :
      StepLeads i p step rest (.between ⟨p.index + 1, env, p.outcomes ++ [o]⟩ rest)
  /-- To the end of the instance, because it failed. -/
  | failure {o : StepOutcome} (ho : o.IsOf p.index step) (hf : o.failure ≠ none) :
      StepLeads i p step rest (.leaving (i.resultOf .failed (p.outcomes ++ [o])))

section Leads

variable (services : Services) (i : Instance) (p : Progress) (step : Step) (rest : List Step)

theorem endStep_leads (reply : Reply) :
    StepLeads i p step rest (endStep services i p step rest reply).1 := by
  unfold endStep
  dsimp only
  split
  · rename_i hf
    exact .failure (closeStep_isOf ..) (Option.isSome_iff_ne_none.mp hf)
  · rename_i hf
    exact .next (closeStep_isOf ..) (closeStep_green _ _ _ _ _ (by simpa using hf))

theorem converse_leads (spent : Duration) (d : Dialogue) :
    StepLeads i p step rest (converse services i p step rest spent d).1 := by
  cases d with
  | ask call next => exact .call spent call next
  | done reply => exact endStep_leads services i p step rest reply

theorem beginStep_leads : StepLeads i p step rest (beginStep services i p step rest).1 :=
  converse_leads services i p step rest _ _

theorem takeReply_leads (spent : Duration) (next : Reply → Dialogue) (reply : Reply) :
    StepLeads i p step rest (takeReply services i p step rest spent next reply).1 := by
  unfold takeReply
  split
  · exact endStep_leads services i p step rest lateReply
  · exact converse_leads services i p step rest spent (next reply)

end Leads

/-! ## Moves -/

/-- What a task can do, when there is a free slot or not, and its group has been told to stop or
not. -/
inductive TaskStep (services : Services) (policy : DispatchPolicy) (free stopped : Bool)
    (t : TaskRun) : TaskMove → Advance → Prop
  | grant (hp : t.phase = .waiting) (hfree : free = true) (hslot : t.slot = false) :
      TaskStep services policy free stopped t .grant { phase := .waiting, slot := true }
  | leaveLine (hp : t.phase = .waiting) (hs : stopped = true) :
      TaskStep services policy free stopped t .go { phase := .opening, slot := false }
  | pass (hp : t.phase = .waiting) (hs : stopped = false)
      (hslot : t.slot = true ∨ policy.maxParallel = none) :
      TaskStep services policy free stopped t .go { phase := .opening, slot := t.slot }
  | refuse (hp : t.phase = .opening) (hs : stopped = true) :
      TaskStep services policy free stopped t .go
        (t.goTo (.leaving (InstanceResult.cancelled t.inst.summary), []))
  | allow (hp : t.phase = .opening) (hs : stopped = false) :
      TaskStep services policy free stopped t .go (t.goTo (.entering, []))
  | enter (hp : t.phase = .entering) :
      TaskStep services policy free stopped t .go
        { t.goTo (.between (Progress.start t.inst) t.inst.job.steps, [t.inst.startedEvent]) with
          request := some .running }
  | finish {p : Progress} (hp : t.phase = .between p []) :
      TaskStep services policy free stopped t .go
        (t.goTo (.leaving (t.inst.resultOf .succeeded p.outcomes), []))
  | cancel {p : Progress} {step : Step} {rest : List Step} (hp : t.phase = .between p (step :: rest))
      (hs : stopped = true) :
      TaskStep services policy free stopped t .go
        (t.goTo (.leaving (t.inst.resultOf .cancelled p.outcomes), []))
  | launch {p : Progress} {step : Step} {rest : List Step} (hp : t.phase = .between p (step :: rest))
      (hs : stopped = false) :
      TaskStep services policy free stopped t .go (t.goTo (beginStep services t.inst p step rest))
  | record {r : InstanceResult} (hp : t.phase = .leaving r) :
      TaskStep services policy free stopped t .go
        { t.goTo (.recorded r, [t.inst.completedEvent r.status]) with
          request := some r.status.state }
  | tell {r : InstanceResult} (hp : t.phase = .recorded r) :
      TaskStep services policy free stopped t .go
        { t.goTo (.releasing r, []) with raises := policy.failFast && r.status == .failed }
  | release {r : InstanceResult} (hp : t.phase = .releasing r) :
      TaskStep services policy free stopped t .go { phase := .settled r, slot := false }
  | reply {p : Progress} {step : Step} {rest : List Step} {spent : Duration} {call : Call}
      {next : Reply → Dialogue} {after : Duration} {reply : Reply}
      (hp : t.phase = .asking p step rest spent call next) :
      TaskStep services policy free stopped t (.reply after reply)
        (t.goTo (takeReply services t.inst p step rest (spent.add after) next reply))
  | crash {p : Progress} {step : Step} {rest : List Step} {spent : Duration} {call : Call}
      {next : Reply → Dialogue} (hp : t.phase = .asking p step rest spent call next) :
      TaskStep services policy free stopped t .crash
        { phase := .crashed, slot := false, request := some .failed }

namespace TaskRun

variable {services : Services} {policy : DispatchPolicy} {free stopped : Bool} {t : TaskRun}

theorem go_step {a : Advance} (h : t.go services policy stopped = some a) :
    TaskStep services policy free stopped t .go a := by
  unfold go at h
  split at h <;> rename_i hp
  · -- waiting
    split at h
    · cases h; exact .leaveLine hp ‹_›
    · rename_i hs
      split at h <;> cases h
      rename_i hslot
      exact .pass hp (by simpa using hs) (by simpa using hslot)
  · cases h
    cases stopped
    · exact .allow hp rfl
    · exact .refuse hp rfl
  · cases h; exact .enter hp
  · cases h; exact .finish hp
  · cases h
    cases stopped
    · exact .launch hp rfl
    · exact .cancel hp rfl
  · cases h; exact .record hp
  · cases h; exact .tell hp
  · cases h; exact .release hp
  all_goals cases h

theorem perform_step {mv : TaskMove} {a : Advance}
    (h : t.perform services policy free stopped mv = some a) :
    TaskStep services policy free stopped t mv a := by
  cases mv with
  | grant =>
    simp only [perform] at h
    split at h
    · rename_i hp
      split at h <;> cases h
      rename_i hc
      rw [Bool.and_eq_true] at hc
      exact .grant hp hc.1 (by simpa using hc.2)
    · cases h
  | go => exact go_step h
  | reply after reply =>
    simp only [perform] at h
    split at h
    · cases h; exact .reply ‹_›
    · cases h
  | crash =>
    simp only [perform] at h
    split at h
    · cases h; exact .crash ‹_›
    · cases h

end TaskRun

end MatrixFlow
