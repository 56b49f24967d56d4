import MatrixFlow.Proofs.Run.Agreement

/-!
# What instances tell

* `Message`: an event with the place of the task that emits it; `eventsFrom place messages` are the
  events of one place, in order.
* `Instance.stepEvents i o`: what an instance tells about a step with the outcome `o`.
* `Instance.Tale i r told`: all that an instance with the result `r` tells, from its begin to its
  end.
* `Phase.Tells`: what a task in this phase has told so far. Every move keeps it, and so it holds in
  every run (`Runs.tells`).
-/

namespace MatrixFlow

/-! ## Messages -/

/-- An event, with the positions of the job and of the instance whose task emits it; none if the
run itself does. -/
abbrev Message := Option (Nat × Nat) × Event

/-- The task that makes a move. -/
def Move.place : Move → Option (Nat × Nat)
  | .task k j _ => some (k, j)
  | .notice _ | .stopAll => none

/-- The events of a place, in order. -/
def eventsFrom (place : Option (Nat × Nat)) (messages : List Message) : List Event :=
  (messages.filter (·.1 = place)).map (·.2)

/-- What the moves of a run tell, in order. -/
def messagesOf (trace : List (Move × List Event)) : List Message :=
  trace.flatMap fun (m, events) => events.map (m.place, ·)

section Messages

variable {place place' : Option (Nat × Nat)} {messages messages' : List Message}
  {events : List Event}

@[simp] theorem eventsFrom_nil : eventsFrom place [] = [] := rfl

@[simp] theorem eventsFrom_append :
    eventsFrom place (messages ++ messages') =
      eventsFrom place messages ++ eventsFrom place messages' := by
  simp [eventsFrom]

@[simp] theorem eventsFrom_map_self : eventsFrom place (events.map (place, ·)) = events := by
  simp [eventsFrom, List.filter_map, Function.comp_def]

theorem eventsFrom_eq_nil : eventsFrom place messages = [] ↔ ∀ m ∈ messages, m.1 ≠ place := by
  simp [eventsFrom]

theorem eventsFrom_map_ne (h : place' ≠ place) :
    eventsFrom place (events.map (place', ·)) = [] := by
  rw [eventsFrom_eq_nil, List.forall_mem_map]
  exact fun _ _ => h

@[simp] theorem messagesOf_nil : messagesOf [] = [] := rfl

theorem messagesOf_append (trace trace' : List (Move × List Event)) :
    messagesOf (trace ++ trace') = messagesOf trace ++ messagesOf trace' :=
  List.flatMap_append

@[simp] theorem messagesOf_concat (trace : List (Move × List Event)) (m : Move)
    (events : List Event) :
    messagesOf (trace ++ [(m, events)]) = messagesOf trace ++ events.map (m.place, ·) := by
  simp [messagesOf]

end Messages

/-! ## The tale of an instance -/

namespace Instance

/-- The event that a step begins. -/
def stepStartedEvent (i : Instance) (index : Nat) (displayName : String) : Event :=
  .stepStarted i.job.id i.label index displayName

/-- What the instance tells about a step from its reply on: the lines that it wrote to the output,
those that it wrote to the error output, the variables that it passes on, and how it ended. -/
def outcomeEvents (i : Instance) (o : StepOutcome) : List Event :=
  i.outputEvents o.index o.stdout false ++ i.outputEvents o.index o.stderr true ++
    (o.exported.map fun (name, value) => .envExported i.job.id i.label name value) ++
    [.stepCompleted i.job.id i.label o.index o.status o.exitCode
      (o.failure.map StepFailure.diagnostic)]

/-- What the instance tells about a step. -/
def stepEvents (i : Instance) (o : StepOutcome) : List Event :=
  i.stepStartedEvent o.index o.displayName :: i.outcomeEvents o

/-- What the instance tells when it begins and does steps. -/
def openingTale (i : Instance) (outcomes : List StepOutcome) : List Event :=
  i.startedEvent :: outcomes.flatMap i.stepEvents

/-- All that an instance with this result tells: its end alone, if it was cancelled before it
began; else its begin, its steps in order, and its end. -/
def Tale (i : Instance) (r : InstanceResult) (told : List Event) : Prop :=
  (r = InstanceResult.cancelled i.summary ∧ told = [i.completedEvent .cancelled]) ∨
    told = i.openingTale r.steps ++ [i.completedEvent r.status]

theorem openingTale_concat (i : Instance) (outcomes : List StepOutcome) (o : StepOutcome) :
    i.openingTale (outcomes ++ [o]) = i.openingTale outcomes ++ i.stepEvents o := by
  simp [openingTale]

end Instance

/-- What a task in this phase has told. -/
def Phase.Tells (i : Instance) (told : List Event) : Phase → Prop
  | .waiting | .opening | .entering => told = []
  | .between p _ => told = i.openingTale p.outcomes
  | .asking p step .. =>
    told = i.openingTale p.outcomes ++ [i.stepStartedEvent p.index step.displayName]
  | .leaving r =>
    (r = InstanceResult.cancelled i.summary ∧ told = []) ∨ told = i.openingTale r.steps
  | .recorded r | .releasing r | .settled r => i.Tale r told
  | .crashed => True

/-! ## One step -/

theorem closeStep_events (services : Services) (i : Instance) (p : Progress) (step : Step)
    (reply : Reply) : (closeStep services i p step reply).events =
      i.outcomeEvents (closeStep services i p step reply).outcome := rfl

section Step

variable (services : Services) (i : Instance) (p : Progress) (step : Step) (rest : List Step)
  {told : List Event}

theorem endStep_tells (reply : Reply)
    (h : told = i.openingTale p.outcomes ++ [i.stepStartedEvent p.index step.displayName]) :
    (endStep services i p step rest reply).1.Tells i
      (told ++ (endStep services i p step rest reply).2) := by
  have htold : told ++ (closeStep services i p step reply).events =
      i.openingTale (p.outcomes ++ [(closeStep services i p step reply).outcome]) := by
    obtain ⟨hindex, -, hname⟩ := closeStep_isOf services i p step reply
    rw [h, closeStep_events, i.openingTale_concat, Instance.stepEvents, hindex, hname]
    simp
  unfold endStep
  dsimp only
  split
  · exact .inr htold
  · exact htold

theorem converse_tells (spent : Duration) (d : Dialogue)
    (h : told = i.openingTale p.outcomes ++ [i.stepStartedEvent p.index step.displayName]) :
    (converse services i p step rest spent d).1.Tells i
      (told ++ (converse services i p step rest spent d).2) := by
  cases d with
  | ask call next => exact (List.append_nil told).trans h
  | done reply => exact endStep_tells services i p step rest reply h

theorem beginStep_tells (h : told = i.openingTale p.outcomes) :
    (beginStep services i p step rest).1.Tells i
      (told ++ (beginStep services i p step rest).2) := by
  have := converse_tells services i p step rest Duration.zero
    (services.dialogue i (p.env.forStep step i) step) rfl
  rwa [← h, List.append_assoc] at this

theorem takeReply_tells (spent : Duration) (next : Reply → Dialogue) (reply : Reply)
    (h : told = i.openingTale p.outcomes ++ [i.stepStartedEvent p.index step.displayName]) :
    (takeReply services i p step rest spent next reply).1.Tells i
      (told ++ (takeReply services i p step rest spent next reply).2) := by
  unfold takeReply
  split
  · exact endStep_tells services i p step rest lateReply h
  · exact converse_tells services i p step rest spent (next reply) h

end Step

/-! ## Moves and runs -/

theorem TaskStep.tells {services : Services} {policy : DispatchPolicy} {free stopped : Bool}
    {t : TaskRun} {mv : TaskMove} {a : Advance} {told : List Event}
    (ha : TaskStep services policy free stopped t mv a) (h : t.phase.Tells t.inst told) :
    (t.advance a).phase.Tells t.inst (told ++ a.events) := by
  cases ha with
  | grant hp | leaveLine hp | pass hp | allow hp =>
    rw [hp] at h
    exact (List.append_nil told).trans h
  | refuse hp => rw [hp] at h; exact .inl ⟨rfl, (List.append_nil told).trans h⟩
  | enter hp =>
    rw [hp] at h
    obtain rfl : told = [] := h
    rfl
  | finish hp | cancel hp => rw [hp] at h; exact .inr ((List.append_nil told).trans h)
  | launch hp => rw [hp] at h; exact beginStep_tells _ _ _ _ _ h
  | record hp =>
    rw [hp] at h
    obtain ⟨rfl, rfl⟩ | rfl := h
    · exact .inl ⟨rfl, rfl⟩
    · exact .inr rfl
  | tell hp | release hp =>
    rw [hp] at h
    exact (List.append_nil told).symm ▸ h
  | reply hp => rw [hp] at h; exact takeReply_tells _ _ _ _ _ _ _ _ h
  | crash => trivial

section Runs

variable {ok : Services → RunState → Move → Prop} {plans : List JobPlan} {s : RunState}
  {trace : List (Move × List Event)} {k j : Nat} {asked : List InstanceState}

/-- A task has told what its phase says. -/
theorem Requests.tells (h : Requests ok (RunState.start plans) k j trace asked s) {run : JobRun}
    {t : TaskRun} (hk : s.job? k = some run) (ht : run.tasks[j]? = some t) :
    t.phase.Tells t.inst (eventsFrom (some (k, j)) (messagesOf trace)) := by
  induction h generalizing run t with
  | nil =>
    obtain ⟨plan, is, -, -, -, rfl⟩ := RunState.job?_start hk
    obtain ⟨i, -, rfl⟩ := List.mem_map.mp (List.mem_of_getElem? ht)
    rfl
  | @own trace asked a services mv run₀ t₀ adv h _ hk₀ ht₀ ha ih =>
    rw [RunState.job?_apply_self hk₀] at hk
    cases hk
    rw [JobRun.apply_tasks ht₀, List.getElem?_set_self (List.getElem?_eq_some_iff.mp ht₀).1] at ht
    cases ht
    rw [messagesOf_concat, Move.place, eventsFrom_append, eventsFrom_map_self]
    exact (TaskRun.perform_step ha).tells (ih hk₀ ht₀)
  | @other trace asked a b services m events h _ hne hm ih =>
    obtain ⟨run₀, hk₀, hs⟩ := RunState.job_step_back hm hk
    rw [hs.getElem?_tasks hne] at ht
    have hplace : m.place ≠ some (k, j) := by
      cases m with
      | task l i mv => rintro ⟨⟩; exact hne mv rfl
      | notice | stopAll => simp [Move.place]
    rw [messagesOf_concat, eventsFrom_append, eventsFrom_map_ne hplace, List.append_nil]
    exact ih hk₀ ht

/-- In every run, a task has told what its phase says. -/
theorem Runs.tells (h : Runs ok (RunState.start plans) trace s) {run : JobRun} {t : TaskRun}
    (hk : s.job? k = some run) (ht : run.tasks[j]? = some t) :
    t.phase.Tells t.inst (eventsFrom (some (k, j)) (messagesOf trace)) := by
  obtain ⟨asked, h⟩ := h.exists_requests k j
  exact h.tells hk ht

end Runs

end MatrixFlow
