import MatrixFlow.Proofs.Run.Environment
import MatrixFlow.Proofs.Run.Exchange

/-!
# What instances do

* `Deed`: a look at the word to stop, a call, or a reply. `TaskRun.deeds`: what a task does in a
  move.
* `Chronicle ok s k j trace deeds s'`: a run, in which the task at `j` of the job at `k` does
  `deeds`, in order. Every run is one (`Runs.exists_chronicle`).
* `Instance.Did`: a step was done by the exchanges of one request. `Instance.Worked`: so were the
  first steps, one after the other.
* `Phase.Chronicled`: what a task in this phase has done. Every move keeps it, and so it holds in
  every run (`Chronicle.chronicled`).
-/

namespace MatrixFlow

/-! ## Deeds -/

/-- What a task does that concerns others. -/
inductive Deed where
  /-- It looks whether its group has been told to stop. -/
  | look (stopped : Bool)
  /-- It makes a call. -/
  | ask (call : Call)
  /-- It hears a reply after some time. -/
  | hear (after : Duration) (reply : Reply)

/-- The call that a task in this phase waits for. -/
def Phase.asks (x : Phase) : List Deed := x.call?.toList.map .ask

/-- What a task does in a move. -/
def TaskRun.deeds (t : TaskRun) (stopped : Bool) (a : Advance) : TaskMove → List Deed
  | .go =>
    match t.phase with
    | .opening | .between _ (_ :: _) => .look stopped :: a.phase.asks
    | _ => []
  | .reply after reply => .hear after reply :: a.phase.asks
  | .grant | .crash => []

/-- What the task at `j` of the job at `k` does in a move. -/
def RunState.deedsOf (services : Services) (s : RunState) (k j : Nat) : Move → List Deed
  | .task l i mv =>
    if l = k ∧ i = j then
      ((s.task? k j).bind fun (run, t) =>
        (t.perform services run.policy run.hasSlot (s.signals.isRaised k) mv).map fun a =>
          t.deeds (s.signals.isRaised k) a mv).getD []
    else []
  | .notice _ | .stopAll => []

/-- What a move is for one task: nothing, or a move of its own with what it does there. -/
theorem RunState.deed_step {services : Services} {s s' : RunState} {m : Move} {events : List Event}
    {k j : Nat} {run' : JobRun} {t' : TaskRun} (h : s.perform services m = some (s', events))
    (ht' : s'.task? k j = some (run', t')) : ∃ run t, s.task? k j = some (run, t) ∧
      (t' = t ∧ s.deedsOf services k j m = [] ∨ ∃ mv a, m = .task k j mv ∧ t' = t.advance a ∧
        TaskStep services run.policy run.hasSlot (s.signals.isRaised k) t mv a ∧
        s.deedsOf services k j m = t.deeds (s.signals.isRaised k) a mv) := by
  obtain ⟨hk', hj'⟩ := task?_eq_some.mp ht'
  by_cases hown : ∃ mv, m = .task k j mv
  · obtain ⟨mv, rfl⟩ := hown
    obtain ⟨l, i, mv', run, t, a, hmv, hk, ht, ha, rfl, -⟩ | ⟨l, run, hmv, -⟩ | ⟨hmv, -⟩ :=
      perform_cases h
    · cases hmv
      rw [job?_apply_self hk] at hk'
      cases hk'
      rw [JobRun.apply_tasks ht, List.getElem?_set_self (List.getElem?_eq_some_iff.mp ht).1] at hj'
      cases hj'
      have htask := task?_eq_some.mpr ⟨hk, ht⟩
      exact ⟨run, t, htask, .inr ⟨mv, a, rfl, rfl, TaskRun.perform_step ha,
        by simp [deedsOf, htask, ha]⟩⟩
    · cases hmv
    · cases hmv
  · -- whatever else moves, this task stays as it is
    have hne : ∀ mv, m ≠ .task k j mv := fun mv hmv => hown ⟨mv, hmv⟩
    obtain ⟨run, hk, hs⟩ := job_step_back h hk'
    rw [hs.getElem?_tasks hne] at hj'
    refine ⟨run, t', task?_eq_some.mpr ⟨hk, hj'⟩, .inl ⟨rfl, ?_⟩⟩
    cases m with
    | task l i mv =>
      refine if_neg ?_
      rintro ⟨rfl, rfl⟩
      exact hne mv rfl
    | notice | stopAll => rfl

/-! ## Chronicles -/

/-- Moves that `ok` allows lead from `s` to the last state, told with their events. On the way the
task at `j` of the job at `k` does these deeds, in order. -/
inductive Chronicle (ok : Services → RunState → Move → Prop) (s : RunState) (k j : Nat) :
    List (Move × List Event) → List Deed → RunState → Prop
  | nil : Chronicle ok s k j [] [] s
  | snoc {trace : List (Move × List Event)} {deeds : List Deed} {a b : RunState}
      {services : Services} {m : Move} {events : List Event} : Chronicle ok s k j trace deeds a →
      ok services a m → a.perform services m = some (b, events) →
      Chronicle ok s k j (trace ++ [(m, events)]) (deeds ++ a.deedsOf services k j m) b

/-- The run is set up in this way; which programs there are may change as it goes on. -/
def SetUp (services : Services) : Services → RunState → Move → Prop :=
  fun services' _ _ => services'.Like services

section Chronicle

variable {ok : Services → RunState → Move → Prop} {s s' : RunState} {k j : Nat}
  {trace : List (Move × List Event)} {deeds : List Deed}

theorem Chronicle.runs (h : Chronicle ok s k j trace deeds s') : Runs ok s trace s' := by
  induction h with
  | nil => exact .nil
  | snoc _ hok hm ih => exact .snoc ih hok hm

theorem Runs.exists_chronicle (h : Runs ok s trace s') (k j : Nat) :
    ∃ deeds, Chronicle ok s k j trace deeds s' := by
  induction h with
  | nil => exact ⟨[], .nil⟩
  | snoc _ hok hm ih =>
    obtain ⟨deeds, ih⟩ := ih
    exact ⟨_, .snoc ih hok hm⟩

theorem Chronicle.append {trace' : List (Move × List Event)} {deeds' : List Deed} {s'' : RunState}
    (h : Chronicle ok s k j trace deeds s') (h' : Chronicle ok s' k j trace' deeds' s'') :
    Chronicle ok s k j (trace ++ trace') (deeds ++ deeds') s'' := by
  induction h' with
  | nil => simpa using h
  | snoc _ hok hm ih =>
    rw [← List.append_assoc, ← List.append_assoc]
    exact .snoc ih hok hm

/-- What the task has at the start, and every move of its own keeps, it has in every run. -/
theorem Chronicle.task_induction {P : TaskRun → List Deed → Prop}
    (h : Chronicle ok s k j trace deeds s')
    (h0 : ∀ run t, s.task? k j = some (run, t) → P t [])
    (hstep : ∀ trace deeds services a run t mv adv, Chronicle ok s k j trace deeds a →
      a.task? k j = some (run, t) → ok services a (.task k j mv) →
      TaskStep services run.policy run.hasSlot (a.signals.isRaised k) t mv adv → P t deeds →
      P (t.advance adv) (deeds ++ t.deeds (a.signals.isRaised k) adv mv)) :
    ∀ run t, s'.task? k j = some (run, t) → P t deeds := by
  induction h with
  | nil => exact h0
  | @snoc trace deeds a b services m events h hok hm ih =>
    intro run' t' ht'
    obtain ⟨run, t, ht, ⟨rfl, hd⟩ | ⟨mv, adv, rfl, rfl, ha, hd⟩⟩ := RunState.deed_step hm ht'
    · rw [hd, List.append_nil]
      exact ih run t' ht
    · rw [hd]
      exact hstep _ _ _ _ _ _ _ _ h ht hok ha (ih run t ht)

end Chronicle

/-- What the task at `j` of the job at `k` does when moves are made in a row. -/
def RunState.deedsAll (services : Services) (s : RunState) (k j : Nat) : List Move → List Deed
  | [] => []
  | m :: rest => s.deedsOf services k j m ++
      ((s.perform services m).map fun next => next.1.deedsAll services k j rest).getD []

theorem RunState.chronicle_performAll {ok : Services → RunState → Move → Prop}
    {services : Services} {s s' : RunState} {moves : List Move} {trace : List (Move × List Event)}
    (k j : Nat) (h : s.performAll services moves = some (trace, s'))
    (hok : ∀ a, ∀ m ∈ moves, ok services a m) :
    Chronicle ok s k j trace (s.deedsAll services k j moves) s' := by
  induction moves generalizing s trace with
  | nil => cases h; exact .nil
  | cons m rest ih =>
    simp only [performAll, bind, Option.bind_eq_some_iff] at h
    obtain ⟨⟨a, events⟩, ha, ⟨trace', b⟩, hb, h⟩ := h
    cases h
    rw [deedsAll, ha]
    exact (Chronicle.snoc .nil (hok s m (by simp)) ha).append
      (ih hb fun c m' hm' => hok c m' (List.mem_cons_of_mem m hm'))

/-- The moves make a run in which the task has these deeds, and passes a check behind them. -/
theorem RunState.exists_chronicle (ok : Services → RunState → Move → Prop) (services : Services)
    (s : RunState) (k j : Nat) (moves : List Move) (check : TaskRun → Bool)
    (h : (s.performAll services moves).any (fun p => (p.2.task? k j).any fun q => check q.2) = true)
    (hok : ∀ a, ∀ m ∈ moves, ok services a m) :
    ∃ trace s' run t, Chronicle ok s k j trace (s.deedsAll services k j moves) s' ∧
      s'.task? k j = some (run, t) ∧ check t = true := by
  rw [Option.any_eq_true] at h
  obtain ⟨⟨trace, s'⟩, hmoves, h⟩ := h
  rw [Option.any_eq_true] at h
  obtain ⟨⟨run, t⟩, ht, hcheck⟩ := h
  exact ⟨trace, s', run, t, chronicle_performAll k j hmoves hok, ht, hcheck⟩

/-! ## Steps that were done -/

/-- What a step that has ended passes on: nothing, unless it succeeded. -/
def StepOutcome.passesOn (o : StepOutcome) : Exports :=
  if o.failure.isNone then Exports.ofOutput o.stdout else Exports.empty

/-- The deeds of an exchange. -/
def Exchange.deeds (x : Exchange) : List Deed := [.ask x.call, .hear x.after x.reply]

/-- The deeds of an instance that has begun and done steps by these exchanges, with a look before
each of them. -/
def workDeeds (talks : List (List Exchange)) : List Deed :=
  .look false :: talks.flatMap fun xs => .look false :: xs.flatMap Exchange.deeds

theorem workDeeds_concat (talks : List (List Exchange)) (xs : List Exchange) :
    workDeeds (talks ++ [xs]) =
      workDeeds talks ++ .look false :: xs.flatMap Exchange.deeds := by
  simp [workDeeds]

theorem not_mem_workDeeds (talks : List (List Exchange)) : .look true ∉ workDeeds talks := by
  simp [workDeeds, Exchange.deeds]

/-- The deeds begin with a look, if there are any. -/
def LookFirst (deeds : List Deed) : Prop := ∀ d ∈ deeds.head?, ∃ stopped, d = .look stopped

/-- Among the deeds are steps that were done by these exchanges, and whatever came behind them began
with a look. -/
def DoneBy (deeds : List Deed) (talks : List (List Exchange)) : Prop :=
  talks = [] ∨ ∃ rest, deeds = workDeeds talks ++ rest ∧ LookFirst rest

section LookFirst

variable {rest rest' : List Deed} (h : LookFirst rest) (h' : LookFirst rest')

include h h'

/-- Exchanges end where the next look is. -/
theorem LookFirst.exchanges_inj {xs ys : List Exchange}
    (heq : xs.flatMap Exchange.deeds ++ rest = ys.flatMap Exchange.deeds ++ rest') :
    xs = ys ∧ rest = rest' := by
  have not_ask : ∀ {call : Call} {deeds : List Deed}, ¬LookFirst (.ask call :: deeds) := by
    intro call deeds hl
    obtain ⟨stopped, hcall⟩ := hl _ rfl
    cases hcall
  induction xs generalizing ys with
  | nil =>
    cases ys with
    | nil => exact ⟨rfl, heq⟩
    | cons y ys =>
      rw [List.flatMap_nil, List.nil_append] at heq
      rw [heq] at h
      exact absurd h not_ask
  | cons x xs ih =>
    cases ys with
    | nil =>
      rw [List.flatMap_nil, List.nil_append] at heq
      rw [← heq] at h'
      exact absurd h' not_ask
    | cons y ys =>
      simp only [List.flatMap_cons, Exchange.deeds, List.cons_append, List.nil_append,
        List.cons.injEq, Deed.ask.injEq, Deed.hear.injEq] at heq
      obtain ⟨hcall, ⟨hafter, hreply⟩, heq⟩ := heq
      obtain ⟨rfl, rfl⟩ := ih heq
      exact ⟨congrArg (· :: xs) (Exchange.ext hcall hafter hreply), rfl⟩

theorem LookFirst.talks_inj {talks talks' : List (List Exchange)}
    (hlen : talks.length = talks'.length)
    (heq : workDeeds talks ++ rest = workDeeds talks' ++ rest') : talks = talks' := by
  -- what follows the exchanges of a step is the look before the next one, or `rest`
  have begins : ∀ (talks : List (List Exchange)) {rest : List Deed}, LookFirst rest →
      LookFirst (talks.flatMap (fun xs => .look false :: xs.flatMap Exchange.deeds) ++ rest) := by
    intro talks rest hrest
    cases talks with
    | nil => exact hrest
    | cons => exact fun d hd => ⟨false, (Option.some.inj hd).symm⟩
  simp only [workDeeds, List.cons_append, List.cons.injEq, true_and] at heq
  induction talks generalizing talks' with
  | nil => exact (List.length_eq_zero_iff.mp hlen.symm).symm
  | cons xs talks ih =>
    cases talks' with
    | nil => cases hlen
    | cons ys talks' =>
      simp only [List.flatMap_cons, List.cons_append, List.append_assoc, List.cons.injEq,
        true_and] at heq
      obtain ⟨rfl, hnext⟩ := (begins talks h).exchanges_inj (begins talks' h') heq
      exact congrArg _ (ih (Nat.succ.inj hlen) hnext)

end LookFirst

/-- The deeds tell by which exchanges so many steps were done. -/
theorem DoneBy.unique {deeds : List Deed} {talks talks' : List (List Exchange)}
    (h : DoneBy deeds talks) (h' : DoneBy deeds talks') (hlen : talks.length = talks'.length) :
    talks = talks' := by
  obtain rfl | ⟨rest, rfl, hrest⟩ := h
  · exact (List.length_eq_zero_iff.mp hlen.symm).symm
  · obtain rfl | ⟨rest', heq, hrest'⟩ := h'
    · exact List.length_eq_zero_iff.mp hlen
    · exact hrest.talks_inj hrest' hlen heq

namespace Instance

/-- The environment that steps with these outcomes leave behind. -/
def envAfter (i : Instance) (outcomes : List StepOutcome) : StepEnv :=
  outcomes.foldl (fun env o => env.apply o.passesOn) (StepEnv.start i)

/-- How far the instance has come with these outcomes. -/
def progressAfter (i : Instance) (outcomes : List StepOutcome) : Progress :=
  ⟨outcomes.length, i.envAfter outcomes, outcomes⟩

/-- What a step behind these outcomes asks of a collaborator. -/
def requestAfter (services : Services) (i : Instance) (outcomes : List StepOutcome) (step : Step) :
    Call :=
  services.request i ((i.envAfter outcomes).forStep step i) step

/-- A step behind the outcomes `before` was done by the exchanges of one request, and came to an
outcome. -/
def Did (services : Services) (i : Instance) (before : List StepOutcome) (step : Step)
    (xs : List Exchange) (o : StepOutcome) : Prop :=
  ∃ (services' : Services) (reply : Reply), services'.Like services ∧
    (services'.attend (i.requestAfter services before step)).Ends (services.timeout i.job step) xs
      reply ∧
    o = (closeStep services i (i.progressAfter before) step reply).outcome

/-- The first steps were done, in order, each by exchanges of its own and with an outcome. -/
structure Worked (services : Services) (i : Instance) (talks : List (List Exchange))
    (outcomes : List StepOutcome) : Prop where
  length : talks.length = outcomes.length
  did : ∀ (n : Nat) xs o, talks[n]? = some xs → outcomes[n]? = some o →
    ∃ step, i.job.steps[n]? = some step ∧ i.Did services (outcomes.take n) step xs o

theorem worked_nil (services : Services) (i : Instance) : i.Worked services [] [] :=
  ⟨rfl, fun _ _ _ h => by cases h⟩

theorem Worked.snoc {services : Services} {i : Instance} {talks : List (List Exchange)}
    {outcomes : List StepOutcome} {step : Step} {xs : List Exchange} {o : StepOutcome}
    (h : i.Worked services talks outcomes) (hstep : i.job.steps[outcomes.length]? = some step)
    (hdid : i.Did services outcomes step xs o) :
    i.Worked services (talks ++ [xs]) (outcomes ++ [o]) where
  length := by simp [h.length]
  did n ys o' hn hn' := by
    obtain hlt | rfl | hgt := Nat.lt_trichotomy n outcomes.length
    · rw [List.getElem?_append_left (by rw [h.length]; exact hlt)] at hn
      rw [List.getElem?_append_left hlt] at hn'
      rw [List.take_append_of_le_length (Nat.le_of_lt hlt)]
      exact h.did n ys o' hn hn'
    · rw [← h.length, List.getElem?_concat_length] at hn
      rw [List.getElem?_concat_length] at hn'
      cases hn
      cases hn'
      rw [List.take_left]
      exact ⟨step, hstep, hdid⟩
    · rw [List.getElem?_eq_none (by simpa using Nat.succ_le_of_lt hgt)] at hn'
      cases hn'

end Instance

/-! ## What a task has done -/

/-- The result that the instance has come to by itself. -/
def Phase.returned? : Phase → Option InstanceResult
  | .leaving r | .recorded r | .releasing r | .settled r => some r
  | _ => none

/-- The deeds of an instance that has come to a result. -/
def InstanceResult.Chronicled (services : Services) (i : Instance) (deeds : List Deed)
    (r : InstanceResult) : Prop :=
  r = InstanceResult.cancelled i.summary ∧ deeds = [.look true] ∨
    ∃ talks, i.Worked services talks r.steps ∧
      deeds = workDeeds talks ++ if r.status = .cancelled then [.look true] else []

/-- The instance has recorded these outcomes, and has heard the exchanges `xs` in the step that is
next. -/
structure Instance.Hears (services : Services) (i : Instance) (outcomes : List StepOutcome)
    (step : Step) (xs : List Exchange) (deeds : List Deed) : Prop where
  step : i.job.steps[outcomes.length]? = some step
  deeds : ∃ talks, i.Worked services talks outcomes ∧
    deeds = workDeeds talks ++ .look false :: xs.flatMap Exchange.deeds

/-- The deeds of an instance in this phase. -/
def Phase.Chronicled (services : Services) (i : Instance) (deeds : List Deed) : Phase → Prop
  | .waiting | .opening => deeds = []
  | .entering => deeds = [.look false]
  | .between p _ => ∃ outcomes talks, p = i.progressAfter outcomes ∧
      i.Worked services talks outcomes ∧ deeds = workDeeds talks
  | .asking p step _ spent call next => ∃ outcomes xs before, ∃ services' : Services,
      p = i.progressAfter outcomes ∧ i.Hears services outcomes step xs before ∧
      deeds = before ++ [.ask call] ∧ services'.Like services ∧
      (services'.attend (i.requestAfter services outcomes step)).Through xs (.ask call next) ∧
      spent = Exchange.time xs ∧ isLate (services.timeout i.job step) spent = false
  | .leaving r | .recorded r | .releasing r | .settled r => r.Chronicled services i deeds
  | .crashed => .look true ∉ deeds

/-- An instance that has done these deeds comes into this phase, and makes its call there. -/
def Phase.Follows (services : Services) (i : Instance) (deeds : List Deed) (x : Phase) : Prop :=
  x.Chronicled services i (deeds ++ x.asks)

section Steps

variable {services services' moving : Services} {i : Instance} {outcomes : List StepOutcome}
  {deeds : List Deed} {step : Step} {xs : List Exchange} (rest : List Step)

theorem Services.Like.closeStep_eq (h : moving.Like services) (p : Progress) (reply : Reply) :
    closeStep moving i p step reply = closeStep services i p step reply := by
  unfold closeStep
  rw [h.timeout_eq]

theorem endStep_asks (p : Progress) (reply : Reply) :
    (endStep services i p step rest reply).1.asks = [] := by
  unfold endStep
  dsimp only
  split <;> rfl

/-- What a step passes on is in the environment behind it. -/
theorem progressAfter_concat (reply : Reply) :
    i.progressAfter
      (outcomes ++ [(closeStep services i (i.progressAfter outcomes) step reply).outcome]) =
    ⟨outcomes.length + 1, (closeStep services i (i.progressAfter outcomes) step reply).env,
      outcomes ++ [(closeStep services i (i.progressAfter outcomes) step reply).outcome]⟩ := by
  rw [Instance.progressAfter, Instance.envAfter, List.foldl_concat, List.length_append]
  rfl

/-- A step that ends adds its outcome. -/
theorem endStep_chronicled (hmoving : moving.Like services) (hlike : services'.Like services)
    (h : i.Hears services outcomes step xs deeds) {reply : Reply}
    (hends : (services'.attend (i.requestAfter services outcomes step)).Ends
      (services.timeout i.job step) xs reply) :
    (endStep moving i (i.progressAfter outcomes) step rest reply).1.Follows services i deeds := by
  rw [Phase.Follows, endStep_asks, List.append_nil]
  obtain ⟨talks, hworked, rfl⟩ := h.deeds
  have hnext := hworked.snoc h.step ⟨services', reply, hlike, hends, rfl⟩
  rw [← workDeeds_concat]
  unfold endStep
  rw [hmoving.closeStep_eq]
  dsimp only
  split
  · exact .inr ⟨_, hnext, (List.append_nil _).symm⟩
  · exact ⟨_, _, (progressAfter_concat reply).symm, hnext, rfl⟩

theorem converse_chronicled (hmoving : moving.Like services) (hlike : services'.Like services)
    (h : i.Hears services outcomes step xs deeds) {d : Dialogue}
    (hd : (services'.attend (i.requestAfter services outcomes step)).Through xs d)
    (htime : isLate (services.timeout i.job step) (Exchange.time xs) = false) :
    (converse moving i (i.progressAfter outcomes) step rest (Exchange.time xs) d).1.Follows services
      i deeds := by
  cases d with
  | ask call next => exact ⟨outcomes, xs, deeds, services', rfl, h, rfl, hlike, hd, rfl, htime⟩
  | done reply => exact endStep_chronicled rest hmoving hlike h (.answered hd htime)

/-- The first call of a step stands behind a look. -/
theorem beginStep_chronicled (hmoving : moving.Like services)
    (hstep : i.job.steps[outcomes.length]? = some step) {talks : List (List Exchange)}
    (hworked : i.Worked services talks outcomes) :
    (beginStep moving i (i.progressAfter outcomes) step rest).1.Follows services i
      (workDeeds talks ++ [.look false]) := by
  have hears : i.Hears services outcomes step [] (workDeeds talks ++ [.look false]) :=
    ⟨hstep, talks, hworked, rfl⟩
  have hrequest : moving.dialogue i ((i.progressAfter outcomes).env.forStep step i) step =
      moving.attend (i.requestAfter services outcomes step) := by
    rw [Services.dialogue_eq, hmoving.request_eq]
    rfl
  have hbegun := converse_chronicled rest hmoving hmoving hears (.here _) (isLate_zero _)
  rw [← hrequest] at hbegun
  exact hbegun

/-- A reply is heard, and the step goes on or gives up. -/
theorem takeReply_chronicled (hmoving : moving.Like services) (hlike : services'.Like services)
    (h : i.Hears services outcomes step xs deeds) {call : Call} {next : Reply → Dialogue}
    (hd : (services'.attend (i.requestAfter services outcomes step)).Through xs (.ask call next))
    (htime : isLate (services.timeout i.job step) (Exchange.time xs) = false) (after : Duration)
    (reply : Reply) :
    (takeReply moving i (i.progressAfter outcomes) step rest ((Exchange.time xs).add after) next
      reply).1.Follows services i (deeds ++ [.ask call, .hear after reply]) := by
  -- the time that the task keeps is that of the exchanges, so it gives up where `Ends` does
  have htime' : (Exchange.time xs).add after = Exchange.time (xs ++ [⟨call, after, reply⟩]) :=
    (Exchange.time_concat xs ⟨call, after, reply⟩).symm
  obtain ⟨talks, hworked, rfl⟩ := h.deeds
  have hears : i.Hears services outcomes step (xs ++ [⟨call, after, reply⟩])
      (workDeeds talks ++ .look false :: xs.flatMap Exchange.deeds ++
        [.ask call, .hear after reply]) :=
    ⟨h.step, talks, hworked, by simp [Exchange.deeds]⟩
  unfold takeReply
  rw [hmoving.timeout_eq, htime']
  split
  · rename_i hlate
    exact endStep_chronicled rest hmoving hlike hears (.givenUp hd htime hlate)
  · rename_i hlate
    exact converse_chronicled rest hmoving hlike hears (hd.snoc after reply)
      (Bool.eq_false_iff.mpr hlate)

end Steps

/-! ## Moves and runs -/

theorem TaskStep.chronicled {services moving : Services} {policy : DispatchPolicy}
    {free stopped : Bool} {t : TaskRun} {mv : TaskMove} {a : Advance} {deeds : List Deed}
    (hmoving : moving.Like services) (ha : TaskStep moving policy free stopped t mv a)
    (hsound : t.Sound) (h : t.phase.Chronicled services t.inst deeds) :
    (t.advance a).phase.Chronicled services t.inst (deeds ++ t.deeds stopped a mv) := by
  unfold TaskRun.Sound at hsound
  cases ha with
  | grant hp =>
    rw [hp] at h
    exact (List.append_nil deeds).trans h
  | leaveLine hp | pass hp =>
    rw [hp] at h
    simp only [TaskRun.deeds, hp]
    exact (List.append_nil deeds).trans h
  | refuse hp hs =>
    rw [hp] at h
    obtain rfl : deeds = [] := h
    simp only [TaskRun.deeds, hp, hs]
    exact .inl ⟨rfl, rfl⟩
  | allow hp hs =>
    rw [hp] at h
    obtain rfl : deeds = [] := h
    simp only [TaskRun.deeds, hp, hs]
    rfl
  | enter hp =>
    rw [hp] at h
    obtain rfl : deeds = [.look false] := h
    simp only [TaskRun.deeds, hp]
    exact ⟨[], [], rfl, t.inst.worked_nil services, rfl⟩
  | finish hp =>
    rw [hp] at h
    obtain ⟨outcomes, talks, rfl, hworked, rfl⟩ := h
    simp only [TaskRun.deeds, hp]
    exact .inr ⟨talks, hworked, rfl⟩
  | cancel hp hs =>
    rw [hp] at h
    obtain ⟨outcomes, talks, rfl, hworked, rfl⟩ := h
    simp only [TaskRun.deeds, hp, hs]
    exact .inr ⟨talks, hworked, rfl⟩
  | @launch p step rest hp hs =>
    rw [hp] at h hsound
    obtain ⟨outcomes, talks, rfl, hworked, rfl⟩ := h
    have hbegun := beginStep_chronicled rest hmoving (Progress.Sound.step hsound) hworked
    rw [Phase.Follows, List.append_assoc] at hbegun
    simp only [TaskRun.deeds, hp, hs]
    exact hbegun
  | record hp | tell hp | release hp =>
    rw [hp] at h
    simp only [TaskRun.deeds, hp, List.append_nil]
    exact h
  | @reply p step rest spent call next after reply hp =>
    rw [hp] at h
    obtain ⟨outcomes, xs, before, services', rfl, hears, rfl, hlike, hd, rfl, htime⟩ := h
    have hheard := takeReply_chronicled rest hmoving hlike hears hd htime after reply
    rw [Phase.Follows, List.append_assoc] at hheard
    rw [List.append_assoc]
    exact hheard
  | crash hp =>
    rw [hp] at h
    obtain ⟨outcomes, xs, before, services', rfl, hears, rfl, -⟩ := h
    obtain ⟨talks, -, rfl⟩ := hears.deeds
    -- the step that breaks down has been heard like one that was done
    have := not_mem_workDeeds (talks ++ [xs])
    rw [workDeeds_concat] at this
    simpa [TaskRun.deeds, Phase.Chronicled] using this

section Runs

variable {services : Services} {trace : List (Move × List Event)} {s₀ s : RunState} {k j : Nat}
  {i : Instance} {deeds : List Deed} {run₀ run : JobRun} {t : TaskRun}

/-- In every run in which an instance begins, it has recorded and done what its phase says. -/
theorem Chronicle.chronicled (h : Chronicle (SetUp services) s₀ k j trace deeds s)
    (h0 : s₀.task? k j = some (run₀, TaskRun.start i)) (ht : s.task? k j = some (run, t)) :
    t.inst = i ∧ t.Sound ∧ t.phase.Chronicled services i deeds := by
  refine h.task_induction
    (P := fun t deeds => t.inst = i ∧ t.Sound ∧ t.phase.Chronicled services i deeds) ?_ ?_ run t ht
  · intro run t ht
    rw [h0] at ht
    cases ht
    exact ⟨rfl, trivial, rfl⟩
  · rintro trace deeds moving a run t mv adv h ht hok ha ⟨rfl, hsound, hc⟩
    exact ⟨rfl, ha.sound hsound, ha.chronicled hok hsound hc⟩

end Runs

end MatrixFlow
