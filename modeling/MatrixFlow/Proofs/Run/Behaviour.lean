import MatrixFlow.Proofs.Run.Task

/-!
# Collaborators whose replies depend on the calls only

* `Behaviour`: a reply for every call, and the calls of a step whose last reply comes too late.
* `Dialogue.Leads b d calls d'`: by the replies of `b`, these calls of `d` lead to `d'`. There is
  only one way to get there (`Dialogue.Leads.unique`).
* `Instance.resultUnder`: what an instance comes to, one step after the other, without any word to
  stop.
* `Phase.ComesTo`: a task in this phase is on its way to a result. Every move keeps it, if its group
  is not told to stop and the replies are those of the behaviour (`TaskStep.comesTo`).
* `Behaviour.ofTimes`: collaborators with a reply and a time for every call
  (`TaskRun.IsServed.follows`).
-/

namespace MatrixFlow

/-! ## Behaviours -/

/-- How collaborators behave, as far as a step can tell. -/
structure Behaviour where
  answer : Call → Reply
  /-- Whether the last one of these calls of a step, which has a limit, comes back too late. -/
  late : Duration → List Call → Bool

namespace Dialogue

/-- These calls of a dialogue, with the replies of the behaviour, lead to what is left of it. -/
inductive Leads (b : Behaviour) : Dialogue → List Call → Dialogue → Prop
  | here (d : Dialogue) : Leads b d [] d
  | ask {call : Call} {next : Reply → Dialogue} {calls : List Call} {d : Dialogue}
      (h : Leads b (next (b.answer call)) calls d) : Leads b (.ask call next) (call :: calls) d

variable {b : Behaviour} {d : Dialogue}

theorem Leads.snoc {calls : List Call} {call : Call} {next : Reply → Dialogue}
    (h : Leads b d calls (.ask call next)) : Leads b d (calls ++ [call]) (next (b.answer call)) := by
  generalize hd : Dialogue.ask call next = d' at h
  induction h with
  | here => exact hd ▸ .ask (.here _)
  | ask _ ih => exact .ask (ih hd)

/-- A dialogue does not come back to where it stood. -/
theorem Leads.eq_nil {calls : List Call} (h : Leads b d calls d) : calls = [] := by
  induction d generalizing calls with
  | done reply => cases h; rfl
  | ask call next ih =>
    cases h with
    | here => rfl
    | ask h => exact absurd (ih _ h.snoc) (by simp)

/-- There is only one way to a point of a dialogue. -/
theorem Leads.unique {d' : Dialogue} {calls calls' : List Call} (h : Leads b d calls d')
    (h' : Leads b d calls' d') : calls = calls' := by
  induction h generalizing calls' with
  | here => exact h'.eq_nil.symm
  | ask h ih =>
    cases h' with
    | here => exact absurd h.snoc.eq_nil (by simp)
    | ask h' => rw [ih h']

/-- The reply that a step comes to when it stands here after some calls. -/
def replyUnder (b : Behaviour) (limit : Option Duration) (calls : List Call) : Dialogue → Reply
  | .done reply => reply
  | .ask call next =>
    if limit.any (b.late · (calls ++ [call])) then lateReply
    else (next (b.answer call)).replyUnder b limit (calls ++ [call])

end Dialogue

/-! ## Instances by themselves -/

namespace Instance

variable (b : Behaviour) (services : Services) (i : Instance)

/-- The calls of a step. -/
def stepDialogue (p : Progress) (step : Step) : Dialogue :=
  services.dialogue i (p.env.forStep step i) step

/-- The reply that a step comes to. -/
def stepReply (p : Progress) (step : Step) : Reply :=
  (i.stepDialogue services p step).replyUnder b (services.timeout i.job step) []

/-- What the instance comes to by the steps that are left. -/
def stepsUnder (p : Progress) : List Step → InstanceResult
  | [] => i.resultOf .succeeded p.outcomes
  | step :: rest =>
    let closed := closeStep services i p step (i.stepReply b services p step)
    let outcomes := p.outcomes ++ [closed.outcome]
    if closed.outcome.failure.isSome then i.resultOf .failed outcomes
    else stepsUnder ⟨p.index + 1, closed.env, outcomes⟩ rest

/-- What the instance comes to. -/
def resultUnder : InstanceResult :=
  i.stepsUnder b services (Progress.start i) i.job.steps

end Instance

/-- A task in this phase is on its way to the result. -/
def Phase.ComesTo (b : Behaviour) (services : Services) (i : Instance) (r : InstanceResult) :
    Phase → Prop
  | .waiting | .opening | .entering => i.resultUnder b services = r
  | .between p rest => i.stepsUnder b services p rest = r
  | .asking p step rest _ call next => i.stepsUnder b services p (step :: rest) = r ∧
      ∃ calls, Dialogue.Leads b (i.stepDialogue services p step) calls (.ask call next) ∧
        (Dialogue.ask call next).replyUnder b (services.timeout i.job step) calls =
          i.stepReply b services p step
  | .leaving r' | .recorded r' | .releasing r' | .settled r' => r' = r
  | .crashed => False

section Steps

variable {b : Behaviour} {services : Services} {i : Instance} {r : InstanceResult} {p : Progress}
  {step : Step} {rest : List Step} {spent : Duration} {calls : List Call}

theorem endStep_comesTo (h : i.stepsUnder b services p (step :: rest) = r) :
    (endStep services i p step rest (i.stepReply b services p step)).1.ComesTo b services i r := by
  rw [Instance.stepsUnder] at h
  unfold endStep
  dsimp only at h ⊢
  split at h
  · rename_i hf
    rw [if_pos hf]
    exact h
  · rename_i hf
    rw [if_neg hf]
    exact h

theorem converse_comesTo {d : Dialogue} (h : i.stepsUnder b services p (step :: rest) = r)
    (hd : Dialogue.Leads b (i.stepDialogue services p step) calls d)
    (hr : d.replyUnder b (services.timeout i.job step) calls = i.stepReply b services p step) :
    (converse services i p step rest spent d).1.ComesTo b services i r := by
  cases d with
  | ask call next => exact ⟨h, calls, hd, hr⟩
  | done reply =>
    rw [Dialogue.replyUnder] at hr
    rw [hr]
    exact endStep_comesTo h

theorem beginStep_comesTo (h : i.stepsUnder b services p (step :: rest) = r) :
    (beginStep services i p step rest).1.ComesTo b services i r :=
  converse_comesTo h (.here _) rfl

/-- The reply of the behaviour leads on, if it comes too late exactly when the behaviour says
so. -/
theorem takeReply_comesTo {call : Call} {next : Reply → Dialogue}
    (h : i.stepsUnder b services p (step :: rest) = r)
    (hd : Dialogue.Leads b (i.stepDialogue services p step) calls (.ask call next))
    (hr : (Dialogue.ask call next).replyUnder b (services.timeout i.job step) calls =
      i.stepReply b services p step)
    (hlate : isLate (services.timeout i.job step) spent =
      (services.timeout i.job step).any (b.late · (calls ++ [call]))) :
    (takeReply services i p step rest spent next (b.answer call)).1.ComesTo b services i r := by
  rw [Dialogue.replyUnder, ← hlate] at hr
  unfold takeReply
  split at hr
  · rename_i hl
    rw [if_pos hl, hr]
    exact endStep_comesTo h
  · rename_i hl
    rw [if_neg hl]
    exact converse_comesTo h hd.snoc hr

end Steps

/-! ## Moves -/

/-- A reply after some time is that of the behaviour, at the point where the task stands. -/
def TaskRun.Hears (b : Behaviour) (services : Services) (t : TaskRun) (after : Duration)
    (reply : Reply) : Prop :=
  match t.phase with
  | .asking p step _ spent call next => reply = b.answer call ∧
      ∀ calls, Dialogue.Leads b (t.inst.stepDialogue services p step) calls (.ask call next) →
        isLate (services.timeout t.inst.job step) (spent.add after) =
          (services.timeout t.inst.job step).any (b.late · (calls ++ [call]))
  | _ => True

/-- A move of a task by itself, or a reply of the behaviour. -/
def TaskRun.Follows (b : Behaviour) (services : Services) (t : TaskRun) : TaskMove → Prop
  | .grant | .go => True
  | .reply after reply => t.Hears b services after reply
  | .crash => False

theorem TaskStep.comesTo {b : Behaviour} {services : Services} {policy : DispatchPolicy}
    {free : Bool} {t : TaskRun} {mv : TaskMove} {a : Advance} {r : InstanceResult}
    (ha : TaskStep services policy free false t mv a) (hmv : t.Follows b services mv)
    (h : t.phase.ComesTo b services t.inst r) :
    (t.advance a).phase.ComesTo b services t.inst r := by
  cases ha with
  | leaveLine _ hs | refuse _ hs | cancel _ hs => cases hs
  | grant hp | pass hp | allow hp | enter hp | finish hp | record hp | tell hp | release hp =>
    rw [hp] at h
    exact h
  | launch hp => rw [hp] at h; exact beginStep_comesTo h
  | reply hp =>
    rw [hp] at h
    obtain ⟨hsteps, calls, hd, hr⟩ := h
    unfold TaskRun.Follows TaskRun.Hears at hmv
    rw [hp] at hmv
    obtain ⟨rfl, hlate⟩ := hmv
    exact takeReply_comesTo hsteps hd hr (hlate calls hd)
  | crash => exact hmv.elim

/-! ## Replies that take a time of their own -/

section Times

variable (answer : Call → Reply) (time : Call → Duration)

/-- The time that some calls take, one after the other. -/
def totalTime (calls : List Call) : Duration :=
  calls.foldl (fun spent call => spent.add (time call)) Duration.zero

/-- Collaborators that have a reply and a time for every call. -/
def Behaviour.ofTimes : Behaviour :=
  ⟨answer, fun limit calls => isLate (some limit) (totalTime time calls)⟩

/-- A move of a task by itself, or a reply of such a collaborator. -/
def TaskRun.IsServed (t : TaskRun) : TaskMove → Prop
  | .grant | .go => True
  | .reply after reply =>
    match t.phase with
    | .asking _ _ _ _ call _ => reply = answer call ∧ after = time call
    | _ => True
  | .crash => False

/-- A task that waits for a reply has spent the time of the calls before. -/
def Phase.Timed (services : Services) (i : Instance) : Phase → Prop
  | .asking p step _ spent call next => ∃ calls, spent = totalTime time calls ∧
      Dialogue.Leads (.ofTimes answer time) (i.stepDialogue services p step) calls (.ask call next)
  | _ => True

end Times

section Served

variable {answer : Call → Reply} {time : Call → Duration} {services : Services}

theorem totalTime_snoc (calls : List Call) (call : Call) :
    totalTime time (calls ++ [call]) = (totalTime time calls).add (time call) := by
  simp [totalTime]

theorem endStep_timed {i : Instance} {p : Progress} {step : Step} {rest : List Step}
    (reply : Reply) : (endStep services i p step rest reply).1.Timed answer time services i := by
  unfold endStep
  dsimp only
  split <;> trivial

theorem converse_timed {i : Instance} {p : Progress} {step : Step} {rest : List Step}
    {calls : List Call} {d : Dialogue}
    (hd : Dialogue.Leads (.ofTimes answer time) (i.stepDialogue services p step) calls d) :
    (converse services i p step rest (totalTime time calls) d).1.Timed answer time services i := by
  cases d with
  | ask call next => exact ⟨calls, rfl, hd⟩
  | done reply => exact endStep_timed reply

variable {policy : DispatchPolicy} {free stopped : Bool} {t : TaskRun} {mv : TaskMove} {a : Advance}

theorem TaskStep.timed (ha : TaskStep services policy free stopped t mv a)
    (hmv : t.IsServed answer time mv) (h : t.phase.Timed answer time services t.inst) :
    (t.advance a).phase.Timed answer time services t.inst := by
  cases ha with
  | launch => exact converse_timed (.here _)
  | @reply p step rest spent call next after reply hp =>
    rw [hp] at h
    obtain ⟨calls, rfl, hd⟩ := h
    unfold TaskRun.IsServed at hmv
    rw [hp] at hmv
    obtain ⟨rfl, rfl⟩ := hmv
    change (takeReply ..).1.Timed ..
    unfold takeReply
    split
    · exact endStep_timed lateReply
    · rw [← totalTime_snoc]
      exact converse_timed hd.snoc
  | _ => trivial

/-- Replies that take a time of their own are those of a behaviour. -/
theorem TaskRun.IsServed.follows (hmv : t.IsServed answer time mv)
    (h : t.phase.Timed answer time services t.inst) :
    t.Follows (.ofTimes answer time) services mv := by
  cases mv with
  | grant | go => trivial
  | crash => exact hmv
  | reply after reply =>
    unfold IsServed at hmv
    unfold Follows Hears
    cases hp : t.phase with
    | asking p step rest spent call next =>
      rw [hp] at h hmv
      obtain ⟨calls, rfl, hd⟩ := h
      obtain ⟨rfl, rfl⟩ := hmv
      refine ⟨rfl, fun calls' hd' => ?_⟩
      rw [hd'.unique hd, ← totalTime_snoc]
      cases services.timeout t.inst.job step with
      | none => rw [isLate_none, Option.any_none]
      | some limit => rw [Option.any_some]; rfl
    | _ => trivial

end Served

/-! ## Results -/

/-- A task that is over has the result to which it was on its way. -/
theorem TaskRun.result?_of_comesTo {b : Behaviour} {services : Services} {t : TaskRun}
    {r : InstanceResult} (h : t.phase.ComesTo b services t.inst r) (hover : t.isOver = true) :
    t.result? = some r := by
  unfold isOver at hover
  unfold result?
  cases hp : t.phase with
  | settled r' => rw [hp] at h; exact congrArg some h
  | crashed => rw [hp] at h; exact h.elim
  | _ => rw [hp] at hover; cases hover

end MatrixFlow
