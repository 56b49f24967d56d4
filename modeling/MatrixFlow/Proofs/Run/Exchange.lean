import Mathlib.Data.List.Induction
import MatrixFlow.Proofs.Run.Task

/-!
# Requests and exchanges

* `Services.request`: the one thing that a step asks of a collaborator. `Services.attend`: the calls
  by which it is seen to. Together they are the calls of the step (`Services.dialogue_eq`).
* `Exchange`: a call with its reply, and the time that it took.
* `Dialogue.Through d xs d'`: the exchanges `xs` lead from `d` to `d'`.
* `Dialogue.Ends limit d xs reply`: a step that makes the calls of `d` ends behind the exchanges
  `xs`, with a reply that it takes for the result. `Dialogue.Ends.reply_eq` says which one it is, by
  the result of the collaborator and the time until then.
-/

namespace MatrixFlow

/-! ## Requests -/

namespace Services

/-- What a step asks of a collaborator. -/
def request (services : Services) (i : Instance) (env : Env) (step : Step) : Call :=
  let scope := i.scope env
  let context : StepContext := ⟨env, i.workspace, services.timeout i.job step⟩
  match step.action with
  | .run command =>
    let directory := match command.workingDirectory with
      | some directory => Path.join i.workspace (scope.render directory)
      | none => i.workspace
    ⟨.command (.script command.shell (scope.render command.command)),
      { context with directory := directory }⟩
  | .checkout options => ⟨.checkout options, context⟩
  | .toolchain options => ⟨.toolchain (renderToolchain scope options), context⟩

/-- How a request is seen to: by a call, or by commands if there is no collaborator for it. -/
def attend (services : Services) (request : Call) : Dialogue :=
  match request.errand with
  | .command _ => .once request
  | .checkout options =>
    if services.ownCheckout then .once request
    else checkoutDialogue services.isProgram options request.context
  | .toolchain options =>
    if services.ownToolchain then .once request
    else toolchainDialogue services.isProgram options request.context

/-- The calls of a step are those by which its request is seen to. -/
theorem dialogue_eq (services : Services) (i : Instance) (env : Env) (step : Step) :
    services.dialogue i env step = services.attend (services.request i env step) := by
  unfold dialogue attend request
  cases step.action <;> rfl

/-- The services are set up in the same way; which programs there are may differ. -/
def Like (services services' : Services) : Prop :=
  services.defaultTimeout = services'.defaultTimeout ∧
    services.ownCheckout = services'.ownCheckout ∧ services.ownToolchain = services'.ownToolchain

section Like

variable {services services' : Services} (h : services.Like services')

theorem Like.refl (services : Services) : services.Like services := ⟨rfl, rfl, rfl⟩

include h

theorem Like.timeout_eq (job : Job) (step : Step) :
    services.timeout job step = services'.timeout job step := by
  rw [timeout, timeout, h.1]

theorem Like.request_eq (i : Instance) (env : Env) (step : Step) :
    services.request i env step = services'.request i env step := by
  unfold request
  rw [h.timeout_eq]

end Like

/-- If there is a collaborator for every request, it is a single call. -/
theorem attend_eq_once {services : Services} (hcheckout : services.ownCheckout = true)
    (htoolchain : services.ownToolchain = true) (request : Call) :
    services.attend request = .once request := by
  unfold attend
  split
  · rfl
  · rw [if_pos hcheckout]
  · rw [if_pos htoolchain]

/-- A request carries the environment and the time limit of the step. -/
theorem request_context (services : Services) (i : Instance) (env : Env) (step : Step) :
    (services.request i env step).context.env = env ∧
      (services.request i env step).context.timeout = services.timeout i.job step := by
  unfold request
  cases step.action <;> exact ⟨rfl, rfl⟩

end Services

/-! ## Exchanges -/

/-- A call with its reply, and the time that it took. -/
@[ext] structure Exchange where
  call : Call
  after : Duration
  reply : Reply

/-- The time that exchanges take, one after the other. -/
def Exchange.time (xs : List Exchange) : Duration :=
  xs.foldl (fun spent x => spent.add x.after) Duration.zero

namespace Exchange

theorem time_concat (xs : List Exchange) (x : Exchange) :
    time (xs ++ [x]) = (time xs).add x.after := by
  simp [time]

theorem time_le_append (xs ys : List Exchange) : (time xs).nanos ≤ (time (xs ++ ys)).nanos := by
  induction ys using List.reverseRecOn with
  | nil => simp
  | append_singleton ys y ih =>
    rw [← List.append_assoc, time_concat]
    exact Nat.le_trans ih (Nat.le_add_right _ _)

end Exchange

namespace Dialogue

/-- The exchanges lead from one point of a dialogue to another. -/
inductive Through : Dialogue → List Exchange → Dialogue → Prop
  | here (d : Dialogue) : Through d [] d
  | ask {call : Call} {after : Duration} {reply : Reply} {next : Reply → Dialogue}
      {xs : List Exchange} {d : Dialogue} (h : Through (next reply) xs d) :
      Through (.ask call next) (⟨call, after, reply⟩ :: xs) d

section Through

variable {d d' d'' : Dialogue} {xs ys : List Exchange}

theorem Through.append (h : d.Through xs d') (h' : d'.Through ys d'') :
    d.Through (xs ++ ys) d'' := by
  induction h with
  | here => exact h'
  | ask _ ih => exact .ask (ih h')

theorem Through.snoc {call : Call} {next : Reply → Dialogue} (h : d.Through xs (.ask call next))
    (after : Duration) (reply : Reply) :
    d.Through (xs ++ [⟨call, after, reply⟩]) (next reply) :=
  h.append (.ask (.here _))

theorem Through.unique (h : d.Through xs d') (h' : d.Through xs d'') : d' = d'' := by
  induction h with
  | here => cases h'; rfl
  | ask _ ih =>
    cases h' with
    | ask h' => exact ih h'

/-- Exchanges that lead somewhere by way of the first ones of them. -/
theorem Through.of_append (h : d.Through (xs ++ ys) d'') :
    ∃ d', d.Through xs d' ∧ d'.Through ys d'' := by
  induction xs generalizing d with
  | nil => exact ⟨d, .here d, h⟩
  | cons x xs ih =>
    cases h with
    | ask h =>
      obtain ⟨d', h₁, h₂⟩ := ih h
      exact ⟨d', .ask h₁, h₂⟩

/-- A dialogue that is done goes nowhere. -/
theorem Through.eq_of_done {reply : Reply} (h : (Dialogue.done reply).Through xs d) :
    xs = [] ∧ d = .done reply := by
  cases h
  exact ⟨rfl, rfl⟩

theorem Through.of_once {call : Call} (h : (once call).Through xs d) :
    xs = [] ∧ d = once call ∨ ∃ after reply, xs = [⟨call, after, reply⟩] ∧ d = .done reply := by
  cases h with
  | here => exact .inl ⟨rfl, rfl⟩
  | ask h =>
    obtain ⟨rfl, rfl⟩ := h.eq_of_done
    exact .inr ⟨_, _, rfl, rfl⟩

end Through

/-- How a step with a limit ends that makes these calls: with the result to which the exchanges
lead, or without one because the last of them has come too late. -/
inductive Ends (limit : Option Duration) (d : Dialogue) : List Exchange → Reply → Prop
  | answered {xs : List Exchange} {reply : Reply} (h : d.Through xs (.done reply))
      (htime : isLate limit (Exchange.time xs) = false) : Ends limit d xs reply
  | givenUp {xs : List Exchange} {x : Exchange} {next : Reply → Dialogue}
      (h : d.Through xs (.ask x.call next)) (htime : isLate limit (Exchange.time xs) = false)
      (hlate : isLate limit (Exchange.time (xs ++ [x])) = true) : Ends limit d (xs ++ [x]) lateReply

/-- A step that makes a single call has one exchange. -/
theorem Ends.of_once {limit : Option Duration} {call : Call} {xs : List Exchange} {reply : Reply}
    (h : (once call).Ends limit xs reply) : ∃ x, xs = [x] ∧ x.call = call := by
  cases h with
  | answered h =>
    obtain ⟨rfl, heq⟩ | ⟨after, reply', rfl, -⟩ := h.of_once
    · cases heq
    · exact ⟨_, rfl, rfl⟩
  | givenUp h =>
    obtain ⟨rfl, heq⟩ | ⟨after, reply', rfl, heq⟩ := h.of_once
    · cases heq
      exact ⟨_, rfl, rfl⟩
    · cases heq

/-- What can be replied to the calls that are left, so that a dialogue comes to a result. -/
theorem exists_through (d : Dialogue) : ∃ ys result, d.Through ys (.done result) := by
  induction d with
  | done reply => exact ⟨[], reply, .here _⟩
  | ask call next ih =>
    obtain ⟨ys, result, h⟩ := ih lateReply
    exact ⟨⟨call, Duration.zero, lateReply⟩ :: ys, result, .ask h⟩

/-- The collaborator of a step that has ended would also come to a result of its own. -/
theorem Ends.exists_through {limit : Option Duration} {d : Dialogue} {xs : List Exchange}
    {reply : Reply} (h : Ends limit d xs reply) :
    ∃ ys result, xs <+: ys ∧ d.Through ys (.done result) := by
  cases h with
  | answered h => exact ⟨xs, reply, List.prefix_rfl, h⟩
  | @givenUp xs x next h =>
    obtain ⟨ys, result, hrest⟩ := (next x.reply).exists_through
    exact ⟨_, result, List.prefix_append _ ys, (h.snoc x.after x.reply).append hrest⟩

/-- A collaborator that has begun with these exchanges comes to a result by `ys`: the step takes it,
unless the time is over by then. -/
theorem Ends.reply_eq {limit : Option Duration} {d : Dialogue} {xs ys : List Exchange}
    {reply result : Reply} (h : Ends limit d xs reply) (hpre : xs <+: ys)
    (hd : d.Through ys (.done result)) :
    reply = if isLate limit (Exchange.time ys) then lateReply else result := by
  obtain ⟨zs, rfl⟩ := hpre
  cases h with
  | answered hx htime =>
    obtain ⟨d', hx', hz⟩ := hd.of_append
    rw [← hx.unique hx'] at hz
    obtain ⟨rfl, heq⟩ := hz.eq_of_done
    cases heq
    rw [List.append_nil, htime]
    rfl
  | givenUp hx htime hlate =>
    rw [if_pos (isLate_mono hlate (Exchange.time_le_append _ zs))]

end Dialogue

end MatrixFlow
