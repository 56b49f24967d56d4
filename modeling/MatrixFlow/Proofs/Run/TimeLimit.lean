import MatrixFlow.Proofs.Run.Chronicle

/-!
# Steps under their time limit

* `Services.Limits`: the limit that counts for a step.
* `Ending limit taken result output failure`: how a step ends whose collaborator takes so much time
  to come to a result. `StepOutcome.Classified`: an outcome tells such an end.
* `Chronicle.outcomes_classified`: in every run, every outcome is classified by what the
  collaborator did, and what it passes on is there for the next step.
* `Dialogue.Commands`: at most so many commands, the last of which decides.
* `Exchange.Needs`: a command that needs so much time is stopped at its limit before.
* `Chronicle.limit_of_commands`: which steps of commands time out. Two commands that need more than
  the limit together, and each of them not, do so only behind the grace time.
-/

namespace MatrixFlow

/-! ## Limits -/

/-- The limit of a step: so many minutes for itself or for its job, or the default. -/
inductive Services.Limits (services : Services) (job : Job) (step : Step) : Option Duration → Prop
  | own {minutes : Nat} (h : step.timeoutMinutes = some minutes) :
      Limits services job step (some (Duration.ofSeconds (minutes * 60)))
  | job {minutes : Nat} (h : step.timeoutMinutes = none)
      (hjob : job.timeoutMinutes = some minutes) :
      Limits services job step (some (Duration.ofSeconds (minutes * 60)))
  | default (h : step.timeoutMinutes = none) (hjob : job.timeoutMinutes = none) :
      Limits services job step services.defaultTimeout

theorem Services.timeout_limits (services : Services) (job : Job) (step : Step) :
    services.Limits job step (services.timeout job step) := by
  unfold timeout
  cases h : step.timeoutMinutes with
  | some minutes => exact .own h
  | none =>
    cases hjob : job.timeoutMinutes with
    | some minutes => exact .job h hjob
    | none => exact .default h hjob

theorem Services.Limits.eq_timeout {services : Services} {job : Job} {step : Step}
    {limit : Option Duration} (h : services.Limits job step limit) :
    services.timeout job step = limit := by
  cases h with
  | own h => simp [timeout, h, Duration.ofMinutes]
  | job h hjob => simp [timeout, h, hjob, Duration.ofMinutes]
  | default h hjob => simp [timeout, h, hjob]

/-- A result that takes so much time comes within the limit and a second. -/
def InTime (limit : Option Duration) (taken : Duration) : Prop :=
  ∀ l, limit = some l → taken.nanos ≤ (l.add (Duration.ofSeconds 1)).nanos

theorem isLate_eq_false {limit : Option Duration} {taken : Duration} :
    isLate limit taken = false ↔ InTime limit taken := by
  unfold InTime
  cases limit with
  | none => simp [isLate_none]
  | some l =>
    rw [isLate_some, decide_eq_false_iff_not, Nat.not_lt]
    exact ⟨fun h l' hl => by cases hl; exact h, fun h => h l rfl⟩

theorem isLate_eq_true {limit : Option Duration} {taken : Duration} : isLate limit taken = true ↔
    ∃ l, limit = some l ∧ (l.add (Duration.ofSeconds 1)).nanos < taken.nanos := by
  rw [← Bool.not_eq_false, isLate_eq_false, InTime]
  simp only [not_forall, Nat.not_le, exists_prop]

/-! ## How steps end -/

/-- The text explains why a command failed: its error output, or else the last line of its output
that is not blank, or nothing if there is none. Blanks around it do not count. -/
inductive CommandOutput.Explains (o : CommandOutput) : String → Prop
  | stderr (h : o.stderr.trimBlanks ≠ "") : Explains o o.stderr.trimBlanks
  | stdout {before after : List String} {line : String} (h : o.stderr.trimBlanks = "")
      (hlines : o.stdout.textLines.map String.trimBlanks = before ++ line :: after)
      (hline : line ≠ "") (hafter : ∀ l ∈ after, l = "") : Explains o line
  | nothing (h : o.stderr.trimBlanks = "")
      (hlines : ∀ l ∈ o.stdout.textLines.map String.trimBlanks, l = "") : Explains o ""

theorem exitDiagnostic_explains (o : CommandOutput) : o.Explains (exitDiagnostic o) := by
  unfold exitDiagnostic
  dsimp only
  split
  · rename_i h
    rw [String.isEmpty_iff] at h
    -- the lines are searched from the last one on
    rw [List.map_reverse]
    cases hfind : (o.stdout.textLines.map String.trimBlanks).reverse.find? fun l => !l.isEmpty with
    | none =>
      rw [List.find?_eq_none] at hfind
      exact .nothing h fun l hl => by simpa using hfind l (List.mem_reverse.mpr hl)
    | some line =>
      obtain ⟨hline, after, before, heq, hafter⟩ := List.find?_eq_some_iff_append.mp hfind
      have hlines : o.stdout.textLines.map String.trimBlanks =
          before.reverse ++ line :: after.reverse := by
        rw [← List.reverse_reverse (o.stdout.textLines.map _), heq]
        simp
      exact .stdout h hlines (by simpa using hline) fun l hl => by
        simpa using hafter l (List.mem_reverse.mp hl)
  · rename_i h
    exact .stderr (by simpa using h)

/-- How a step with this limit ends whose collaborator takes so much time to come to a result: the
output that is kept, and the failure if there is one. -/
inductive Ending (limit : Option Duration) (taken : Duration) :
    Reply → CommandOutput → Option StepFailure → Prop
  | late {l : Duration} (result : Reply) (h : limit = some l)
      (hlate : (l.add (Duration.ofSeconds 1)).nanos < taken.nanos) :
      Ending limit taken result { CommandOutput.empty with timedOut := true } (some (.timedOut l))
  | unavailable (e : CollaboratorError) (h : InTime limit taken) : Ending limit taken (.error e)
      CommandOutput.empty (some (.unavailable e.collaborator e.diagnostic))
  | stopped {output : CommandOutput} (h : InTime limit taken) (hstopped : output.timedOut = true) :
      Ending limit taken (.ok output) output (some (.timedOut (limit.getD Duration.zero)))
  | exit {output : CommandOutput} {text : String} (h : InTime limit taken)
      (hstopped : output.timedOut = false) (hexit : output.exitCode ≠ some 0)
      (htext : output.Explains text) :
      Ending limit taken (.ok output) output (some (.exit output.exitCode text))
  | success {output : CommandOutput} (h : InTime limit taken) (hstopped : output.timedOut = false)
      (hexit : output.exitCode = some 0) : Ending limit taken (.ok output) output none

/-- A step succeeds by a result in time with exit code zero, and by nothing else. -/
theorem Ending.failure_eq_none {limit : Option Duration} {taken : Duration} {result : Reply}
    {output : CommandOutput} {failure : Option StepFailure}
    (h : Ending limit taken result output failure) : failure = none ↔ InTime limit taken ∧
      result = .ok output ∧ output.timedOut = false ∧ output.exitCode = some 0 := by
  cases h with
  | late result h hlate => exact ⟨nofun, fun ⟨hin, _⟩ => absurd (hin _ h) (Nat.not_le.mpr hlate)⟩
  | unavailable e h => exact ⟨nofun, fun ⟨_, heq, _⟩ => by cases heq⟩
  | stopped h hstopped => exact ⟨nofun, fun ⟨_, _, hnot, _⟩ => by rw [hstopped] at hnot; cases hnot⟩
  | exit h hstopped hexit => exact ⟨nofun, fun ⟨_, _, _, hzero⟩ => absurd hzero hexit⟩
  | success h hstopped hexit => exact ⟨fun _ => ⟨h, rfl, hstopped, hexit⟩, fun _ => rfl⟩

/-- What the collaborator says does not matter any more when it is late. -/
theorem Ending.of_late {l taken : Duration} {result : Reply} {output : CommandOutput}
    {failure : Option StepFailure} (h : Ending (some l) taken result output failure)
    (hlate : (l.add (Duration.ofSeconds 1)).nanos < taken.nanos) :
    output = { CommandOutput.empty with timedOut := true } ∧ failure = some (.timedOut l) := by
  cases h with
  | late result h => cases h; exact ⟨rfl, rfl⟩
  | unavailable _ h | stopped h | exit h | success h =>
    exact absurd (h l rfl) (Nat.not_le.mpr hlate)

theorem classify_ending (limit : Option Duration) (taken : Duration) (result : Reply) :
    Ending limit taken result
      (classify limit (if isLate limit taken then lateReply else result)).1
      (classify limit (if isLate limit taken then lateReply else result)).2 := by
  split
  · rename_i hlate
    obtain ⟨l, rfl, hbeyond⟩ := isLate_eq_true.mp hlate
    exact .late result rfl hbeyond
  · rename_i hlate
    have hin : InTime limit taken := isLate_eq_false.mp (Bool.eq_false_iff.mpr hlate)
    cases result with
    | error e => exact .unavailable e hin
    | ok output =>
      unfold classify
      dsimp only
      split
      · rename_i hstopped
        exact .stopped hin hstopped
      · rename_i hstopped
        have hstopped := Bool.eq_false_iff.mpr hstopped
        split
        · rename_i hsuccess
          refine .success hin hstopped ?_
          simpa [CommandOutput.isSuccess, hstopped] using hsuccess
        · rename_i hsuccess
          refine .exit hin hstopped ?_ (exitDiagnostic_explains output)
          simpa [CommandOutput.isSuccess, hstopped] using hsuccess

/-- The outcome tells how a step with this limit ended, whose collaborator took so much time to come
to a result, and what it passes on. -/
structure StepOutcome.Classified (limit : Option Duration) (taken : Duration) (result : Reply)
    (o : StepOutcome) : Prop where
  ending : ∃ output, Ending limit taken result output o.failure ∧ o.exitCode = output.exitCode ∧
    o.stdout = output.stdout ∧ o.stderr = output.stderr
  success_iff : o.failure = none ↔ InTime limit taken ∧ ∃ output, result = .ok output ∧
    output.timedOut = false ∧ output.exitCode = some 0
  /-- Nothing, unless the step succeeded. -/
  exported : o.exported = o.passesOn.vars

theorem closeStep_classified (services : Services) (i : Instance) (p : Progress) (step : Step)
    (taken : Duration) (result : Reply) :
    (closeStep services i p step
      (if isLate (services.timeout i.job step) taken then lateReply else result)).outcome.Classified
        (services.timeout i.job step) taken result := by
  have hend := classify_ending (services.timeout i.job step) taken result
  refine ⟨⟨_, hend, rfl, rfl, rfl⟩, ?_, rfl⟩
  constructor
  · intro h
    obtain ⟨hin, hresult, hkept⟩ := hend.failure_eq_none.mp h
    exact ⟨hin, _, hresult, hkept⟩
  · rintro ⟨hin, output, rfl, hstopped, hexit⟩
    have hlate := isLate_eq_false.mpr hin
    simp [closeStep, hlate, classify, hstopped, hexit, CommandOutput.isSuccess]

/-! ## Outcomes in runs -/

/-- The outcomes that the instance has recorded. -/
def Phase.outcomes : Phase → List StepOutcome
  | .between p _ | .asking p .. => p.outcomes
  | .leaving r | .recorded r | .releasing r | .settled r => r.steps
  | .waiting | .opening | .entering | .crashed => []

/-- Every outcome that is recorded is that of a step that was done. -/
theorem Phase.Chronicled.worked {services : Services} {i : Instance} {deeds : List Deed} {x : Phase}
    (h : x.Chronicled services i deeds) :
    ∃ talks, i.Worked services talks x.outcomes ∧ DoneBy deeds talks := by
  have nothing : i.Worked services [] [] := i.worked_nil services
  have result : ∀ r : InstanceResult, r.Chronicled services i deeds →
      ∃ talks, i.Worked services talks r.steps ∧ DoneBy deeds talks := by
    rintro r (⟨rfl, rfl⟩ | ⟨talks, hworked, rfl⟩)
    · exact ⟨[], nothing, .inl rfl⟩
    · refine ⟨talks, hworked, .inr ⟨_, rfl, ?_⟩⟩
      split
      · exact fun d hd => ⟨true, (Option.some.inj hd).symm⟩
      · exact nofun
  cases x with
  | waiting | opening | entering | crashed => exact ⟨[], nothing, .inl rfl⟩
  | between p rest =>
    obtain ⟨outcomes, talks, rfl, hworked, rfl⟩ := h
    exact ⟨talks, hworked, .inr ⟨[], (List.append_nil _).symm, nofun⟩⟩
  | asking p step rest spent call next =>
    obtain ⟨outcomes, xs, before, services', rfl, hears, rfl, -⟩ := h
    obtain ⟨talks, hworked, rfl⟩ := hears.deeds
    refine ⟨talks, hworked, .inr ⟨_, List.append_assoc .., ?_⟩⟩
    exact fun d hd => ⟨false, (Option.some.inj hd).symm⟩
  | leaving r | recorded r | releasing r | settled r => exact result r h

theorem Phase.Chronicled.env_eq {services : Services} {i : Instance} {deeds : List Deed} {x : Phase}
    (h : x.Chronicled services i deeds) {p : Progress} {step : Step}
    (hx : x.step? = some (p, step)) : p.env = i.envAfter x.outcomes := by
  unfold step? at hx
  split at hx <;> cases hx
  · obtain ⟨outcomes, -, rfl, -⟩ := h
    rfl
  · obtain ⟨outcomes, -, -, -, rfl, -⟩ := h
    rfl

theorem Instance.envAfter_succ (i : Instance) {outcomes : List StepOutcome} {n : Nat}
    {o : StepOutcome} (h : outcomes[n]? = some o) :
    i.envAfter (outcomes.take (n + 1)) = (i.envAfter (outcomes.take n)).apply o.passesOn := by
  rw [List.take_add_one, h, Option.toList_some, envAfter, List.foldl_concat]
  rfl

/-- The outcome of a step behind others is classified by what the collaborator did that it asked,
under the limit and in the environment of the step: whatever the result is to which the exchanges
lead that the step has heard, and how much time it takes until then. -/
structure Instance.Classified (services services' : Services) (i : Instance)
    (before : List StepOutcome) (step : Step) (xs : List Exchange) (limit : Option Duration)
    (o : StepOutcome) : Prop where
  limits : services.Limits i.job step limit
  timeout : (i.requestAfter services before step).context.timeout = limit
  env : (i.requestAfter services before step).context.env = (i.envAfter before).forStep step i
  result : ∃ ys result, xs <+: ys ∧
    (services'.attend (i.requestAfter services before step)).Through ys (.done result)
  classified : ∀ ys result, xs <+: ys →
    (services'.attend (i.requestAfter services before step)).Through ys (.done result) →
    o.Classified limit (Exchange.time ys) result

theorem Instance.Did.classified {services : Services} {i : Instance} {before : List StepOutcome}
    {step : Step} {xs : List Exchange} {o : StepOutcome} (h : i.Did services before step xs o) :
    ∃ services' limit, services'.Like services ∧
      i.Classified services services' before step xs limit o := by
  obtain ⟨services', reply, hlike, hends, rfl⟩ := h
  obtain ⟨henv, htimeout⟩ := services.request_context i ((i.envAfter before).forStep step i) step
  refine ⟨services', _, hlike, services.timeout_limits i.job step, htimeout, henv,
    hends.exists_through, fun ys result hpre hys => ?_⟩
  rw [hends.reply_eq hpre hys]
  exact closeStep_classified ..

section Runs

variable {services : Services} {s₀ s : RunState} {k j : Nat} {trace : List (Move × List Event)}
  {deeds : List Deed} {i : Instance} {run₀ run : JobRun} {t : TaskRun}

/-- In every run, every outcome that an instance has recorded is classified by what the collaborator
of the step did. What the step passes on, if it succeeded, is applied before the next one. -/
theorem Chronicle.outcomes_classified (h : Chronicle (SetUp services) s₀ k j trace deeds s)
    (h0 : s₀.task? k j = some (run₀, TaskRun.start i)) (ht : s.task? k j = some (run, t)) :
    (∃ talks, DoneBy deeds talks ∧ talks.length = t.phase.outcomes.length ∧
      ∀ (n : Nat) xs o, talks[n]? = some xs → t.phase.outcomes[n]? = some o →
        ∃ step services' limit, i.job.steps[n]? = some step ∧ services'.Like services ∧
          i.Classified services services' (t.phase.outcomes.take n) step xs limit o) ∧
    (∀ (n : Nat) o, t.phase.outcomes[n]? = some o →
      i.envAfter (t.phase.outcomes.take (n + 1)) = (i.envAfter (t.phase.outcomes.take n)).apply
        (if o.failure = none then Exports.ofOutput o.stdout else Exports.empty)) ∧
    ∀ p step, t.phase.step? = some (p, step) → p.env = i.envAfter t.phase.outcomes := by
  obtain ⟨-, -, hc⟩ := h.chronicled h0 ht
  obtain ⟨talks, hworked, hdeeds⟩ := hc.worked
  refine ⟨⟨talks, hdeeds, hworked.length, fun n xs o hxs ho => ?_⟩, fun n o ho => ?_,
    fun p step hstep => hc.env_eq hstep⟩
  · obtain ⟨step, hstep, hdid⟩ := hworked.did n xs o hxs ho
    obtain ⟨services', limit, hlike, hclassified⟩ := hdid.classified
    exact ⟨step, services', limit, hstep, hlike, hclassified⟩
  · rw [i.envAfter_succ ho]
    simp only [StepOutcome.passesOn, Option.isNone_iff_eq_none]

end Runs

namespace Sample

/-- Collaborators do everything, and steps have a minute. -/
def timed : Services := ⟨some (Duration.ofMinutes 1), fun _ => false, true, true⟩

/-- The reply of a process that passes a variable on. -/
def exporting : Reply := .ok ⟨some 0, "::set-env name=B::exported", "", false⟩

/-- The outcome of the first of two steps with this reply. -/
def firstOutcome : StepOutcome :=
  (closeStep timed layeredInst (layeredInst.progressAfter []) layeredJob.steps[0] exporting).outcome

/-- The first step passes a variable on, and the second one is two seconds late. -/
def lateTalks : List (List Exchange) :=
  [[⟨layeredInst.requestAfter timed [] layeredJob.steps[0], Duration.ofSeconds 60, exporting⟩],
    [⟨layeredInst.requestAfter timed [firstOutcome] layeredJob.steps[1], Duration.ofSeconds 62,
      reply 0⟩]]

/-- The moves up to the end of the second step. -/
def lateMoves : List Move :=
  List.replicate 4 (.task 0 0 .go) ++
    [.task 0 0 (.reply (Duration.ofSeconds 60) exporting), .task 0 0 .go,
      .task 0 0 (.reply (Duration.ofSeconds 62) (reply 0))]

end Sample

/-- A step that succeeds passes its variable on; one that is late fails, whatever the reply is. -/
theorem Chronicle.outcomes_classified_sample : ∃ trace s run t o o',
    Chronicle (SetUp Sample.timed)
      (RunState.start [⟨Sample.layeredJob, .ok [Sample.layeredInst], ⟨true, none⟩⟩]) 0 0 trace
      (workDeeds Sample.lateTalks) s ∧
    s.task? 0 0 = some (run, t) ∧ t.phase.outcomes = [o, o'] ∧ o.failure = none ∧
    Sample.layeredInst.envAfter [o] = (StepEnv.start Sample.layeredInst).apply
      (Exports.ofOutput "::set-env name=B::exported") ∧
    o'.failure = some (.timedOut (Duration.ofMinutes 1)) ∧ o'.exitCode = none := by
  obtain ⟨trace, s, run, t, h, ht, hcheck⟩ := RunState.exists_chronicle (SetUp Sample.timed)
    Sample.timed (RunState.start [⟨Sample.layeredJob, .ok [Sample.layeredInst], ⟨true, none⟩⟩]) 0 0
    Sample.lateMoves (fun t => t.phase.outcomes.length == 2) (by decide)
    (fun _ _ _ => Services.Like.refl _)
  change Chronicle _ _ _ _ _ (workDeeds Sample.lateTalks) s at h
  obtain ⟨o, o', ho⟩ := List.length_eq_two.mp (eq_of_beq hcheck)
  obtain ⟨⟨talks, hdone, hlen, hclassified⟩, henv, -⟩ := Chronicle.outcomes_classified h rfl ht
  obtain rfl := hdone.unique (.inr ⟨[], (List.append_nil _).symm, nofun⟩) (by rw [hlen, ho]; rfl)
  rw [ho] at hclassified henv
  obtain ⟨step, services', limit, hstep, hlike, hfirst⟩ := hclassified 0 _ o rfl rfl
  obtain ⟨step', services'', limit', hstep', -, hsecond⟩ := hclassified 1 _ o' rfl rfl
  cases hstep
  cases hstep'
  obtain rfl := hfirst.limits.eq_timeout
  obtain rfl := hsecond.limits.eq_timeout
  have hearly := hfirst.classified [_] Sample.exporting List.prefix_rfl (by
    rw [Services.attend_eq_once hlike.2.1 hlike.2.2]
    exact .ask (.here _))
  have hnone := hearly.success_iff.mpr ⟨isLate_eq_false.mp (by decide), _, rfl, rfl, rfl⟩
  obtain ⟨output, hend, -, hstdout, -⟩ := hearly.ending
  obtain ⟨-, heq, -⟩ := hend.failure_eq_none.mp hnone
  rw [← Except.ok.inj heq] at hstdout
  have hpassed := henv 0 o rfl
  rw [if_pos hnone, hstdout] at hpassed
  obtain ⟨ys, result, ⟨zs, rfl⟩, hys⟩ := hsecond.result
  obtain ⟨output, hend, hexit, -⟩ :=
    (hsecond.classified _ result (List.prefix_append _ _) hys).ending
  obtain ⟨rfl, hlate⟩ := hend.of_late
    (Nat.lt_of_lt_of_le (by decide) (Exchange.time_le_append [_] zs))
  exact ⟨trace, s, run, t, o, o', h, ht, ho, hnone, hpassed, hlate, hexit⟩

/-! ## Steps of commands -/

/-- The command behind the reply was stopped at its limit. -/
def isStopped : Reply → Bool
  | .ok output => output.timedOut
  | .error _ => false

/-- A command that needs so much time is stopped at the limit that it is given, and ends by itself
if there is none before. -/
structure Exchange.Needs (x : Exchange) (need : Duration) : Prop where
  stopped : ∀ l, x.call.context.timeout = some l → l.nanos < need.nanos →
    x.after = l ∧ isStopped x.reply = true
  ended : (∀ l, x.call.context.timeout = some l → need.nanos ≤ l.nanos) →
    x.after = need ∧ isStopped x.reply = false

/-- At most so many commands are left, all in one context. Behind one that was stopped there is no
other, and the result was stopped if the last one was. -/
def Dialogue.Commands (context : StepContext) : Nat → Bool → Dialogue → Prop
  | _, stopped, .done reply => isStopped reply = stopped
  | 0, _, .ask _ _ => False
  | n + 1, stopped, .ask call next => call.context = context ∧ stopped = false ∧
      ∀ reply, (next reply).Commands context n (isStopped reply)

namespace Dialogue

variable {context : StepContext}

theorem commands_once {call : Call} (h : call.context = context) :
    (once call).Commands context 2 false :=
  ⟨h, rfl, fun _ => rfl⟩

theorem commands_twoCommands {first : Call} {second : Option Call} (h : first.context = context)
    (h' : ∀ call ∈ second, call.context = context) :
    (twoCommands first second).Commands context 2 false := by
  refine ⟨h, rfl, fun reply => ?_⟩
  cases reply with
  | error e => rfl
  | ok output =>
    cases second with
    | none => rfl
    | some call =>
      dsimp only
      split
      · rename_i hsuccess
        have hstopped : output.timedOut = false := by
          rw [CommandOutput.isSuccess, Bool.and_eq_true, Bool.not_eq_true'] at hsuccess
          exact hsuccess.1
        refine ⟨h' call rfl, hstopped, fun reply => ?_⟩
        cases reply <;> rfl
      · rfl

/-- Exchanges leave fewer commands, and tell whether one was stopped. -/
theorem Commands.through {n : Nat} {stopped : Bool} {d d' : Dialogue} {xs : List Exchange}
    (h : d.Commands context n stopped) (hd : d.Through xs d') :
    ∃ m, xs.length + m = n ∧ (∀ x ∈ xs, x.call.context = context) ∧
      d'.Commands context m (stopped || xs.any fun x => isStopped x.reply) := by
  induction hd generalizing n stopped with
  | here => exact ⟨n, by simp, by simp, by simpa using h⟩
  | @ask call after reply next xs d' _ ih =>
    cases n with
    | zero => exact h.elim
    | succ n =>
      -- no command before was stopped, so what counts is whether this one was
      obtain ⟨hcall, rfl, hnext⟩ := h
      obtain ⟨m, hlen, hcontext, hm⟩ := ih (hnext reply)
      refine ⟨m, by simp only [List.length_cons]; omega, ?_, by simpa using hm⟩
      exact List.forall_mem_cons.mpr ⟨hcall, hcontext⟩

/-- A step of commands is stopped if one of them was, or if they took too much time together. -/
theorem Commands.ends {n : Nat} {d : Dialogue} {xs : List Exchange} {limit : Option Duration}
    {reply : Reply} (h : d.Commands context n false) (hends : d.Ends limit xs reply) :
    xs.length ≤ n ∧ (∀ x ∈ xs, x.call.context = context) ∧
      (isStopped reply = true ↔
        (∃ x ∈ xs, isStopped x.reply = true) ∨ isLate limit (Exchange.time xs) = true) := by
  cases hends with
  | answered hd htime =>
    obtain ⟨m, hlen, hcontext, hm⟩ := h.through hd
    rw [Commands, Bool.false_or] at hm
    refine ⟨by omega, hcontext, ?_⟩
    rw [hm, htime, List.any_eq_true]
    simp
  | @givenUp xs x next hd htime hlate =>
    obtain ⟨m, hlen, hcontext, hm⟩ := h.through hd
    cases m with
    | zero => exact hm.elim
    | succ m =>
      refine ⟨by simp only [List.length_append, List.length_singleton]; omega, ?_,
        iff_of_true rfl (.inr hlate)⟩
      exact List.forall_mem_append.mpr ⟨hcontext, List.forall_mem_singleton.mpr hm.1⟩

end Dialogue

/-- Without other collaborators, a step makes at most two commands. -/
theorem Services.attend_commands {services : Services} (hcheckout : services.ownCheckout = false)
    (htoolchain : services.ownToolchain = false) (request : Call) :
    (services.attend request).Commands request.context 2 false := by
  unfold attend
  split
  · exact Dialogue.commands_once rfl
  · rw [hcheckout, if_neg Bool.false_ne_true]
    unfold checkoutDialogue
    split
    · rfl
    · refine Dialogue.commands_twoCommands rfl fun call hcall => ?_
      split at hcall <;> cases hcall
      rfl
  · rw [htoolchain, if_neg Bool.false_ne_true]
    unfold toolchainDialogue
    split
    · rfl
    · refine Dialogue.commands_twoCommands rfl fun call hcall => ?_
      split at hcall <;> cases hcall
      rfl

/-- So many times, one after the other. -/
def Duration.total (ds : List Duration) : Duration := ds.foldl Duration.add Duration.zero

theorem Duration.nanos_foldl_add (d : Duration) (ds : List Duration) :
    (ds.foldl Duration.add d).nanos = d.nanos + (total ds).nanos := by
  induction ds generalizing d with
  | nil => rfl
  | cons d' ds ih =>
    rw [total, List.foldl_cons, List.foldl_cons, ih, ih (Duration.zero.add d')]
    simp only [Duration.add, Duration.zero]
    omega

theorem Duration.nanos_total_cons (d : Duration) (ds : List Duration) :
    (total (d :: ds)).nanos = d.nanos + (total ds).nanos := by
  rw [total, List.foldl_cons, nanos_foldl_add]
  simp only [Duration.add, Duration.zero, Nat.zero_add]

section Needs

variable {l need : Duration} {x : Exchange} {xs : List Exchange} {needs : List Duration}

namespace Exchange

theorem Needs.isStopped_iff (h : x.Needs need) (hl : x.call.context.timeout = some l) :
    isStopped x.reply = true ↔ l.nanos < need.nanos := by
  constructor
  · intro hstopped
    refine Nat.lt_of_not_le fun hle => ?_
    obtain ⟨-, hnot⟩ := h.ended fun l' hl' => by rw [hl] at hl'; cases hl'; exact hle
    rw [hstopped] at hnot
    cases hnot
  · exact fun hlt => (h.stopped l hl hlt).2

theorem Needs.after_eq (h : x.Needs need) (hl : x.call.context.timeout = some l)
    (hle : need.nanos ≤ l.nanos) : x.after = need :=
  (h.ended fun l' hl' => by rw [hl] at hl'; cases hl'; exact hle).1

theorem Needs.after_le (h : x.Needs need) (hl : x.call.context.timeout = some l) :
    x.after.nanos ≤ need.nanos := by
  obtain hlt | hle := Nat.lt_or_ge l.nanos need.nanos
  · rw [(h.stopped l hl hlt).1]
    exact Nat.le_of_lt hlt
  · exact Nat.le_of_eq (congrArg _ (h.after_eq hl hle))

theorem time_eq_total (xs : List Exchange) : time xs = Duration.total (xs.map (·.after)) :=
  List.foldl_map.symm

/-- What commands take, by what they need. -/
theorem needs_time (h : List.Forall₂ Needs xs needs)
    (hl : ∀ x ∈ xs, x.call.context.timeout = some l) :
    ((∃ x ∈ xs, isStopped x.reply = true) ↔ ∃ need ∈ needs, l.nanos < need.nanos) ∧
      (time xs).nanos ≤ (Duration.total needs).nanos ∧
      ((∀ need ∈ needs, need.nanos ≤ l.nanos) →
        (time xs).nanos = (Duration.total needs).nanos) := by
  rw [time_eq_total]
  induction h with
  | nil => simp
  | cons hx _ ih =>
    obtain ⟨hhead, hl⟩ := List.forall_mem_cons.mp hl
    obtain ⟨hstopped, hle, heq⟩ := ih hl
    rw [List.map_cons, Duration.nanos_total_cons, Duration.nanos_total_cons]
    refine ⟨?_, Nat.add_le_add (hx.after_le hhead) hle, fun hneeds => ?_⟩
    · rw [List.exists_mem_cons_iff, List.exists_mem_cons_iff, hx.isStopped_iff hhead, hstopped]
    · obtain ⟨hneed, hneeds⟩ := List.forall_mem_cons.mp hneeds
      rw [heq hneeds, hx.after_eq hhead hneed]

end Exchange

theorem classify_timedOut {reply : Reply} :
    (classify (some l) reply).2 = some (.timedOut l) ↔ isStopped reply = true := by
  cases reply with
  | error e => simp [classify, isStopped]
  | ok output =>
    unfold classify isStopped
    dsimp only
    split
    · rename_i hstopped
      simp [hstopped]
    · rename_i hstopped
      split <;> simp [hstopped]

/-- A step of commands times out if one of them needs more than the limit, or all of them together
more than the limit and a second. -/
theorem Instance.Did.timedOut_iff {services : Services} {i : Instance} {before : List StepOutcome}
    {step : Step} {o : StepOutcome} (h : i.Did services before step xs o)
    (hcheckout : services.ownCheckout = false) (htoolchain : services.ownToolchain = false)
    (hl : services.Limits i.job step (some l)) (hneeds : List.Forall₂ Exchange.Needs xs needs) :
    needs.length ≤ 2 ∧ (o.failure = some (.timedOut l) ↔ (∃ need ∈ needs, l.nanos < need.nanos) ∨
      (l.add (Duration.ofSeconds 1)).nanos < (Duration.total needs).nanos) := by
  obtain ⟨services', reply, hlike, hends, rfl⟩ := h
  obtain ⟨-, htimeout⟩ := services.request_context i ((i.envAfter before).forStep step i) step
  rw [hl.eq_timeout] at hends htimeout
  obtain ⟨hlen, hcontext, hstopped⟩ := (Services.attend_commands (hlike.2.1.trans hcheckout)
    (hlike.2.2.trans htoolchain) (i.requestAfter services before step)).ends hends
  obtain ⟨hover, hle, heq⟩ := Exchange.needs_time hneeds (l := l) fun x hx => by
    rw [hcontext x hx]
    exact htimeout
  refine ⟨hneeds.length_eq ▸ hlen, ?_⟩
  have hfailure : (closeStep services i (i.progressAfter before) step reply).outcome.failure =
      (classify (some l) reply).2 := by
    rw [← hl.eq_timeout]
    rfl
  rw [hfailure, classify_timedOut, hstopped, hover, isLate_eq_true]
  -- if no command was stopped, they took what they need
  refine or_congr_right' fun hnot => ?_
  have hall : ∀ need ∈ needs, need.nanos ≤ l.nanos := fun need hmem =>
    Nat.le_of_not_lt fun hlt => hnot ⟨need, hmem, hlt⟩
  rw [← heq hall]
  exact ⟨fun ⟨l', hl', hlt⟩ => by cases hl'; exact hlt, fun hlt => ⟨l, rfl, hlt⟩⟩

/-- A single command is stopped at the limit. -/
theorem exists_gt_of_total (hlen : needs.length ≤ 1) (h : l.nanos < (Duration.total needs).nanos) :
    ∃ need ∈ needs, l.nanos < need.nanos := by
  match needs, hlen with
  | [], _ => exact absurd h (Nat.not_lt_zero _)
  | [need], _ =>
    refine ⟨need, List.mem_singleton_self need, ?_⟩
    rwa [Duration.nanos_total_cons] at h

end Needs

/-- In every run without other collaborators, and with a runner that stops every command at the
limit that it is given, a step times out if one of its commands needs more than the limit, or if
they need more than the limit and a second together. So it times out whenever they need more than
the limit together, unless there are two of them, neither needs more by itself, and both are done
before the second is over. -/
theorem Chronicle.limit_of_commands {services : Services} {s₀ s : RunState} {k j : Nat}
    {trace : List (Move × List Event)} {deeds : List Deed} {i : Instance} {run₀ run : JobRun}
    {t : TaskRun} (h : Chronicle (SetUp services) s₀ k j trace deeds s)
    (h0 : s₀.task? k j = some (run₀, TaskRun.start i)) (ht : s.task? k j = some (run, t))
    (hcheckout : services.ownCheckout = false) (htoolchain : services.ownToolchain = false) :
    ∃ talks, DoneBy deeds talks ∧ talks.length = t.phase.outcomes.length ∧
      ∀ (n : Nat) xs o, talks[n]? = some xs → t.phase.outcomes[n]? = some o →
        ∃ step, i.job.steps[n]? = some step ∧ ∀ l needs,
          services.Limits i.job step (some l) → List.Forall₂ Exchange.Needs xs needs →
          (o.failure = some (.timedOut l) ↔ (∃ need ∈ needs, l.nanos < need.nanos) ∨
            (l.add (Duration.ofSeconds 1)).nanos < (Duration.total needs).nanos) ∧
          (l.nanos < (Duration.total needs).nanos →
            o.failure = some (.timedOut l) ∧ o.status = .failed ∨
            needs.length = 2 ∧ (∀ need ∈ needs, need.nanos ≤ l.nanos) ∧
              (Duration.total needs).nanos ≤ (l.add (Duration.ofSeconds 1)).nanos) := by
  obtain ⟨-, -, hc⟩ := h.chronicled h0 ht
  obtain ⟨talks, hworked, hdeeds⟩ := hc.worked
  refine ⟨talks, hdeeds, hworked.length, fun n xs o hxs ho => ?_⟩
  obtain ⟨step, hstep, hdid⟩ := hworked.did n xs o hxs ho
  refine ⟨step, hstep, fun l needs hl hneeds => ?_⟩
  obtain ⟨hlen, htimedOut⟩ := hdid.timedOut_iff hcheckout htoolchain hl hneeds
  refine ⟨htimedOut, fun hover => ?_⟩
  by_cases hfailure : o.failure = some (.timedOut l)
  · exact .inl ⟨hfailure, by rw [StepOutcome.status, hfailure]; rfl⟩
  · rw [htimedOut, not_or, Nat.not_lt] at hfailure
    obtain ⟨hnone, htotal⟩ := hfailure
    have htwo : ¬needs.length ≤ 1 := fun hle => hnone (exists_gt_of_total hle hover)
    have hsingle : ∀ need ∈ needs, need.nanos ≤ l.nanos := fun need hmem =>
      Nat.le_of_not_lt fun hlt => hnone ⟨need, hmem, hlt⟩
    exact .inr ⟨by omega, hsingle, htotal⟩

namespace Sample

/-- Toolchains are installed by commands. -/
def rustup : Services := ⟨none, fun path => path == "bin/rustup", false, false⟩

/-- A step of two commands, for one minute. -/
def toolchainStep : Step :=
  ⟨none, none, [], some 1, .toolchain ⟨"actions-rs/toolchain@v1", none, "stable", true, []⟩⟩

/-- A job with this step only. -/
def toolchainJob : Job :=
  ⟨"build", none, .label "linux", [("PATH", "bin")], Matrix.none, true, none, none, [toolchainStep]⟩

/-- The only instance of the job. -/
def toolchainInst : Instance :=
  ⟨toolchainJob, 0, Combination.empty, "linux",
    toolchainJob.instanceEnv Env.empty Combination.empty "linux" ".", "."⟩

/-- The run of the job, before the first move. -/
def toolchainStart : RunState := RunState.start [⟨toolchainJob, .ok [toolchainInst], ⟨true, none⟩⟩]

/-- A command of the step, which ends by itself. -/
def toolchainCommand (args : List String) (after : Duration) : Exchange :=
  let env := (toolchainInst.envAfter []).forStep toolchainStep toolchainInst
  ⟨StepContext.program ⟨env, ".", some (Duration.ofMinutes 1)⟩ "bin/rustup" args, after, reply 0⟩

/-- The two commands of the step, when the second one takes so much time. -/
def toolchainCommands (after : Duration) : List Exchange :=
  [toolchainCommand ["toolchain", "install", "stable", "--no-self-update"] (Duration.ofSeconds 40),
    toolchainCommand ["override", "set", "stable"] after]

/-- The moves up to the end of the step. -/
def toolchainMoves (after : Duration) : List Move :=
  List.replicate 4 (.task 0 0 .go) ++
    (toolchainCommands after).map fun x => .task 0 0 (.reply x.after x.reply)

theorem toolchainCommands_needs {after : Duration} (h : after.nanos ≤ 60000000000) :
    List.Forall₂ Exchange.Needs (toolchainCommands after) [Duration.ofSeconds 40, after] := by
  have ended : ∀ args need, need.nanos ≤ 60000000000 → (toolchainCommand args need).Needs need :=
    fun args need hle =>
      ⟨fun l hl hlt => by cases hl; exact absurd hle (Nat.not_le.mpr hlt), fun _ => ⟨rfl, rfl⟩⟩
  exact .cons (ended _ _ (by decide)) (.cons (ended _ _ h) .nil)

end Sample

/-- With 40 seconds and then 22 seconds, the step is over a second late, and times out. -/
theorem Chronicle.limit_of_commands_sample : ∃ trace s run t o,
    Chronicle (SetUp Sample.rustup) Sample.toolchainStart 0 0 trace
      (workDeeds [Sample.toolchainCommands (Duration.ofSeconds 22)]) s ∧
    s.task? 0 0 = some (run, t) ∧ t.phase.outcomes = [o] ∧
    o.failure = some (.timedOut (Duration.ofMinutes 1)) := by
  obtain ⟨trace, s, run, t, h, ht, hcheck⟩ := RunState.exists_chronicle (SetUp Sample.rustup)
    Sample.rustup Sample.toolchainStart 0 0 (Sample.toolchainMoves (Duration.ofSeconds 22))
    (fun t => t.phase.outcomes.length == 1) (by decide) (fun _ _ _ => Services.Like.refl _)
  change Chronicle _ _ _ _ _ (workDeeds [Sample.toolchainCommands _]) s at h
  obtain ⟨o, ho⟩ := List.length_eq_one_iff.mp (eq_of_beq hcheck)
  obtain ⟨talks, hdone, hlen, hlimit⟩ := Chronicle.limit_of_commands h rfl ht rfl rfl
  obtain rfl := hdone.unique (.inr ⟨[], (List.append_nil _).symm, nofun⟩) (by rw [hlen, ho]; rfl)
  obtain ⟨step, hstep, hneeds⟩ := hlimit 0 _ o rfl (by rw [ho]; rfl)
  cases hstep
  obtain ⟨htimedOut, -⟩ := hneeds _ _ (.own rfl) (Sample.toolchainCommands_needs (by decide))
  exact ⟨trace, s, run, t, o, h, ht, ho, htimedOut.mpr (.inr (by decide))⟩

/-- With 40 seconds and then 20.5 seconds, the step has taken more than its minute, and succeeds. -/
theorem RunState.succeeds_beyond_limit : ∃ trace s run t o,
    Chronicle (SetUp Sample.rustup) Sample.toolchainStart 0 0 trace
      (workDeeds [Sample.toolchainCommands (Duration.ofMillis 20500)]) s ∧
    s.task? 0 0 = some (run, t) ∧ t.phase.outcomes = [o] ∧
    Sample.rustup.Limits Sample.toolchainJob Sample.toolchainStep (some (Duration.ofMinutes 1)) ∧
    List.Forall₂ Exchange.Needs (Sample.toolchainCommands (Duration.ofMillis 20500))
      [Duration.ofSeconds 40, Duration.ofMillis 20500] ∧
    (Duration.ofMinutes 1).nanos <
      (Duration.total [Duration.ofSeconds 40, Duration.ofMillis 20500]).nanos ∧
    o.status = .succeeded := by
  obtain ⟨trace, s, run, t, h, ht, hcheck⟩ := RunState.exists_chronicle (SetUp Sample.rustup)
    Sample.rustup Sample.toolchainStart 0 0 (Sample.toolchainMoves (Duration.ofMillis 20500))
    (fun t => t.phase.outcomes.map (·.status) == [.succeeded]) (by decide)
    (fun _ _ _ => Services.Like.refl _)
  change Chronicle _ _ _ _ _ (workDeeds [Sample.toolchainCommands _]) s at h
  obtain ⟨o, ho, hstatus⟩ := List.map_eq_singleton_iff.mp (eq_of_beq hcheck)
  exact ⟨trace, s, run, t, o, h, ht, ho, .own rfl, Sample.toolchainCommands_needs (by decide),
    by decide, hstatus⟩

end MatrixFlow
