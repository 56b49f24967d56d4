import MatrixFlow.Proofs.Run.Cancellation
import MatrixFlow.Proofs.Run.Chronicle

/-!
# Where instances stop

* `InstanceResult.StoppedPrefix`: a result is that of a prefix of the steps. An instance looks, does
  a step, looks again, and so on; behind a failure, or a look that stops it, it does nothing.
* `TaskStep.returned`, `TaskStep.notBegun`, `TaskStep.pastLooks`: what a task does not do any more.
* `Runs.stopped_prefix`: in every run, a result is that of a stopped prefix.
-/

namespace MatrixFlow

/-! ## Where a task stands -/

/-- The task has not begun, and not looked whether it is to stop. -/
def Phase.NotBegun : Phase → Prop
  | .waiting | .opening => True
  | _ => False

/-- The last step of the instance is under way. -/
def Phase.InLastStep : Phase → Prop
  | .asking _ _ [] _ _ _ => True
  | _ => False

/-- The task does not look any more whether it is to stop, and was not told to. -/
def Phase.PastLooks : Phase → Prop
  | .asking _ _ [] _ _ _ | .between _ [] | .crashed => True
  | .leaving r | .recorded r | .releasing r | .settled r => r.status ≠ .cancelled
  | _ => False

/-- The call that is made. -/
def Deed.call? : Deed → Option Call
  | .ask call => some call
  | .look _ | .hear .. => none

section Moves

variable {services : Services} {policy : DispatchPolicy} {free stopped : Bool} {t : TaskRun}
  {mv : TaskMove} {a : Advance}

/-- A task that has come to a result does nothing more. -/
theorem TaskStep.returned (ha : TaskStep services policy free stopped t mv a) {r : InstanceResult}
    (h : t.phase.returned? = some r) :
    (t.advance a).phase.returned? = some r ∧ t.deeds stopped a mv = [] := by
  cases ha with
  | grant hp | leaveLine hp | pass hp | refuse hp | allow hp | enter hp | finish hp | cancel hp
  | launch hp | reply hp | crash hp => rw [hp] at h; cases h
  | record hp | tell hp | release hp =>
    rw [hp] at h
    exact ⟨h, by simp only [TaskRun.deeds, hp]⟩

/-- A task that has been told to stop before it began only looks, and is cancelled. -/
theorem TaskStep.notBegun (ha : TaskStep services policy free true t mv a)
    (h : t.phase.NotBegun) :
    (t.advance a).phase.NotBegun ∧ t.deeds true a mv = [] ∨
      (t.advance a).phase.returned? = some (InstanceResult.cancelled t.inst.summary) ∧
        t.deeds true a mv = [.look true] := by
  cases ha with
  | grant => exact .inl ⟨trivial, rfl⟩
  | leaveLine hp | pass hp => exact .inl ⟨trivial, by simp only [TaskRun.deeds, hp]⟩
  | refuse hp => exact .inr ⟨rfl, by simp only [TaskRun.deeds, hp]; rfl⟩
  | allow _ hs | launch _ hs => cases hs
  | enter hp | finish hp | cancel hp | record hp | tell hp | release hp | reply hp | crash hp =>
    rw [hp] at h
    exact h.elim

theorem StepLeads.pastLooks {i : Instance} {p : Progress} {step : Step} {x : Phase}
    (hx : StepLeads i p step [] x) : x.PastLooks := by
  cases hx with
  | call | next => trivial
  | failure => exact RunStatus.noConfusion

theorem TaskStep.pastLooks (ha : TaskStep services policy free stopped t mv a)
    (h : t.phase.PastLooks) : (t.advance a).phase.PastLooks := by
  cases ha with
  | grant hp | leaveLine hp | pass hp | refuse hp | allow hp | enter hp | cancel hp | launch hp =>
    rw [hp] at h
    exact h.elim
  | finish => exact RunStatus.noConfusion
  | record hp | tell hp | release hp => rw [hp] at h; exact h
  | @reply p step rest spent call next after reply hp =>
    rw [hp] at h
    cases rest with
    | nil => exact (takeReply_leads ..).pastLooks
    | cons => exact h.elim
  | crash => trivial

end Moves

/-! ## Results -/

theorem TaskRun.Sound.returned {t : TaskRun} {r : InstanceResult} (h : t.Sound)
    (hr : t.phase.returned? = some r) : r.Sound t.inst := by
  unfold TaskRun.Sound at h
  cases hp : t.phase with
  | leaving | recorded | releasing | settled => rw [hp] at h hr; cases hr; exact h
  | _ => rw [hp] at hr; cases hr

theorem Phase.Chronicled.returned {services : Services} {i : Instance} {deeds : List Deed}
    {x : Phase} {r : InstanceResult} (h : x.Chronicled services i deeds)
    (hr : x.returned? = some r) : r.Chronicled services i deeds := by
  unfold Phase.returned? at hr
  split at hr <;> cases hr <;> exact h

theorem filterMap_call?_workDeeds (talks : List (List Exchange)) :
    (workDeeds talks).filterMap Deed.call? = talks.flatMap fun xs => xs.map (·.call) := by
  have hdeeds : ∀ xs : List Exchange,
      (xs.flatMap Exchange.deeds).filterMap Deed.call? = xs.map (·.call) := fun xs => by
    rw [List.filterMap_flatMap, List.map_eq_flatMap]
    rfl
  rw [workDeeds, List.filterMap_cons_none rfl, List.filterMap_flatMap]
  exact congrArg (List.flatMap · talks) (funext fun xs => hdeeds xs)

theorem exists_eq_map_singleton {talks : List (List Exchange)} (h : ∀ xs ∈ talks, ∃ x, xs = [x]) :
    ∃ xs : List Exchange, talks = xs.map fun x => [x] := by
  induction talks with
  | nil => exact ⟨[], rfl⟩
  | cons xs talks ih =>
    rw [List.forall_mem_cons] at h
    obtain ⟨⟨x, rfl⟩, h⟩ := h
    obtain ⟨xs, rfl⟩ := ih h
    exact ⟨x :: xs, rfl⟩

namespace InstanceResult

/-- The result is that of a prefix of the steps, behind which the instance stopped, and this is what
it did on the way. -/
structure StoppedPrefix (services : Services) (i : Instance) (deeds : List Deed)
    (r : InstanceResult) : Prop where
  /-- The outcomes are those of the first steps, in order. -/
  records : Records r.steps i.job.steps
  /-- All but the last one are successes. -/
  succeeded : ∀ o ∈ r.steps.dropLast, o.status = .succeeded
  failed_iff : r.status = .failed ↔ ∃ o, r.steps.getLast? = some o ∧ o.status = .failed
  firstFailure : r.status = .failed → ∃ o f, r.steps.getLast? = some o ∧ o.failure = some f ∧
    r.firstFailure? = some (o, f)
  complete : r.status = .succeeded → r.steps.length = i.job.steps.length
  /-- It was not cancelled behind its last step. -/
  incomplete : r.status = .cancelled → i.job.steps ≠ [] → r.steps.length < i.job.steps.length
  /-- It was cancelled if a look told it to stop, which was the last thing that it did then. -/
  cancelled_iff : r.status = .cancelled ↔ .look true ∈ deeds
  silent : ∀ before after, deeds = before ++ .look true :: after → after = []
  /-- It looked, and unless it was to stop, did one step after the other by one request each. -/
  worked : deeds = [.look true] ∧ r.steps = [] ∨ ∃ talks, i.Worked services talks r.steps ∧
    deeds = workDeeds talks ++ if r.status = .cancelled then [.look true] else []
  /-- If there is a collaborator for every request, its calls are the requests of these steps. -/
  requests : services.ownCheckout = true → services.ownToolchain = true →
    (deeds.filterMap Deed.call?).length = r.steps.length ∧
    ∀ (n : Nat) call, (deeds.filterMap Deed.call?)[n]? = some call →
      ∃ step, i.job.steps[n]? = some step ∧
        call = i.requestAfter services (r.steps.take n) step

variable {services : Services} {i : Instance} {deeds : List Deed} {r : InstanceResult}

theorem Sound.succeeded_dropLast (h : r.Sound i) :
    ∀ o ∈ r.steps.dropLast, o.status = .succeeded := by
  have hgreen : ∀ o : StepOutcome, o.Green → o.status = .succeeded := fun o ho => by
    rw [StepOutcome.status, ho.1]
    rfl
  intro o ho
  cases hr : r.status with
  | succeeded => exact hgreen o ((h.succeeded hr).2 o (List.dropLast_subset _ ho))
  | cancelled => exact hgreen o ((h.cancelled hr).2 o (List.dropLast_subset _ ho))
  | failed =>
    obtain ⟨before, last, heq, hbefore, -⟩ := h.failed hr
    rw [heq, List.dropLast_concat] at ho
    exact hgreen o (hbefore o ho)

theorem Sound.failed_iff (h : r.Sound i) :
    r.status = .failed ↔ ∃ o, r.steps.getLast? = some o ∧ o.status = .failed := by
  constructor
  · intro hr
    obtain ⟨before, last, heq, -, hlast⟩ := h.failed hr
    refine ⟨last, by rw [heq, List.getLast?_concat], ?_⟩
    rw [StepOutcome.status, if_pos (Option.isSome_iff_ne_none.mpr hlast)]
  · rintro ⟨o, ho, hfailed⟩
    have hnot : ¬o.Green := fun hg => by rw [StepOutcome.status, hg.1] at hfailed; cases hfailed
    cases hr : r.status with
    | succeeded => exact absurd ((h.succeeded hr).2 o (List.mem_of_getLast? ho)) hnot
    | cancelled => exact absurd ((h.cancelled hr).2 o (List.mem_of_getLast? ho)) hnot
    | failed => rfl

/-- The failure of a failed instance is that of its last outcome. -/
theorem Sound.firstFailure (h : r.Sound i) (hr : r.status = .failed) :
    ∃ o f, r.steps.getLast? = some o ∧ o.failure = some f ∧ r.firstFailure? = some (o, f) := by
  obtain ⟨before, last, heq, hbefore, hlast⟩ := h.failed hr
  obtain ⟨f, hf⟩ := Option.ne_none_iff_exists'.mp hlast
  refine ⟨last, f, by rw [heq, List.getLast?_concat], hf, ?_⟩
  have hnone : before.findSome? (fun step => step.failure.map (step, ·)) = none :=
    List.findSome?_eq_none_iff.mpr fun o ho => by rw [(hbefore o ho).1]; rfl
  rw [firstFailure?, heq, List.findSome?_append, hnone]
  simp [hf]

/-- An instance is cancelled by a look that tells it to stop, behind which it does nothing. -/
theorem Chronicled.look (h : r.Chronicled services i deeds) :
    (r.status = .cancelled ↔ .look true ∈ deeds) ∧
      ∀ before after, deeds = before ++ .look true :: after → after = [] := by
  obtain ⟨rfl, rfl⟩ | ⟨talks, -, rfl⟩ := h
  · refine ⟨by simp [InstanceResult.cancelled], fun before after heq => ?_⟩
    rw [← List.nil_append [Deed.look true]] at heq
    exact ((List.append_cons_inj_of_notMem List.not_mem_nil List.not_mem_nil).mp heq).2.2.symm
  · have hnot := not_mem_workDeeds talks
    split
    · rename_i hc
      refine ⟨by simp [hc], fun before after heq => ?_⟩
      exact ((List.append_cons_inj_of_notMem hnot List.not_mem_nil).mp heq).2.2.symm
    · rename_i hc
      refine ⟨by simpa [hc] using hnot, fun before after heq => ?_⟩
      rw [List.append_nil] at heq
      exact absurd (by simp [heq]) hnot

theorem Chronicled.requests (h : r.Chronicled services i deeds)
    (hcheckout : services.ownCheckout = true) (htoolchain : services.ownToolchain = true) :
    (deeds.filterMap Deed.call?).length = r.steps.length ∧
    ∀ (n : Nat) call, (deeds.filterMap Deed.call?)[n]? = some call →
      ∃ step, i.job.steps[n]? = some step ∧
        call = i.requestAfter services (r.steps.take n) step := by
  obtain ⟨rfl, rfl⟩ | ⟨talks, hworked, rfl⟩ := h
  · exact ⟨rfl, fun n call hn => by cases hn⟩
  · have hlook : (if r.status = .cancelled then [Deed.look true] else []).filterMap Deed.call? =
        [] := by
      split <;> rfl
    have hdid : ∀ (n : Nat) xs, talks[n]? = some xs → ∃ x step, xs = [x] ∧
        i.job.steps[n]? = some step ∧ x.call = i.requestAfter services (r.steps.take n) step := by
      intro n xs hn
      have hlt : n < r.steps.length :=
        hworked.length ▸ (List.getElem?_eq_some_iff.mp hn).1
      obtain ⟨step, hstep, services', reply, hlike, hends, -⟩ :=
        hworked.did n xs _ hn (List.getElem?_eq_getElem hlt)
      rw [Services.attend_eq_once (hlike.2.1.trans hcheckout) (hlike.2.2.trans htoolchain)] at hends
      obtain ⟨x, rfl, hx⟩ := hends.of_once
      exact ⟨x, step, rfl, hstep, hx⟩
    -- each step is one exchange, so the calls are counted by the steps
    obtain ⟨xs, rfl⟩ := exists_eq_map_singleton fun ys hys => by
      obtain ⟨n, hn⟩ := List.getElem?_of_mem hys
      obtain ⟨x, step, rfl, -⟩ := hdid n ys hn
      exact ⟨x, rfl⟩
    have hcalls : (xs.map fun x => [x]).flatMap (fun ys => ys.map (·.call)) = xs.map (·.call) := by
      rw [List.flatMap_map, List.map_eq_flatMap]
      rfl
    rw [List.filterMap_append, hlook, List.append_nil, filterMap_call?_workDeeds, hcalls]
    refine ⟨by simpa using hworked.length, fun n call hn => ?_⟩
    rw [List.getElem?_map, Option.map_eq_some_iff] at hn
    obtain ⟨x, hx, rfl⟩ := hn
    obtain ⟨y, step, heq, hstep, hy⟩ := hdid n [x] (by simp [hx])
    cases heq
    exact ⟨step, hstep, hy⟩

theorem Chronicled.stoppedPrefix (h : r.Chronicled services i deeds) (hs : r.Sound i) :
    r.StoppedPrefix services i deeds where
  records := hs.records
  succeeded := hs.succeeded_dropLast
  failed_iff := hs.failed_iff
  firstFailure := hs.firstFailure
  complete hr := (hs.succeeded hr).1
  incomplete hr := (hs.cancelled hr).1
  cancelled_iff := h.look.1
  silent := h.look.2
  worked := h.imp_left fun ⟨hr, hd⟩ => ⟨hd, hr ▸ rfl⟩
  requests := h.requests

end InstanceResult

/-! ## Runs -/

section Later

variable {ok : Services → RunState → Move → Prop} {s s' : RunState} {k j : Nat}
  {trace : List (Move × List Event)} {deeds : List Deed} {run run' : JobRun} {t t' : TaskRun}

theorem Chronicle.returned (h : Chronicle ok s k j trace deeds s')
    (ht : s.task? k j = some (run, t)) (ht' : s'.task? k j = some (run', t')) {r : InstanceResult}
    (hr : t.phase.returned? = some r) : t'.phase.returned? = some r ∧ deeds = [] := by
  refine h.task_induction (P := fun t deeds => t.phase.returned? = some r ∧ deeds = [])
    ?_ ?_ run' t' ht'
  · intro _ _ h0
    rw [ht] at h0
    cases h0
    exact ⟨hr, rfl⟩
  · rintro _ _ _ _ _ _ _ _ _ _ _ ha ⟨hr, rfl⟩
    exact ha.returned hr

/-- What is told to stop before it has begun only looks. -/
theorem Chronicle.notBegun (h : Chronicle ok s k j trace deeds s')
    (ht : s.task? k j = some (run, t)) (ht' : s'.task? k j = some (run', t'))
    (hphase : t.phase.NotBegun) (hraised : s.signals.isRaised k = true) :
    t'.phase.NotBegun ∧ deeds = [] ∨
      t'.phase.returned? = some (InstanceResult.cancelled t.inst.summary) ∧
        deeds = [.look true] := by
  refine (h.task_induction (P := fun u deeds => u.inst = t.inst ∧ (u.phase.NotBegun ∧ deeds = [] ∨
    u.phase.returned? = some (InstanceResult.cancelled t.inst.summary) ∧ deeds = [.look true]))
    ?_ ?_ run' t' ht').2
  · intro _ _ h0
    rw [ht] at h0
    cases h0
    exact ⟨rfl, .inl ⟨hphase, rfl⟩⟩
  · rintro _ _ _ a _ u _ _ h _ - ha ⟨hinst, hu⟩
    -- nothing takes the word to stop back, so every look from now on sees it
    rw [h.runs.isRaised hraised] at ha ⊢
    refine ⟨hinst, ?_⟩
    obtain ⟨hphase, rfl⟩ | ⟨hr, rfl⟩ := hu
    · rw [← hinst]
      exact ha.notBegun hphase
    · obtain ⟨hr', hdeeds⟩ := ha.returned hr
      exact .inr ⟨hr', by rw [hdeeds, List.append_nil]⟩

theorem Chronicle.pastLooks (h : Chronicle ok s k j trace deeds s')
    (ht : s.task? k j = some (run, t)) (ht' : s'.task? k j = some (run', t'))
    (hphase : t.phase.PastLooks) : t'.phase.PastLooks := by
  refine h.task_induction (P := fun t _ => t.phase.PastLooks) ?_ ?_ run' t' ht'
  · intro _ _ h0
    rw [ht] at h0
    cases h0
    exact hphase
  · intro _ _ _ _ _ _ _ _ _ _ _ ha hphase
    exact ha.pastLooks hphase

theorem Phase.InLastStep.pastLooks {x : Phase} (h : x.InLastStep) : x.PastLooks := by
  unfold InLastStep at h
  split at h
  · trivial
  · exact h.elim

theorem Phase.PastLooks.status_ne {x : Phase} (h : x.PastLooks) {r : InstanceResult}
    (hr : x.returned? = some r) : r.status ≠ .cancelled := by
  unfold returned? at hr
  split at hr <;> cases hr <;> exact h

/-- In every run, whatever is replied and whenever the group is told to stop, an instance that comes
to a result has done a prefix of its steps, one after the other and each by a request of its own,
and stopped behind it. From then on it does nothing. An instance that is told to stop before it has
begun does nothing but look, and one whose last step is under way is not cancelled any more. -/
theorem Runs.stopped_prefix {services : Services} {s₀ s : RunState} {k j : Nat}
    {trace : List (Move × List Event)} {run₀ run : JobRun} {i : Instance} {t : TaskRun}
    (h : Runs (SetUp services) s₀ trace s) (h0 : s₀.task? k j = some (run₀, TaskRun.start i))
    (ht : s.task? k j = some (run, t)) :
    (∃ deeds, Chronicle (SetUp services) s₀ k j trace deeds s) ∧
    (∀ deeds r, Chronicle (SetUp services) s₀ k j trace deeds s → t.phase.returned? = some r →
      r.StoppedPrefix services i deeds) ∧
    ∀ trace' deeds' s' run' t', Chronicle (SetUp services) s k j trace' deeds' s' →
      s'.task? k j = some (run', t') →
      (∀ r, t.phase.returned? = some r → t'.phase.returned? = some r ∧ deeds' = []) ∧
      (t.phase.NotBegun → s.signals.isRaised k = true → t'.phase.NotBegun ∧ deeds' = [] ∨
        t'.phase.returned? = some (InstanceResult.cancelled i.summary) ∧ deeds' = [.look true]) ∧
      (t.phase.InLastStep → ∀ r, t'.phase.returned? = some r → r.status ≠ .cancelled) := by
  refine ⟨h.exists_chronicle k j, fun deeds r hdeeds hr => ?_,
    fun trace' deeds' s' run' t' h' ht' =>
      ⟨fun r hr => h'.returned ht ht' hr, fun hphase hraised => ?_, fun hphase r hr => ?_⟩⟩
  · obtain ⟨rfl, hsound, hc⟩ := hdeeds.chronicled h0 ht
    exact (hc.returned hr).stoppedPrefix (hsound.returned hr)
  · obtain ⟨deeds, hdeeds⟩ := h.exists_chronicle k j
    obtain ⟨rfl, -⟩ := hdeeds.chronicled h0 ht
    exact h'.notBegun ht ht' hphase hraised
  · exact (h'.pastLooks ht ht' hphase.pastLooks).status_ne hr

end Later

namespace Sample

/-- The group is told to stop while the first of two steps is under way. -/
def stoppedInFirstStep : List Move :=
  List.replicate 4 (.task 0 0 .go) ++
    [.stopAll, .task 0 0 (.reply Duration.zero (reply 0)), .task 0 0 .go]

/-- The instance is cancelled behind its first step. -/
def isCancelledAfterOne (t : TaskRun) : Bool :=
  t.phase.returned?.any fun r => r.status == .cancelled && r.steps.length == 1

end Sample

/-- A job with two steps that is told to stop during the first one makes one call, and stops where
it looks before the second one. -/
theorem Runs.stopped_prefix_sample : ∃ trace s run t deeds r call,
    Runs (SetUp Sample.services)
      (RunState.start [⟨Sample.layeredJob, .ok [Sample.layeredInst], ⟨true, none⟩⟩]) trace s ∧
    Chronicle (SetUp Sample.services)
      (RunState.start [⟨Sample.layeredJob, .ok [Sample.layeredInst], ⟨true, none⟩⟩]) 0 0 trace deeds
      s ∧
    s.task? 0 0 = some (run, t) ∧ t.phase.returned? = some r ∧ r.status = .cancelled ∧
    r.steps.length = 1 ∧ deeds.filterMap Deed.call? = [call] ∧ .look true ∈ deeds := by
  obtain ⟨trace, s, run, t, h, ht, hcheck⟩ := RunState.exists_chronicle (SetUp Sample.services)
    Sample.services (RunState.start [⟨Sample.layeredJob, .ok [Sample.layeredInst], ⟨true, none⟩⟩])
    0 0 Sample.stoppedInFirstStep Sample.isCancelledAfterOne (by decide)
    (fun _ _ _ => Services.Like.refl _)
  rw [Sample.isCancelledAfterOne, Option.any_eq_true] at hcheck
  obtain ⟨r, hr, hcheck⟩ := hcheck
  rw [Bool.and_eq_true, beq_iff_eq, beq_iff_eq] at hcheck
  obtain ⟨-, hprefix, -⟩ := Runs.stopped_prefix (i := Sample.layeredInst) h.runs rfl ht
  have hstopped := hprefix _ r h hr
  obtain ⟨hlen, -⟩ := hstopped.requests rfl rfl
  obtain ⟨call, hcall⟩ := List.length_eq_one_iff.mp (hlen.trans hcheck.2)
  exact ⟨trace, s, run, t, _, r, call, h.runs, h, ht, hr, hcheck.1, hcheck.2, hcall,
    hstopped.cancelled_iff.mp hcheck.1⟩

end MatrixFlow
