import MatrixFlow.Proofs.Run.Broadcast
import MatrixFlow.Run.Conduct

/-!
# Schedules are runs

* `Backend.Permits`: any move, but a breakdown only if the collaborators can break down.
* `Schedule.Continues s s'`: moves lead from the state of `s` to that of `s'`, and `s'` has told
  what they tell. Whatever a schedule does, it continues itself (`Schedule.finish_continues`).
* `conduct_runs`, `conductAlone_runs`: the outcome of what is conducted is that of a run, so what
  holds of all runs holds of it. `conduct_broadcast` says this of its events.
-/

namespace MatrixFlow

variable {σ : Type}

/-- Any move is permitted, but a breakdown only if a call can break down. -/
def Backend.Permits (backend : Backend σ) : Services → RunState → Move → Prop :=
  fun _ _ m => (∃ k j, m = .task k j .crash) →
    ∃ world call, (backend.respond world call).2 = .crash

namespace Schedule

/-- What the tasks of a schedule have told, in order. -/
def told (s : Schedule σ) : List Message := s.trace.reverse.map fun e => (e.place, e.event)

/-- Moves lead from the state of one schedule to that of the other, and are told. -/
structure Continues (s s' : Schedule σ) : Prop where
  backend : s'.backend = s.backend
  runs : ∃ trace, Runs s.backend.Permits s.state trace s'.state ∧
    s'.told = s.told ++ messagesOf trace

namespace Continues

variable {s s' s'' : Schedule σ}

theorem of_eq (hb : s'.backend = s.backend) (hs : s'.state = s.state) (ht : s'.trace = s.trace) :
    Continues s s' :=
  ⟨hb, [], hs ▸ .nil, by simp [told, ht]⟩

theorem refl (s : Schedule σ) : Continues s s := of_eq rfl rfl rfl

theorem trans (h : Continues s s') (h' : Continues s' s'') : Continues s s'' := by
  obtain ⟨hb, trace, hr, ht⟩ := h
  obtain ⟨hb', trace', hr', ht'⟩ := h'
  rw [hb] at hr'
  exact ⟨hb'.trans hb, _, hr.append hr', by rw [ht', ht, messagesOf_append, List.append_assoc]⟩

end Continues

/-! ## What keeps the state -/

theorem wake_continues (s : Schedule σ) (group : Nat) : Continues s (s.wake group) :=
  .of_eq rfl rfl rfl

theorem foldl_wake_continues (s : Schedule σ) (groups : List Nat) :
    Continues s (groups.foldl wake s) := by
  induction groups generalizing s with
  | nil => exact .refl s
  | cons group groups ih => exact (s.wake_continues group).trans (ih _)

theorem enqueue_continues (s : Schedule σ) (ticket : Ticket) :
    Continues s (s.enqueue ticket) := by
  unfold enqueue
  split
  · exact .refl s
  · exact .of_eq rfl rfl rfl

/-! ## Moves -/

/-- A move continues a schedule, if it is told of its own place, or tells nothing. -/
theorem move_continues (s : Schedule σ) (place : Option (Nat × Nat)) (m : Move)
    (hm : s.backend.Permits s.services s.state m)
    (hplace : ∀ b events, s.state.perform s.services m = some (b, events) →
      place = m.place ∨ events = []) : Continues s (s.move place m) := by
  unfold move
  split
  · exact .refl s
  · rename_i state events hp
    have htold : events.map (place, ·) = events.map (m.place, ·) := by
      obtain rfl | rfl := hplace state events hp <;> rfl
    have hmove : Continues s { s with
        state := state
        trace := (events.map fun event => ⟨s.clock, place, event⟩).reverse ++ s.trace } :=
      ⟨rfl, _, .single hm hp, by simp [told, messagesOf, Function.comp_def, ← htold]⟩
    exact hmove.trans (foldl_wake_continues _ _)

theorem act_continues (s : Schedule σ) (job task : Nat) {mv : TaskMove} (hmv : mv ≠ .crash) :
    Continues s (s.act job task mv) := by
  refine s.move_continues _ _ ?_ fun _ _ _ => .inl rfl
  rintro ⟨k, j, ⟨⟩⟩
  exact absurd rfl hmv

theorem grant_continues (s : Schedule σ) (place : Option (Nat × Nat)) (job task : Nat) :
    Continues s (s.move place (.task job task .grant)) :=
  s.move_continues _ _ (fun ⟨_, _, h⟩ => (by cases h)) fun _ _ h => .inr (RunState.perform_grant h)

theorem stopAll_continues (s : Schedule σ) : Continues s (s.move none .stopAll) :=
  s.move_continues _ _ (fun ⟨_, _, h⟩ => (by cases h)) fun _ _ _ => .inl rfl

theorem passSlot_continues (s : Schedule σ) (job : Nat) : Continues s (s.passSlot job) := by
  unfold passSlot
  split
  · split
    · rename_i task _ _ _ _
      have hline : ∀ line, Continues (s.move none (.task job task .grant))
          { s.move none (.task job task .grant) with line := line } := fun _ => .of_eq rfl rfl rfl
      exact ((s.grant_continues none job task).trans (hline _)).trans (enqueue_continues _ _)
    · exact .refl s
  · exact .refl s

theorem afterTask_continues (s : Schedule σ) (job : Nat) : Continues s (s.afterTask job) :=
  (s.passSlot_continues job).trans (enqueue_continues _ _)

theorem deliver_continues (s : Schedule σ) (job task call : Nat) (stopsRun : Bool)
    (after : Duration) (reply : Reply) :
    Continues s (s.deliver job task call stopsRun after reply) := by
  have hend : Continues s (s.endCall call) := .of_eq rfl rfl rfl
  unfold deliver
  dsimp only
  split
  · exact (hend.trans (stopAll_continues _)).trans (act_continues _ _ _ (by simp))
  · exact hend.trans (act_continues _ _ _ (by simp))

/-! ## Whole schedules -/

theorem follow_continues (job task fuel : Nat) (s : Schedule σ) :
    Continues s (follow job task fuel s) := by
  induction fuel generalizing s with
  | zero => exact .refl s
  | succ fuel ih =>
    rw [follow]
    split
    · exact .refl s
    · split
      · -- a call
        rename_i call _ _
        have hasked : ∀ world calls, Continues s { s with world := world, calls := calls } :=
          fun _ _ => .of_eq rfl rfl rfl
        dsimp only
        split
        · rename_i hcrash
          have hact : ∀ world calls, Continues { s with world := world, calls := calls }
              (act { s with world := world, calls := calls } job task .crash) :=
            fun _ _ => move_continues _ _ _ (fun _ => ⟨s.world, call, hcrash⟩) fun _ _ _ => .inl rfl
          exact ((hasked _ _).trans (hact _ _)).trans (afterTask_continues _ job)
        · split
          · exact .of_eq rfl rfl rfl
          · split
            · exact ((hasked _ _).trans (deliver_continues ..)).trans (ih _)
            · exact .of_eq rfl rfl rfl
      · exact s.afterTask_continues job
      · exact .refl s
      · exact .refl s
      · exact (s.act_continues job task (by simp)).trans (ih _)

theorem openJob_continues (s : Schedule σ) (job : Nat) : Continues s (s.openJob job) := by
  unfold openJob
  split
  · exact .refl s
  · exact .of_eq rfl rfl rfl

theorem watchJob_continues (s : Schedule σ) (job : Nat) : Continues s (s.watchJob job) := by
  have hnotice : Continues s (s.move none (.notice job)) :=
    s.move_continues _ _ (fun ⟨_, _, h⟩ => (by cases h)) fun _ _ _ => .inl rfl
  unfold watchJob
  dsimp only
  split
  · split
    · exact hnotice.trans (.of_eq rfl rfl rfl)
    · exact hnotice
  · exact hnotice

theorem startTask_continues (s : Schedule σ) (fuel job task : Nat) :
    Continues s (s.startTask fuel job task) := by
  have hgo : ∀ s : Schedule σ, Continues s (follow job task fuel (s.act job task .go)) :=
    fun s => (s.act_continues job task (by simp)).trans (follow_continues ..)
  unfold startTask
  split
  · exact .refl s
  · split
    · split
      · exact (s.grant_continues none job task).trans (hgo _)
      · exact .of_eq rfl rfl rfl
    · exact hgo s

theorem doDue_continues (s : Schedule σ) (fuel : Nat) (m : DueMove) :
    Continues s (s.doDue fuel m) := by
  cases m with
  | reply job task call stopsRun after reply =>
    exact (s.deliver_continues ..).trans (follow_continues ..)
  | expire job task after reply =>
    exact (s.act_continues job task (by simp)).trans (follow_continues ..)
  | stopAll => exact s.stopAll_continues

theorem runFor_continues (fuel : Nat) (s : Schedule σ) : Continues s (runFor fuel s) := by
  induction fuel generalizing s with
  | zero => exact .refl s
  | succ fuel ih =>
    rw [runFor]
    split
    · rename_i ticket rest _
      have hnext : Continues s { s with ready := rest } := .of_eq rfl rfl rfl
      refine (hnext.trans ?_).trans (ih _)
      cases ticket with
      | openJob job => exact openJob_continues _ job
      | watchJob job => exact watchJob_continues _ job
      | task job task => exact startTask_continues _ fuel job task
    · split
      · exact .refl s
      · split
        · exact .refl s
        · rename_i time m rest _
          have hnext : Continues s { s with clock := time, due := rest } := .of_eq rfl rfl rfl
          exact (hnext.trans (doDue_continues _ fuel m)).trans (ih _)

theorem finish_continues (s : Schedule σ) : Continues s s.finish := runFor_continues _ s

theorem stopAt_continues (s : Schedule σ) (stop : StopTime) : Continues s (s.stopAt stop) := by
  cases stop with
  | never => exact .refl s
  | beforeStart => exact s.stopAll_continues
  | after time => exact .of_eq rfl rfl rfl

theorem stopAt_finish_continues (s : Schedule σ) (stop : StopTime) :
    Continues s (s.stopAt stop).finish :=
  (s.stopAt_continues stop).trans (finish_continues _)

end Schedule

/-! ## Conducted runs -/

section Conduct

variable (backend : Backend σ) (world : σ)

/-- The outcome of conducted plans is that of a run of them. -/
theorem conduct_runs (workflow : String) (plans : List JobPlan) (stop : StopTime) :
    ∃ trace s, Runs backend.Permits (RunState.start plans) trace s ∧
      (conduct backend world workflow plans stop).outcome = s.result? workflow := by
  obtain ⟨trace, hruns, -⟩ := (Schedule.stopAt_finish_continues
    (Schedule.start backend world (RunState.start plans)) stop).runs
  exact ⟨trace, _, hruns, rfl⟩

/-- Conducted plans tell what one of their runs tells when nobody is slow to send, and at last the
end of the run. -/
theorem conduct_broadcast (workflow : String) (plans : List JobPlan) (stop : StopTime) :
    ∃ sent s, Broadcast backend.Permits workflow plans plans.length [] sent s ∧
      (conduct backend world workflow plans stop).outcome = s.result? workflow ∧
      (conduct backend world workflow plans stop).trace.map (fun e => (e.place, e.event)) =
        sent ++ (s.result? workflow).toList.map fun result =>
          (none, .workflowCompleted workflow result.status) := by
  obtain ⟨trace, hruns, htold⟩ := (Schedule.stopAt_finish_continues
    (Schedule.start backend world (RunState.start plans)) stop).runs
  rw [Schedule.told, Schedule.told] at htold
  refine ⟨_, _, hruns.broadcast workflow, rfl, ?_⟩
  unfold conduct
  dsimp only
  rw [List.map_append, List.map_append, htold, List.map_map]
  congr 1
  split <;> rename_i hresult <;> rw [hresult] <;> rfl

/-- If no call breaks down, no task does. -/
theorem conduct_runs_calm (hcalm : ∀ world call, (backend.respond world call).2 ≠ .crash)
    (workflow : String) (plans : List JobPlan) (stop : StopTime) :
    ∃ trace s, Runs Calm (RunState.start plans) trace s ∧
      (conduct backend world workflow plans stop).outcome = s.result? workflow := by
  obtain ⟨trace, s, hruns, hout⟩ := conduct_runs backend world workflow plans stop
  refine ⟨trace, s, hruns.weaken fun _ _ _ m _ hpermits k j hm => ?_, hout⟩
  obtain ⟨world', call, hcrash⟩ := hpermits ⟨k, j, hm⟩
  exact hcalm world' call hcrash

/-- The outcome of an instance that is conducted alone is that of a run of it. -/
theorem conductAlone_runs (i : Instance) (requests : List InstanceState) (stopped : Bool)
    {outcome : AloneResult}
    (h : (conductAlone backend world i requests stopped).outcome = some outcome) :
    ∃ trace s run t, Runs backend.withoutStops.Permits (RunState.alone i requests stopped) trace s ∧
      s.task? 0 0 = some (run, t) ∧ t.result? = some outcome.result ∧
      outcome.state = run.table.get? 0 := by
  obtain ⟨trace, hruns, -⟩ := (Schedule.finish_continues (Schedule.start backend.withoutStops world
    (RunState.alone i requests stopped))).runs
  unfold conductAlone at h
  simp only [bind, Option.bind_eq_some_iff] at h
  obtain ⟨⟨run, t⟩, ht, result, hr, h⟩ := h
  cases h
  exact ⟨trace, _, run, t, hruns, ht, hr, rfl⟩

end Conduct

end MatrixFlow
