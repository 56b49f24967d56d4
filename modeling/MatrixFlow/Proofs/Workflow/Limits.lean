import MatrixFlow.Proofs.Workflow.Keys

/-!
# The limits of jobs that were read

A limit is read as a number of 32 bits, so there are always enough slots for it.

* `StrategyDocument.Limited`: the limit of a document, if it has one, is such a number.
* `Workflow.limit_le`: no job of a workflow that was read asks for more slots than there can be.
* `Workflow.plan_proper_of_settings`: so only the settings of a run can.
-/

namespace MatrixFlow

open Yaml (Value)

/-! ## Documents -/

theorem Yaml.Value.toNat32_lt {v : Value} {n : Nat} (h : v.toNat32 = .ok n) : n < pow2 32 := by
  unfold toNat32 at h
  split at h
  · split at h
    · rename_i i _ hi
      cases h
      exact (Int.toNat_lt hi.1).mpr hi.2
    · cases h
  · cases h

/-- The limit is a number of 32 bits. -/
def StrategyDocument.Limited (s : StrategyDocument) : Prop :=
  ∀ n, s.maxParallel = some n → n < pow2 32

theorem StrategyDocument.ofValue_limited {v : Value} {s : StrategyDocument}
    (hv : v.keysUnique = true) (h : StrategyDocument.ofValue v = .ok s) : s.Limited := by
  refine Value.foldFields_keeps (I := Limited) ?_ hv (by rintro _ ⟨⟩) h
  intro s name w s' hs _ hread
  unfold readField at hread
  split at hread
  case h_3 =>
    obtain ⟨limit, hlimit, heq⟩ := except_bind_eq_ok.mp hread
    cases heq
    rintro n rfl
    exact Value.toNat32_lt (Value.eq_ok_of_toOption hlimit)
  case h_4 =>
    cases hread
    exact hs
  all_goals
    obtain ⟨field, -, heq⟩ := except_bind_eq_ok.mp hread
    cases heq
    exact hs

/-! ## Jobs -/

namespace Check

theorem checkMaxParallel_eq_ok {source id : String} {limit limit' : Option Nat}
    (h : checkMaxParallel source id limit = .ok limit') : limit' = limit := by
  unfold checkMaxParallel at h
  split at h
  · cases h
  · cases h
    rfl

theorem checkStrategy_maxParallel {source id : String} {document : Option StrategyDocument}
    {strategy : Strategy} (h : checkStrategy source id document = .ok strategy) :
    strategy.maxParallel = document.bind (·.maxParallel) := by
  unfold checkStrategy at h
  split at h
  · cases h
    rfl
  · dsimp only at h
    split at h
    all_goals
      obtain ⟨matrix, -, h⟩ := except_bind_eq_ok.mp h
      obtain ⟨limit, hlimit, h⟩ := except_bind_eq_ok.mp h
      cases h
      exact checkMaxParallel_eq_ok hlimit

end Check

namespace Workflow

variable {w : Workflow} {policy : TriggerPolicy} {source : String}

theorem limit_lt (h : Workflow.ofText policy source = .ok w) :
    ∀ job ∈ w.jobs, job.maxParallel.getD 0 < pow2 32 := by
  obtain ⟨document, hload, -, hjobs⟩ := Workflow.exists_document h
  obtain ⟨hinside, -⟩ := Value.keysUnique_map_iff.mp (WorkflowDocument.load_keysUnique hload)
  intro job hjob
  obtain ⟨e, he, id, d, -, hd, hread⟩ := hjobs job hjob
  have hlimited : ∀ s, d.strategy = some s → s.Limited :=
    JobDocument.strategy_of_ofValue (fun _ _ => StrategyDocument.ofValue_limited)
      (hinside e he).2 hd
  have hlimit : job.maxParallel = d.strategy.bind (·.maxParallel) :=
    Check.checkStrategy_maxParallel hread.strategy
  cases hn : job.maxParallel with
  | none => exact Nat.two_pow_pos 32
  | some n =>
    obtain ⟨s, hs, hn⟩ := Option.bind_eq_some_iff.mp (hlimit.symm.trans hn)
    exact hlimited s hs n hn

/-- No job of a workflow that was read asks for more slots than there can be. -/
theorem limit_le (h : Workflow.ofText policy source = .ok w) :
    ∀ job ∈ w.jobs, job.maxParallel.getD 0 ≤ maxSlots :=
  fun job hjob => Nat.le_trans (Nat.le_of_lt (limit_lt h job hjob)) (by decide)

/-- The plans of a workflow that was read from a text are proper, unless the settings ask for too
many slots. -/
theorem plan_proper_of_settings {config : RunConfig} {plans : List JobPlan}
    (hw : Workflow.ofText policy source = .ok w) (h : w.plan config = .ok plans)
    (hslots : config.maxParallel.getD 0 ≤ maxSlots) : ∀ plan ∈ plans, plan.Proper := by
  refine plan_proper hw h fun job hjob => ?_
  cases hlimit : config.maxParallel with
  | none => simpa using limit_le hw job hjob
  | some n => simpa [hlimit] using hslots

end Workflow

end MatrixFlow
