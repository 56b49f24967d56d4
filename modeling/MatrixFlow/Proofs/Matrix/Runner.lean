import MatrixFlow.Proofs.Matrix.Instances
import MatrixFlow.Proofs.Text
import MatrixFlow.Proofs.Workflow.Check.Place

/-!
# The runner of a job

The labels of a runner are rendered for every combination of the matrix, and a job has no instances
at all if one of them has no text for one of the combinations.

* `Job.Resolves`: every label of a runner says something for a combination.
* `Job.bindFrom_cases`: all combinations are bound, or the first one that cannot be says why.
* `Job.passes_instances`: a job has instances if its matrix expands and its runner resolves for
  every combination.
* `Job.instances_expansion`: the instances of a job, one for each combination.
-/

namespace MatrixFlow

theorem isEmpty_trimBlanks (s : String) : s.trimBlanks.isEmpty = s.isAllBlank := by
  rw [Bool.eq_iff_iff, String.isEmpty_iff, ← String.toList_inj, String.trimBlanks,
    String.toList_ofList]
  exact Text.trim_eq_nil

namespace Job

variable {job : Job} {globals : Env} {workspace : String}

/-- Every label of the runner says something for a combination: it is not rendered to blanks. -/
def Resolves (job : Job) (globals : Env) (c : Combination) : Prop :=
  ∀ label ∈ job.runsOn.toList, (Template.Scope.render ⟨c, globals, ""⟩ label).isAllBlank = false

/-- The instance at an index that binds a job to a combination. -/
def instanceAt (job : Job) (globals : Env) (workspace : String) (index : Nat) (c : Combination) :
    Instance :=
  let runner := ", ".intercalate (job.runnerLabels globals c)
  ⟨job, index, c, runner, job.instanceEnv globals c runner workspace, workspace⟩

theorem resolves_iff {c : Combination} :
    job.Resolves globals c ↔ (job.runnerLabels globals c).any String.isEmpty = false := by
  simp [runnerLabels, Resolves, isEmpty_trimBlanks]

/-- No label of a runner that resolves is empty. -/
theorem ne_empty_of_resolves {c : Combination} (h : job.Resolves globals c) :
    ∀ label ∈ job.runnerLabels globals c, label ≠ "" := by
  rw [resolves_iff] at h
  simpa using h

theorem bind_of_resolves {c : Combination} (h : job.Resolves globals c) (index : Nat) :
    job.bind globals workspace index c = .ok (job.instanceAt globals workspace index c) := by
  have hnone : ¬(job.runnerLabels globals c).any String.isEmpty = true := by
    rw [resolves_iff.mp h]
    exact Bool.false_ne_true
  exact if_neg hnone

theorem bind_of_not_resolves {c : Combination} (h : ¬job.Resolves globals c) (index : Nat) :
    job.bind globals workspace index c = .error (.unresolvedRunner c) := by
  rw [resolves_iff, Bool.not_eq_false] at h
  exact if_pos h

/-- Either all combinations are bound, each at its index, or the first one that cannot be bound says
why. -/
theorem bindFrom_cases (job : Job) (globals : Env) (workspace : String) (index : Nat)
    (cs : List Combination) :
    ((∀ c ∈ cs, job.Resolves globals c) ∧ job.bindFrom globals workspace index cs =
      .ok ((cs.zipIdx index).map fun p => job.instanceAt globals workspace p.2 p.1)) ∨
    ∃ before c after, cs = before ++ c :: after ∧ (∀ d ∈ before, job.Resolves globals d) ∧
      ¬job.Resolves globals c ∧
      job.bindFrom globals workspace index cs = .error (.unresolvedRunner c) := by
  induction cs generalizing index with
  | nil => exact .inl ⟨by simp, rfl⟩
  | cons c cs ih =>
    by_cases hc : job.Resolves globals c
    · rw [bindFrom, bind_of_resolves hc]
      obtain ⟨hcs, hok⟩ | ⟨before, d, after, rfl, hbefore, hd, herror⟩ := ih (index + 1)
      · exact .inl ⟨List.forall_mem_cons.mpr ⟨hc, hcs⟩, by rw [hok]; rfl⟩
      · exact .inr ⟨c :: before, d, after, rfl, List.forall_mem_cons.mpr ⟨hc, hbefore⟩, hd,
          by rw [herror]; rfl⟩
    · rw [bindFrom, bind_of_not_resolves hc]
      exact .inr ⟨[], c, cs, rfl, by simp, hc, rfl⟩

theorem instances_of_error {e : ExpansionError} (h : job.combinations = .error e) :
    job.instances globals workspace = .error e := by
  rw [instances, h]
  rfl

/-- The instances of a job whose matrix can be expanded, or the first combination without. -/
theorem instances_cases {cs : List Combination} (h : job.combinations = .ok cs)
    (globals : Env) (workspace : String) :
    ((∀ c ∈ cs, job.Resolves globals c) ∧ job.instances globals workspace =
      .ok (cs.zipIdx.map fun p => job.instanceAt globals workspace p.2 p.1)) ∨
    ∃ before c after, cs = before ++ c :: after ∧ (∀ d ∈ before, job.Resolves globals d) ∧
      ¬job.Resolves globals c ∧
      job.instances globals workspace = .error ⟨job.id, .unresolvedRunner c⟩ := by
  have hbound : job.instances globals workspace =
      (job.bindFrom globals workspace 0 cs).mapError (ExpansionError.mk job.id) := by
    rw [instances, h]
    rfl
  rw [hbound]
  obtain ⟨hcs, hok⟩ | ⟨before, c, after, hsplit, hbefore, hc, herror⟩ :=
    bindFrom_cases job globals workspace 0 cs
  · exact .inl ⟨hcs, by rw [hok]; rfl⟩
  · exact .inr ⟨before, c, after, hsplit, hbefore, hc, by rw [herror]; rfl⟩

/-- A job has instances if its matrix expands and its runner resolves for every combination. -/
theorem passes_instances (workspace : String) : Passes (job.instances globals workspace) ↔
    ∃ cs, job.combinations = .ok cs ∧ ∀ c ∈ cs, job.Resolves globals c := by
  cases h : job.combinations with
  | error e =>
    rw [instances_of_error h]
    exact iff_of_false (not_passes_error e) nofun
  | ok cs =>
    obtain ⟨hcs, hok⟩ | ⟨before, c, after, rfl, -, hc, herror⟩ := instances_cases h globals workspace
    · rw [hok]
      exact iff_of_true (passes_ok _) ⟨cs, rfl, hcs⟩
    · rw [herror]
      refine iff_of_false (not_passes_error _) ?_
      rintro ⟨cs, ⟨⟩, hcs⟩
      exact hc (hcs c (by simp))

/-- A job of which the matrix does not expand has no instances, for the same reason. If it expands,
the job has no instances if and only if for some combination some label of the runner is blank, and
the first such combination is the reason. Otherwise there is one instance for each combination, in
order: its index is its place, and its runner and its environment are those of its own combination.
No label of a runner is empty. -/
theorem instances_expansion (job : Job) (globals : Env) (workspace : String) :
    (∀ e, job.combinations = .error e → job.instances globals workspace = .error e) ∧
    ∀ cs, job.combinations = .ok cs →
      ((∃ e, job.instances globals workspace = .error e) ↔
        ∃ c ∈ cs, ∃ label ∈ job.runsOn.toList,
          (Template.Scope.render ⟨c, globals, ""⟩ label).isAllBlank = true) ∧
      (∀ e, job.instances globals workspace = .error e →
        ∃ before c after, cs = before ++ c :: after ∧ (∀ d ∈ before, job.Resolves globals d) ∧
          ¬job.Resolves globals c ∧ e = ⟨job.id, .unresolvedRunner c⟩) ∧
      ((∀ c ∈ cs, job.Resolves globals c) →
        ∃ is, job.instances globals workspace = .ok is ∧
          is.map (·.combination) = cs ∧ is.map (·.index) = List.range cs.length ∧
          ∀ i ∈ is, i.job = job ∧ i.workspace = workspace ∧
            (let labels := job.runsOn.toList.map fun label =>
              (Template.Scope.render ⟨i.combination, globals, ""⟩ label).trimBlanks
            i.runner = ", ".intercalate labels ∧ ∀ label ∈ labels, label ≠ "") ∧
            i.env = job.instanceEnv globals i.combination i.runner workspace) := by
  refine ⟨fun e => instances_of_error, fun cs hcs => ?_⟩
  have hsome : (∃ c ∈ cs, ∃ label ∈ job.runsOn.toList,
      (Template.Scope.render ⟨c, globals, ""⟩ label).isAllBlank = true) ↔
      ¬∀ c ∈ cs, job.Resolves globals c := by
    simp [Resolves]
  rw [hsome]
  obtain ⟨hall, hok⟩ | ⟨before, c, after, rfl, hbefore, hc, herror⟩ :=
    instances_cases hcs globals workspace
  · rw [hok]
    refine ⟨iff_of_false nofun (not_not_intro hall), nofun, fun _ => ⟨_, rfl, ?_, ?_, ?_⟩⟩
    · rw [List.map_map]
      exact List.zipIdx_map_fst 0 cs
    · rw [List.map_map, List.range_eq_range']
      exact List.zipIdx_map_snd 0 cs
    · rintro i hi
      obtain ⟨⟨c, index⟩, hmem, rfl⟩ := List.mem_map.mp hi
      have hc := hall c (List.fst_mem_of_mem_zipIdx hmem)
      exact ⟨rfl, rfl, ⟨rfl, ne_empty_of_resolves hc⟩, rfl⟩
  · have hnot : ¬∀ d ∈ before ++ c :: after, job.Resolves globals d :=
      fun hall => hc (hall c (by simp))
    rw [herror]
    refine ⟨iff_of_true ⟨_, rfl⟩ hnot, ?_, fun hall => absurd hall hnot⟩
    rintro _ ⟨⟩
    exact ⟨before, c, after, rfl, hbefore, hc, rfl⟩

end Job

namespace Sample

/-- A job that runs once on each of two systems, given by a label of its runner. -/
def onSystems (os os' : String) : Job :=
  ⟨"build", none, .labels ["self-hosted", " $\x7b\x7b matrix.os \x7d\x7d"], [],
    ⟨[⟨"os", [.str os, .str os']⟩], [], []⟩, true, none, none, []⟩

end Sample

namespace Job

/-- The job has two instances if both systems have a name, and none if the second one has none. -/
theorem instances_expansion_sample :
    (∃ is, (Sample.onSystems "linux" "mac").instances Env.empty "." = .ok is ∧
      is.map (·.combination) = [⟨[("os", .str "linux")]⟩, ⟨[("os", .str "mac")]⟩] ∧
      is.map (·.index) = [0, 1] ∧
      is.map (·.runner) = ["self-hosted, linux", "self-hosted, mac"]) ∧
    ∃ e, (Sample.onSystems "linux" " ").instances Env.empty "." = .error e ∧
      e.cause = .unresolvedRunner ⟨[("os", .str " ")]⟩ := by
  obtain ⟨-, hnamed⟩ := instances_expansion (Sample.onSystems "linux" "mac") Env.empty "."
  obtain ⟨-, hblank⟩ := instances_expansion (Sample.onSystems "linux" " ") Env.empty "."
  obtain ⟨-, -, hok⟩ := hnamed [⟨[("os", .str "linux")]⟩, ⟨[("os", .str "mac")]⟩] rfl
  obtain ⟨hfails, -, -⟩ := hblank [⟨[("os", .str "linux")]⟩, ⟨[("os", .str " ")]⟩] rfl
  refine ⟨?_, ?_⟩
  · obtain ⟨is, his, hcs, hindex, hall⟩ := hok (by unfold Resolves; decide)
    refine ⟨is, his, hcs, hindex, ?_⟩
    have hrunner : is.map (·.runner) = (is.map (·.combination)).map fun c =>
        ", ".intercalate ((Sample.onSystems "linux" "mac").runnerLabels Env.empty c) := by
      rw [List.map_map]
      exact List.map_congr_left fun i hi => (hall i hi).2.2.1.1
    rw [hrunner, hcs]
    decide
  · obtain ⟨e, he⟩ := hfails.mpr (by decide)
    refine ⟨e, he, ?_⟩
    cases he
    rfl

end Job

end MatrixFlow
