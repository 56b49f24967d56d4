import MatrixFlow.Proofs.Report.Outlets
import MatrixFlow.Proofs.Run.Limit
import MatrixFlow.Proofs.Workflow.Limits

/-!
# Flat lists of instances

Instances that come in any order are run in groups, one for each id of a job.

* `ofJob id is`: the instances of a list that belong to the jobs of an id, in order.
* `regroup_cons`: the group of the first instance comes first, and the others are regrouped by
  themselves. `regroup_induction` is the induction that goes with it.
* `map_id_regroup`, `group_of_mem_regroup`, `regroup_perm`: which groups there are, what is in each
  of them, and that nothing is lost.
* `regroup_members`: plans that are taken apart and regrouped.
* `Runs.regrouped`: what comes of running the groups.
-/

namespace MatrixFlow

/-- The instances of a job id, in order. -/
def ofJob (id : String) (is : List Instance) : List Instance :=
  is.filter (·.job.id == id)

/-- The instances of all other jobs, in order. -/
def notOfJob (id : String) (is : List Instance) : List Instance :=
  is.filter (·.job.id != id)

/-- The instances of a plan; none if its job could not be expanded. -/
def JobPlan.members (plan : JobPlan) : List Instance :=
  plan.instances.toOption.getD []

/-! ## Groups -/

section Groups

variable {failFast : Bool} {plan : JobPlan} {plans : List JobPlan} {i : Instance}
  {is : List Instance}

theorem foldl_regroupInto_cons (failFast : Bool) (plan : JobPlan) (plans : List JobPlan)
    (is : List Instance) :
    is.foldl (fun plans i => regroupInto failFast i plans) (plan :: plans) =
      { plan with instances := plan.instances.map (· ++ ofJob plan.job.id is) } ::
        (notOfJob plan.job.id is).foldl (fun plans i => regroupInto failFast i plans) plans := by
  induction is generalizing plan plans with
  | nil =>
    obtain ⟨job, instances, policy⟩ := plan
    cases instances <;> simp [ofJob, notOfJob, Except.map]
  | cons i is ih =>
    rw [List.foldl_cons, regroupInto]
    by_cases hid : plan.job.id = i.job.id
    · rw [if_pos (beq_iff_eq.mpr hid), ih]
      cases h : plan.instances <;> simp [ofJob, notOfJob, hid, Except.map]
    · rw [if_neg (by simpa using hid), ih]
      simp [ofJob, notOfJob, Ne.symm hid]

theorem regroup_cons (failFast : Bool) (i : Instance) (is : List Instance) :
    regroup failFast (i :: is) =
      ⟨i.job, .ok (i :: ofJob i.job.id is), ⟨failFast, i.job.maxParallel⟩⟩ ::
        regroup failFast (notOfJob i.job.id is) :=
  foldl_regroupInto_cons failFast ⟨i.job, .ok [i], ⟨failFast, i.job.maxParallel⟩⟩ [] is

/-- Group after group, the first instance of each at its head. -/
theorem regroup_induction {P : List Instance → Prop} (nil : P [])
    (cons : ∀ i is, P (notOfJob i.job.id is) → P (i :: is)) : ∀ is, P is
  | [] => nil
  | i :: is => cons i is (regroup_induction nil cons (notOfJob i.job.id is))
  termination_by is => is.length
  decreasing_by exact Nat.lt_succ_of_le (List.length_filter_le _ is)

/-- There is a group for each id, in the order of the first instances. -/
theorem map_id_regroup (failFast : Bool) (is : List Instance) :
    (regroup failFast is).map (·.job.id) = (is.map (·.job.id)).eraseDups := by
  induction is using regroup_induction with
  | nil => rfl
  | cons i is ih =>
    rw [regroup_cons, List.map_cons, ih, List.map_cons, List.eraseDups_cons, notOfJob,
      List.filter_map]
    rfl

theorem ofJob_notOfJob {id id' : String} (h : id ≠ id') (is : List Instance) :
    ofJob id (notOfJob id' is) = ofJob id is := by
  rw [ofJob, notOfJob, List.filter_filter]
  refine List.filter_congr fun i _ => ?_
  by_cases hi : i.job.id = id <;> simp [hi, h]

/-- A group has all instances of its id, in order, and is run as its first one asks for. -/
theorem group_of_mem_regroup (h : plan ∈ regroup failFast is) :
    ∃ first rest, ofJob plan.job.id is = first :: rest ∧
      plan = ⟨first.job, .ok (first :: rest), ⟨failFast, first.job.maxParallel⟩⟩ := by
  induction is using regroup_induction with
  | nil => cases h
  | cons i is ih =>
    rw [regroup_cons] at h
    obtain rfl | h := List.mem_cons.mp h
    · exact ⟨i, ofJob i.job.id is, by simp [ofJob], rfl⟩
    · obtain ⟨first, rest, hgroup, hplan⟩ := ih h
      have hfirst : first ∈ ofJob plan.job.id (notOfJob i.job.id is) := by simp [hgroup]
      have hne : plan.job.id ≠ i.job.id := by
        rintro hid
        simp [ofJob, notOfJob, hid] at hfirst
      refine ⟨first, rest, ?_, hplan⟩
      rw [← hgroup, ofJob_notOfJob hne]
      simp [ofJob, Ne.symm hne]

/-- Nothing is lost and nothing is run twice. -/
theorem regroup_perm (failFast : Bool) (is : List Instance) :
    ((regroup failFast is).flatMap JobPlan.members).Perm is := by
  induction is using regroup_induction with
  | nil => exact .refl _
  | cons i is ih =>
    rw [regroup_cons, List.flatMap_cons]
    have hsplit : (ofJob i.job.id is ++ notOfJob i.job.id is).Perm is :=
      List.filter_append_perm (fun j : Instance => j.job.id == i.job.id) is
    exact ((ih.append_left _).trans hsplit).cons i

/-- The plan has an instance, and all of its instances belong to its job. -/
def JobPlan.Full (plan : JobPlan) : Prop :=
  ∃ is, plan.instances = .ok is ∧ is ≠ [] ∧ ∀ i ∈ is, i.job = plan.job

theorem JobPlan.Full.members_job (h : plan.Full) : ∀ i ∈ plan.members, i.job = plan.job := by
  obtain ⟨is, his, -, hjob⟩ := h
  rw [members, his]
  exact hjob

theorem ofJob_eq_self {id : String} (h : ∀ i ∈ is, i.job.id = id) : ofJob id is = is :=
  List.filter_eq_self.mpr fun i hi => beq_iff_eq.mpr (h i hi)

theorem notOfJob_eq_self {id : String} (h : ∀ i ∈ is, i.job.id ≠ id) : notOfJob id is = is :=
  List.filter_eq_self.mpr fun i hi => bne_iff_ne.mpr (h i hi)

theorem ofJob_eq_nil {id : String} (h : ∀ i ∈ is, i.job.id ≠ id) : ofJob id is = [] :=
  List.filter_eq_nil_iff.mpr fun i hi heq => h i hi (beq_iff_eq.mp heq)

theorem notOfJob_eq_nil {id : String} (h : ∀ i ∈ is, i.job.id = id) : notOfJob id is = [] :=
  List.filter_eq_nil_iff.mpr fun i hi hne => bne_iff_ne.mp hne (h i hi)

/-- Plans of different jobs are found again when their instances are regrouped. -/
theorem regroup_members (failFast : Bool) (hids : (plans.map (·.job.id)).Nodup)
    (hfull : ∀ plan ∈ plans, plan.Full) :
    (regroup failFast (plans.flatMap JobPlan.members)).map (fun p => (p.job, p.instances)) =
      plans.map fun p => (p.job, p.instances) := by
  induction plans with
  | nil => rfl
  | cons plan plans ih =>
    obtain ⟨hnew, hids⟩ := List.nodup_cons.mp hids
    obtain ⟨hplan, hfull⟩ := List.forall_mem_cons.mp hfull
    have hothers : ∀ j ∈ plans.flatMap JobPlan.members, j.job.id ≠ plan.job.id := by
      intro j hj hid
      obtain ⟨other, hother, hj⟩ := List.mem_flatMap.mp hj
      rw [(hfull other hother).members_job j hj] at hid
      exact hnew (List.mem_map.mpr ⟨other, hother, hid⟩)
    obtain ⟨is, his, hne, hjob⟩ := hplan
    obtain ⟨i, is, rfl⟩ := List.exists_cons_of_ne_nil hne
    obtain ⟨hi, hjob⟩ := List.forall_mem_cons.mp hjob
    have hid : ∀ j ∈ is, j.job.id = plan.job.id := fun j hj => congrArg Job.id (hjob j hj)
    have hmembers : plan.members = i :: is := by rw [JobPlan.members, his]; rfl
    rw [List.flatMap_cons, hmembers, List.cons_append, regroup_cons, hi, List.map_cons, List.map_cons,
      ← ih hids hfull, his]
    have hgroup : ofJob plan.job.id (is ++ plans.flatMap JobPlan.members) = is := by
      rw [ofJob, List.filter_append, ← ofJob, ← ofJob, ofJob_eq_self hid, ofJob_eq_nil hothers,
        List.append_nil]
    have hrest : notOfJob plan.job.id (is ++ plans.flatMap JobPlan.members) =
        plans.flatMap JobPlan.members := by
      rw [notOfJob, List.filter_append, ← notOfJob, ← notOfJob, notOfJob_eq_nil hid,
        notOfJob_eq_self hothers, List.nil_append]
    rw [hgroup, hrest]

end Groups

/-- What the planner finds for a job that can be expanded. -/
theorem Workflow.planJob_full {config : RunConfig} {globals : Env} {job : Job} {is : List Instance}
    (h : (planJob config globals job).instances = .ok is) : (planJob config globals job).Full :=
  ⟨is, h, Job.instances_ne_nil h, Job.instances_job h⟩

/-! ## Runs -/

section Runs

variable {ok : Services → RunState → Move → Prop} {plans : List JobPlan} {jobs : List JobResult}
  {trace : List (Move × List Event)} {s : RunState}

/-- The job has a result for each instance of its plan, in order, or the plan asks for too many slots
and the job has none. -/
def JobPlan.Gives (plan : JobPlan) (job : JobResult) : Prop :=
  job.id = plan.job.id ∧
    ((plan.Overreaches ∧ job.instances = []) ∨
      (¬plan.Overreaches ∧ job.instances.map (·.summary) = plan.members.map (·.summary)))

theorem JobPlan.members_of_ok {plan : JobPlan} {is : List Instance} (h : plan.instances = .ok is) :
    plan.members = is := by
  rw [members, h]
  rfl

theorem JobPlan.not_overreaches {plan : JobPlan} {is : List Instance}
    (h : plan.instances = .ok is) :
    ¬plan.Overreaches ↔ plan.policy.maxParallel.getD 0 ≤ maxSlots := by
  rw [← Nat.not_lt]
  exact not_congr ⟨fun ⟨_, _, hlimit⟩ => hlimit, fun hlimit => ⟨is, h, hlimit⟩⟩

/-- No group asks for too many slots if no instance does. -/
theorem not_overreaches_of_mem_regroup {failFast : Bool} {is : List Instance} {plan : JobPlan}
    (hlimits : ∀ i ∈ is, i.job.maxParallel.getD 0 ≤ maxSlots) (h : plan ∈ regroup failFast is) :
    ¬plan.Overreaches := by
  obtain ⟨first, rest, hgroup, rfl⟩ := group_of_mem_regroup h
  have hfirst : first ∈ ofJob first.job.id is := by
    rw [hgroup]
    exact List.mem_cons_self
  exact (JobPlan.not_overreaches rfl).mpr (hlimits first (List.mem_of_mem_filter hfirst))

theorem Runs.gives (h : Runs ok (RunState.start plans) trace s) (hjobs : s.jobResults? = some jobs)
    (hplans : ∀ plan ∈ plans, ∃ is, plan.instances = .ok is) :
    List.Forall₂ JobPlan.Gives plans jobs := by
  have hstages := (List.forall₂_and_left _ _).mpr ⟨hplans, h.origins⟩
  refine forall₂_of_common hstages.flip (forall₂_of_mapM_eq_some hjobs) ?_
  rintro stage hstage plan job ⟨⟨is, his⟩, ho⟩ hresult
  by_cases hover : plan.Overreaches
  · obtain ⟨_, his', hlimit⟩ := hover
    rw [JobStage.eq_aborted his' hlimit ho] at hresult
    cases hresult
    exact ⟨rfl, .inl ⟨⟨_, his', hlimit⟩, rfl⟩⟩
  · have hlimit := (JobPlan.not_overreaches his).mp hover
    obtain ⟨e, he, -⟩ | ⟨_, run, his', rfl, hjob, hinst⟩ :=
      JobStage.origin_eq_ofPlan (fun _ _ => hlimit) ho
    · cases his.symm.trans he
    · obtain ⟨k, hk⟩ := List.getElem?_of_mem hstage
      have hsummary := run.map_summary (h.sound (RunState.job?_eq_some.mpr hk)) hresult
      obtain ⟨rs, -, rfl⟩ := Option.map_eq_some_iff.mp hresult
      refine ⟨congrArg Job.id hjob, .inr ⟨hover, ?_⟩⟩
      rw [hsummary, JobPlan.members_of_ok his', ← hinst, List.map_map]
      rfl

/-- Groups with too large a limit are missing from the number of results, and no others. -/
theorem sum_results (h : List.Forall₂ JobPlan.Gives plans jobs)
    (hplans : ∀ plan ∈ plans, plan.members ≠ []) :
    (jobs.map (·.instances.length)).sum ≤ (plans.flatMap JobPlan.members).length ∧
    ((jobs.map (·.instances.length)).sum = (plans.flatMap JobPlan.members).length ↔
      ∀ plan ∈ plans, ¬plan.Overreaches) := by
  induction h with
  | nil => simp
  | @cons plan job plans jobs hgives _ ih =>
    obtain ⟨hplan, hplans⟩ := List.forall_mem_cons.mp hplans
    obtain ⟨hle, hiff⟩ := ih hplans
    have hpos := List.length_pos_iff.mpr hplan
    simp only [List.map_cons, List.sum_cons, List.flatMap_cons, List.length_append,
      List.forall_mem_cons, ← hiff]
    obtain ⟨-, ⟨hover, hnil⟩ | ⟨hover, hall⟩⟩ := hgives
    · rw [hnil, List.length_nil]
      exact ⟨by omega, iff_of_false (by omega) fun hboth => hboth.1 hover⟩
    · have hlength : job.instances.length = plan.members.length := by
        simpa using congrArg List.length hall
      rw [hlength]
      exact ⟨by omega, by simp [hover]⟩

/-- Instances in any order are run in groups: there is one for each id, in the order of the first
instance of each, and it has all instances of its id, in order, so that no instance is lost and none
is in two groups. Plans of different jobs that have instances are found again. In every run, also
with breakdowns, a group has one task for each of its instances, and in the end one result for each,
so there are as many results as instances. Only a group that asks for more slots than there can be
would have none, and no job of a workflow that was read does so. -/
theorem Runs.regrouped (failFast : Bool) (is : List Instance) :
    let plans := regroup failFast is
    plans.map (·.job.id) = (is.map (·.job.id)).eraseDups ∧
    (∀ plan ∈ plans, ∃ first rest, ofJob plan.job.id is = first :: rest ∧
      plan = ⟨first.job, .ok (first :: rest), ⟨failFast, first.job.maxParallel⟩⟩) ∧
    (plans.flatMap JobPlan.members).Perm is ∧
    (∀ source : List JobPlan, (source.map (·.job.id)).Nodup → (∀ plan ∈ source, plan.Full) →
      (regroup failFast (source.flatMap JobPlan.members)).map (fun p => (p.job, p.instances)) =
        source.map fun p => (p.job, p.instances)) ∧
    ((∀ i ∈ is, ∃ policy source w, Workflow.ofText policy source = .ok w ∧ i.job ∈ w.jobs) →
      ∀ plan ∈ plans, ¬plan.Overreaches) ∧
    ∀ ok trace s, Runs ok (RunState.start plans) trace s →
      (∀ k plan, plans[k]? = some plan → ¬plan.Overreaches →
        ∃ run, s.job? k = some run ∧ run.tasks.map (·.inst) = ofJob plan.job.id is) ∧
      (s.isOver = true → ∃ jobs, s.jobResults? = some jobs ∧
        List.Forall₂ JobPlan.Gives plans jobs ∧
        ((jobs.map (·.instances.length)).sum = is.length ↔
          ∀ plan ∈ plans, ¬plan.Overreaches)) := by
  intro plans
  have hgroups : ∀ plan ∈ plans, ∃ first rest, ofJob plan.job.id is = first :: rest ∧
      plan = ⟨first.job, .ok (first :: rest), ⟨failFast, first.job.maxParallel⟩⟩ :=
    fun plan hplan => group_of_mem_regroup hplan
  have hok : ∀ plan ∈ plans, plan.instances = .ok (ofJob plan.job.id is) := by
    intro plan hplan
    obtain ⟨first, rest, hgroup, heq⟩ := hgroups plan hplan
    rw [hgroup, heq]
  have hperm : (plans.flatMap JobPlan.members).Perm is := regroup_perm failFast is
  refine ⟨map_id_regroup failFast is, hgroups, hperm,
    fun _ hids hfull => regroup_members failFast hids hfull, ?_, fun ok trace s h => ⟨?_, ?_⟩⟩
  · refine fun hread plan hplan => not_overreaches_of_mem_regroup (fun i hi => ?_) hplan
    obtain ⟨policy, source, w, hw, hjob⟩ := hread i hi
    exact Workflow.limit_le hw i.job hjob
  · intro k plan hk hlimit
    have his := hok plan (List.mem_of_getElem? hk)
    exact h.exists_job hk his ((JobPlan.not_overreaches his).mp hlimit)
  · intro hover
    obtain ⟨jobs, hjobs⟩ := RunState.exists_jobResults hover
    have hgives := h.gives hjobs fun plan hplan => ⟨_, hok plan hplan⟩
    refine ⟨jobs, hjobs, hgives, ?_⟩
    rw [← hperm.length_eq]
    refine (sum_results hgives fun plan hplan => ?_).2
    obtain ⟨first, rest, hgroup, -⟩ := hgroups plan hplan
    rw [JobPlan.members_of_ok (hok plan hplan), hgroup]
    exact List.cons_ne_nil _ _

end Runs

namespace Sample

/-- An instance of a job like the small one, with a name of its own and without a limit. -/
def instOf (id : String) (index : Nat) : Instance :=
  { inst index with job := { job with id := id, maxParallel := none } }

/-- Instances of two jobs, that of one between those of the other. -/
def mixed : List Instance :=
  [instOf "fetch" 0, instOf "lint" 0, instOf "fetch" 1]

end Sample

/-- The instances of two jobs are run in two groups, and all of them have results. -/
theorem Runs.regrouped_sample :
    (regroup false Sample.mixed).map (·.job.id) = ["fetch", "lint"] ∧
    ∃ trace s jobs, Runs AnyMove (RunState.start (regroup false Sample.mixed)) trace s ∧
      s.jobResults? = some jobs ∧ (jobs.map (·.instances.length)).sum = 3 := by
  let toCrash (k j : Nat) : List Move := List.replicate 4 (.task k j .go) ++ [.task k j .crash]
  obtain ⟨trace, s, h, -, hover⟩ := RunState.exists_runs AnyMove Sample.services
    (RunState.start (regroup false Sample.mixed)) (toCrash 0 0 ++ toCrash 1 0 ++ toCrash 0 1)
    (·.isOver) (by decide) (by simp [AnyMove])
  obtain ⟨hids, -, -, -, -, hruns⟩ := Runs.regrouped false Sample.mixed
  obtain ⟨jobs, hjobs, -, hcount⟩ := (hruns _ _ _ h).2 hover
  have hlimits : ∀ i ∈ Sample.mixed, i.job.maxParallel.getD 0 ≤ maxSlots := by decide
  exact ⟨hids.trans (by decide), trace, s, jobs, h, hjobs,
    hcount.mpr fun plan => not_overreaches_of_mem_regroup hlimits⟩

end MatrixFlow
