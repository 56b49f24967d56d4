import Mathlib.Data.List.Nodup
import MatrixFlow.Proofs.Workflow.Exclusions
import MatrixFlow.Proofs.Workflow.Plan
import MatrixFlow.Proofs.Yaml.Keys

/-!
# The keys that jobs and axes are named by

No mapping of a workflow has a key twice. Jobs and axes are called by the texts of their keys, and a
key has the same text with a tag and without.

* `KeyNames keys names`: the names are the texts of different keys. They differ if and only if the
  keys do without their tags.
* `WorkflowDocument.Fields.Kept`: what every field of a document keeps while it is read.
* `WorkflowDocument.load_keysUnique`, `JobDocument.ofValue_keysUnique`: nothing in a document that
  was read has a key twice.
* `Check.JobRead.keyNames`: the names of the axes are those of the keys of the matrix.
* `Workflow.plan_onlyJob`, `Workflow.selectsOne_iff`: all jobs of a name are planned when it is asked
  for, so the names select one job each if and only if they differ.
* `Workflow.names_of_keys`: the names of the jobs and axes of a workflow, and what it takes for a
  name to stand for one job only and for the axes to have a product.
-/

namespace MatrixFlow

open Yaml (Value Gives)
open Yaml.Value (KeysApart)

/-! ## Names -/

/-- The names are the texts of the keys, and no two of the keys are the same. The names differ if
and only if the keys do without their tags; so they differ if there are no tags. -/
structure KeyNames (keys : List Value) (names : List String) : Prop where
  apart : KeysApart keys
  texts : keys.map Value.untag = names.map Value.str
  nodup_iff : names.Nodup ↔ KeysApart (keys.map Value.untag)
  nodup : (∀ k ∈ keys, k.hasTag = false) → names.Nodup

theorem untag_of_not_hasTag {k : Value} (h : k.hasTag = false) : k.untag = k := by
  cases k with
  | tagged tag v => cases h
  | _ => rfl

theorem KeyNames.of_texts {keys : List Value} {names : List String} (hapart : KeysApart keys)
    (htexts : keys.map Value.untag = names.map Value.str) : KeyNames keys names := by
  have hiff : names.Nodup ↔ KeysApart (keys.map Value.untag) := by
    rw [htexts, KeysApart, List.pairwise_map, List.Nodup]
    simp only [Value.same, beq_eq_false_iff_ne]
  refine ⟨hapart, htexts, hiff, fun htags => hiff.mpr ?_⟩
  have huntag : keys.map Value.untag = keys :=
    (List.map_congr_left fun k hk => untag_of_not_hasTag (htags k hk)).trans (List.map_id keys)
  rw [huntag]
  exact hapart

/-! ## Documents -/

namespace WorkflowDocument

open Yaml

/-- A property of the fields that are read which every field keeps. The variables are those of a
map, and no key comes twice in the jobs. -/
structure Fields.Kept (I : Fields → Prop) : Prop where
  none : I Fields.none
  name : ∀ fields name, I fields → I { fields with name := some name }
  on : ∀ fields on, I fields → I { fields with on := some on }
  env : ∀ fields pairs, I fields → I { fields with env := some (lastNamed pairs) }
  jobs : ∀ fields jobs, I fields → (Value.map jobs).keysUnique = true →
    I { fields with jobs := some jobs }

theorem readFields_gives {I : Fields → Prop} (hI : Fields.Kept I) (t : Tree) (depth : Nat)
    {fields : Fields} (h : I fields) (entries : List (Node × Node)) :
    Gives (readFields t depth fields entries) I := by
  induction entries generalizing fields with
  | nil => exact gives_pure h
  | cons e entries ih =>
    obtain ⟨k, v⟩ := e
    unfold readFields
    refine gives_bind fun key => ?_
    dsimp only
    split
    · exact gives_bind fun _ => gives_bind fun _ => ih (hI.name _ _ h)
    · split
      · exact gives_bind fun _ => gives_bind fun _ => ih (hI.on _ _ h)
      · split
        · refine gives_bind fun _ => gives_bind fun ⟨m, es⟩ => ?_
          dsimp only
          split
          · exact gives_throw _
          · exact gives_bind fun _ => ih (hI.env _ _ h)
        · split
          · refine gives_bind fun _ => gives_bind fun ⟨m, es⟩ => ?_
            dsimp only
            split
            · exact gives_throw _
            · refine (Tree.readPairs_readValue_gives rfl _ m _ es).bind fun jobs hjobs => ?_
              exact ih (hI.jobs _ _ h hjobs)
          · exact gives_bind fun _ => ih h

/-- A document is made of fields, which have what every field keeps. -/
theorem Fields.Kept.load {I : Fields → Prop} (hI : Fields.Kept I) {cs : List Char}
    {document : WorkflowDocument} (h : WorkflowDocument.load cs = .ok document) :
    ∃ fields, I fields ∧ document.env = fields.env.getD [] ∧
      document.jobs = fields.jobs.getD [] := by
  refine Gives.load (P := fun d => ∃ fields, I fields ∧ d.env = fields.env.getD [] ∧
    d.jobs = fields.jobs.getD []) ?_ h
  refine gives_bind fun ⟨m, entries⟩ => ?_
  refine Gives.tryCatch ?_ fun e => gives_throw _
  refine (readFields_gives hI _ _ hI.none entries).bind fun fields hfields => ?_
  split
  · exact gives_throw _
  · exact gives_pure ⟨fields, hfields, rfl, rfl⟩

/-- No key comes twice in the jobs of a document, nor inside them. -/
theorem load_keysUnique {cs : List Char} {document : WorkflowDocument}
    (h : WorkflowDocument.load cs = .ok document) :
    (Value.map document.jobs).keysUnique = true := by
  have hkept : Fields.Kept fun fields =>
      ∀ jobs, fields.jobs = some jobs → (Value.map jobs).keysUnique = true := by
    refine ⟨by rintro _ ⟨⟩, fun _ _ h => h, fun _ _ h => h, fun _ _ h => h, ?_⟩
    rintro fields jobs - hjobs _ ⟨⟩
    exact hjobs
  obtain ⟨fields, hfields, -, hdocument⟩ := hkept.load h
  rw [hdocument]
  cases hjobs : fields.jobs with
  | none => rfl
  | some jobs => exact hfields jobs hjobs

end WorkflowDocument

/-! ## Jobs -/

namespace Yaml.Value

variable {σ : Type} {v : Value} {entries : List (Value × Value)} {expected : String}

theorem keysUnique_of_asEntries? (hv : v.keysUnique = true) (h : v.asEntries? = some entries) :
    (map entries).keysUnique = true := by
  rw [← keysUnique_untag] at hv
  unfold asEntries? at h
  split at h
  · rename_i es hes
    cases h
    exact hes ▸ hv
  · cases h

theorem keysUnique_of_toEntries (hv : v.keysUnique = true)
    (h : v.toEntries expected = .ok entries) : (map entries).keysUnique = true := by
  rw [← keysUnique_untag] at hv
  unfold toEntries at h
  split at h
  · rename_i es hes
    cases h
    exact hes ▸ hv
  · cases h
    exact keysUnique_map_iff.mpr ⟨by simp, List.Pairwise.nil⟩
  · cases h

theorem keysUnique_of_toItems {items : List Value} (hv : v.keysUnique = true)
    (h : v.toItems = .ok items) : ∀ item ∈ items, item.keysUnique = true := by
  rw [← keysUnique_untag] at hv
  unfold toItems at h
  split at h
  · rename_i es hes
    cases h
    rw [hes, keysUnique] at hv
    exact keysUniqueItems_iff.mp hv
  · cases h
    simp
  · cases h

theorem eq_ok_of_toOption {α : Type} {read : Value → Except ShapeError α} {a : α}
    (h : v.toOption read = .ok (some a)) : read v = .ok a := by
  unfold toOption at h
  split at h
  · cases h
  · obtain ⟨b, hb, hab⟩ := except_map_eq_ok.mp h
    cases hab
    exact hb

/-- What every field keeps, if no key comes twice inside it, holds when all fields are read. -/
theorem foldFields_keeps {known : List String} {init acc : σ} {I : σ → Prop}
    {read : σ → String → Value → Except ShapeError σ}
    (hread : ∀ acc name w acc', I acc → w.keysUnique = true → read acc name w = .ok acc' → I acc')
    (hv : v.keysUnique = true) (hinit : I init)
    (h : v.foldFields expected known init read = .ok acc) : I acc := by
  rw [foldFields, except_bind_eq_ok] at h
  obtain ⟨entries, hentries, h⟩ := h
  obtain ⟨hfields, -⟩ := keysUnique_map_iff.mp (keysUnique_of_toEntries hv hentries)
  -- the names that were seen only matter for errors
  generalize ([] : List String) = seen at h
  clear hentries
  induction entries generalizing seen init with
  | nil => cases h; exact hinit
  | cons e entries ih =>
    obtain ⟨k, w⟩ := e
    obtain ⟨hw, hfields⟩ := List.forall_mem_cons.mp hfields
    obtain ⟨name, -, h⟩ := except_bind_eq_ok.mp h
    split at h
    · cases h
    · obtain ⟨next, hnext, h⟩ := except_bind_eq_ok.mp h
      exact ih (hread init name w next hinit hw.2 hnext) hfields _ h

end Yaml.Value

/-- No key comes twice in the matrix, nor inside it. -/
def StrategyDocument.KeysUnique (s : StrategyDocument) : Prop :=
  ∀ v, s.matrix = some v → v.keysUnique = true

theorem StrategyDocument.ofValue_keysUnique {v : Value} {s : StrategyDocument}
    (hv : v.keysUnique = true) (h : StrategyDocument.ofValue v = .ok s) : s.KeysUnique := by
  refine Value.foldFields_keeps (I := KeysUnique) ?_ hv (by rintro _ ⟨⟩) h
  intro s name w s' hs hw hread
  unfold readField at hread
  split at hread
  · obtain ⟨matrix, hmatrix, heq⟩ := except_bind_eq_ok.mp hread
    cases heq
    rintro v rfl
    cases Value.eq_ok_of_toOption hmatrix
    exact hw
  · obtain ⟨failFast, -, heq⟩ := except_bind_eq_ok.mp hread
    cases heq
    exact hs
  · obtain ⟨limit, -, heq⟩ := except_bind_eq_ok.mp hread
    cases heq
    exact hs
  · cases hread
    exact hs

namespace JobDocument

/-- What holds of every strategy that was read holds of that of a job. -/
theorem strategy_of_ofValue {P : StrategyDocument → Prop} {v : Value} {d : JobDocument}
    (hP : ∀ w s, w.keysUnique = true → StrategyDocument.ofValue w = .ok s → P s)
    (hv : v.keysUnique = true) (h : JobDocument.ofValue v = .ok d) :
    ∀ s, d.strategy = some s → P s := by
  refine Value.foldFields_keeps (I := fun d : JobDocument => ∀ s, d.strategy = some s → P s) ?_ hv
    (by rintro _ ⟨⟩) h
  intro d name w d' hd hw hread
  unfold readField at hread
  split at hread
  case h_4 =>
    obtain ⟨strategy, hstrategy, heq⟩ := except_bind_eq_ok.mp hread
    cases heq
    rintro s rfl
    exact hP w s hw (Value.eq_ok_of_toOption hstrategy)
  case h_7 =>
    cases hread
    exact hd
  all_goals
    obtain ⟨field, -, heq⟩ := except_bind_eq_ok.mp hread
    cases heq
    exact hd

/-- No key comes twice in the matrix of a job, nor inside it. -/
theorem ofValue_keysUnique {v : Value} {d : JobDocument} (hv : v.keysUnique = true)
    (h : JobDocument.ofValue v = .ok d) : (Value.map d.matrixEntries).keysUnique = true := by
  have hd : ∀ s, d.strategy = some s → s.KeysUnique :=
    strategy_of_ofValue (fun _ _ => StrategyDocument.ofValue_keysUnique) hv h
  unfold matrixEntries
  cases hs : d.strategy with
  | none => rfl
  | some s =>
    cases hm : s.matrix with
    | none => simp [hm, Value.keysUnique_map_iff, KeysApart]
    | some m =>
      rw [Option.bind_some, hm, Option.bind_some]
      cases hentries : m.asEntries? with
      | none => simp [Value.keysUnique_map_iff, KeysApart]
      | some entries => exact Value.keysUnique_of_asEntries? (hd s hs m hm) hentries

/-- The keys of the axes: all but those of combinations. -/
def axisKeys (d : JobDocument) : List Value :=
  (d.matrixEntries.map (·.1)).filter fun k =>
    k.asText? != some "include" && k.asText? != some "exclude"

end JobDocument

namespace Check

variable {source id : String} {document : JobDocument} {job : Job}

theorem untag_eq_str {k : Value} {name : String} (h : k.asText? = some name) :
    k.untag = .str name := by
  unfold Value.asText? at h
  split at h
  · rename_i s hs
    cases h
    exact hs
  · cases h

/-- The axes of a job are named by the keys of its matrix. -/
theorem JobRead.keyNames (h : JobRead source id document job)
    (hkeys : (Value.map document.matrixEntries).keysUnique = true) :
    KeyNames document.axisKeys (job.matrix.axes.map (·.name)) := by
  obtain ⟨hentries, hread⟩ := checkMatrixEntries_eq_ok h.checkEntries
  have haxes : job.matrix.axes.map (·.name) = axisNames document.matrixEntries := hread.axes
  refine .of_texts ((Value.keysUnique_map_iff.mp hkeys).2.filter _) ?_
  rw [haxes, JobDocument.axisKeys, axisNames]
  clear haxes hread hkeys
  generalize document.matrixEntries = entries at hentries ⊢
  induction entries with
  | nil => rfl
  | cons e entries ih =>
    obtain ⟨⟨name, hname, -⟩, hentries⟩ := List.forall_mem_cons.mp hentries
    have haxis : (e.1.asText? != some "include" && e.1.asText? != some "exclude") =
        (name != "include" && name != "exclude") := by rw [hname]; rfl
    have htexts : (e :: entries).filterMap (·.1.asText?) =
        name :: entries.filterMap (·.1.asText?) := List.filterMap_cons_some hname
    rw [List.map_cons, List.filter_cons, htexts, List.filter_cons, haxis]
    split
    · rw [List.map_cons, List.map_cons, untag_eq_str hname, ih hentries]
    · exact ih hentries

end Check

/-! ## Workflows -/

namespace Workflow

variable {w : Workflow} {policy : TriggerPolicy} {source : String} {config : RunConfig}
  {id : String}

/-- The names of the jobs. -/
def ids (w : Workflow) : List String := w.jobs.map (·.id)

/-- If a job is asked for, all jobs of its name are planned. -/
theorem plan_onlyJob (hasked : config.onlyJob = some id) (hid : id ∈ w.ids) :
    ∃ plans, w.plan config = .ok plans ∧ plans.map (·.job) = w.jobs.filter (·.id == id) := by
  have hfound : (w.job? id).isNone = false := by
    rw [Option.isNone_eq_false_iff, job?, List.find?_isSome]
    obtain ⟨job, hjob, rfl⟩ := List.mem_map.mp hid
    exact ⟨job, hjob, beq_self_eq_true _⟩
  refine ⟨(w.selectedJobs config).map (planJob config (w.globalsFor config)), ?_, ?_⟩
  · rw [plan, hasked, Option.filter_some, if_neg (by simp [hfound])]
  · rw [List.map_map, selectedJobs, hasked]
    exact List.map_id _

/-- Whoever asks for a job by its name gets the plan of one job. -/
def SelectsOne (w : Workflow) : Prop :=
  ∀ config id, config.onlyJob = some id → id ∈ w.ids →
    ∃ plan, w.plan config = .ok [plan] ∧ plan.job.id = id

theorem selectsOne_iff : w.SelectsOne ↔ w.ids.Nodup := by
  -- as many jobs are planned as there are of the name
  have hcount : ∀ (plans : List JobPlan) (id : String),
      plans.map (·.job) = w.jobs.filter (·.id == id) → plans.length = w.ids.count id := by
    intro plans id hjobs
    rw [← List.length_map (·.job), hjobs, ← List.countP_eq_length_filter, ids, List.count,
      List.countP_map]
    rfl
  constructor
  · intro h
    rw [List.nodup_iff_count_eq_one]
    intro id hid
    let config : RunConfig := { RunConfig.standard with onlyJob := some id }
    have hasked : config.onlyJob = some id := rfl
    obtain ⟨plan, hplan, -⟩ := h config id hasked hid
    obtain ⟨plans, hplans, hjobs⟩ := plan_onlyJob hasked hid
    cases hplans.symm.trans hplan
    exact (hcount _ id hjobs).symm
  · intro h config id hasked hid
    obtain ⟨plans, hplans, hjobs⟩ := plan_onlyJob hasked hid
    have hone : plans.length = 1 :=
      (hcount plans id hjobs).trans (List.nodup_iff_count_eq_one.mp h id hid)
    obtain ⟨plan, rfl⟩ := List.length_eq_one_iff.mp hone
    have hmem : plan.job ∈ w.jobs.filter (·.id == id) := hjobs ▸ List.mem_singleton_self _
    exact ⟨plan, hplans, eq_of_beq (List.mem_filter.mp hmem).2⟩

/-- What the names in a workflow that was read stand for. Its jobs, and the axes of each of them,
are called by the texts of keys no two of which are the same, so that names differ if and only if
the keys do without their tags. A name selects one job if and only if the names of the jobs differ,
and axes with values have a product if and only if their names differ. -/
theorem names_of_keys (h : Workflow.ofText policy source = .ok w) :
    ∃ document, WorkflowDocument.load source.toList = .ok document ∧
      KeyNames (document.jobs.map (·.1)) w.ids ∧
      (w.SelectsOne ↔ w.ids.Nodup) ∧
      List.Forall₂ (fun e job => ∃ d, JobDocument.ofValue e.2 = .ok d ∧
          KeyNames d.axisKeys (job.matrix.axes.map (·.name)) ∧
          ((∀ axis ∈ job.matrix.axes, axis.values ≠ []) →
            (Matrix.IsProduct job.matrix.axes ↔ (job.matrix.axes.map (·.name)).Nodup)))
        document.jobs w.jobs := by
  obtain ⟨document, hload, -, hjobs⟩ := Workflow.exists_entries h
  obtain ⟨hinside, hapart⟩ :=
    Value.keysUnique_map_iff.mp (WorkflowDocument.load_keysUnique hload)
  refine ⟨document, hload, .of_texts hapart ?_, selectsOne_iff, ?_⟩
  · clear hinside hapart hload
    rw [ids, List.map_map, List.map_map, ← List.forall₂_eq_eq_eq, List.forall₂_map_left_iff,
      List.forall₂_map_right_iff]
    refine hjobs.imp fun e job hread => ?_
    obtain ⟨id, d, hid, -, hjob⟩ := Check.checkJobEntry_eq_ok hread
    change e.1.untag = .str job.id
    rw [hjob.id_eq]
    exact Check.untag_eq_str hid
  · have hboth := (List.forall₂_and_left _ _).mpr ⟨hinside, hjobs⟩
    refine hboth.imp fun e job ⟨⟨_, hvalue⟩, hread⟩ => ?_
    obtain ⟨id, d, -, hd, hjob⟩ := Check.checkJobEntry_eq_ok hread
    have hfinite : ∀ axis ∈ job.matrix.axes, axis.isFinite = true :=
      hjob.entriesRead.finite (by simp [Matrix.none])
    exact ⟨d, hd, hjob.keyNames (JobDocument.ofValue_keysUnique hvalue hd),
      fun hvalues => Matrix.isProduct_iff hvalues hfinite⟩

end Workflow

namespace Sample

/-- A workflow with two jobs. The second one, which may have a tag, varies over two axes, of which
the second one may have a tag. -/
def twoJobs (job axis : String) : String :=
  "on: push\njobs:\n  build:\n    runs-on: l\n    steps:\n      - run: echo one\n" ++
    "  " ++ job ++ ":\n    runs-on: m\n    strategy:\n      matrix:\n        os: [a, b]\n" ++
    "        " ++ axis ++ ": [c, d]\n    steps:\n      - run: echo two\n"

end Sample

namespace Workflow

set_option maxRecDepth 100000 in
/-- Without tags every name selects one job, and all axes have a product. -/
theorem names_of_keys_sample : ∃ w,
    Workflow.ofText TriggerPolicy.standard (Sample.twoJobs "test" "arch") = .ok w ∧
    w.ids = ["build", "test"] ∧ w.SelectsOne ∧
    ∀ job ∈ w.jobs, Matrix.IsProduct job.matrix.axes := by
  have hread : (WorkflowDocument.load (Sample.twoJobs "test" "arch").toList).toOption.any
      (fun document => (document.jobs.all fun e => !e.1.hasTag &&
          (JobDocument.ofValue e.2).toOption.all fun d => d.axisKeys.all fun k => !k.hasTag) &&
        (Check.checkWorkflow (Sample.twoJobs "test" "arch") TriggerPolicy.standard
          document).toOption.any fun w => w.ids == ["build", "test"] &&
            w.jobs.all fun job => job.matrix.axes.all fun axis => !axis.values.isEmpty) = true := by
    decide +kernel
  obtain ⟨document, hload, hread⟩ := except_any_eq_true.mp hread
  obtain ⟨hkeys, hread⟩ := Bool.and_eq_true_iff.mp hread
  obtain ⟨w, hcheck, hread⟩ := except_any_eq_true.mp hread
  have hw := (ofText_of_load hload).trans hcheck
  simp only [Bool.and_eq_true, beq_iff_eq, List.all_eq_true, Bool.not_eq_true',
    List.isEmpty_eq_false_iff] at hread hkeys
  obtain ⟨document', hload', hids, hselects, hjobs⟩ := names_of_keys hw
  cases hload.symm.trans hload'
  refine ⟨w, hw, hread.1, ?_, fun job hjob => ?_⟩
  · exact hselects.mpr (hids.nodup (List.forall_mem_map.mpr fun e he => (hkeys e he).1))
  · obtain ⟨e, he, d, hd, hnames, hproduct⟩ := exists_mem_of_forall₂ hjobs job hjob
    have htags := (hkeys e he).2
    rw [hd] at htags
    have hnodup := hnames.nodup fun k hk => by simpa using List.all_eq_true.mp htags k hk
    exact (hproduct (hread.2 job hjob)).mpr hnodup

set_option maxRecDepth 100000 in
/-- A key with a tag is another key than the same one without. Such keys are accepted, for jobs and
for axes, and their names are the same: asking for the job plans two, and the combinations bind the
values of the second axis only, each of them twice. -/
theorem accepts_twins : ∃ w,
    Workflow.ofText TriggerPolicy.standard (Sample.twoJobs "!x build" "!x os") = .ok w ∧
    w.ids = ["build", "build"] ∧ ¬w.ids.Nodup ∧
    (∃ plans, w.plan { RunConfig.standard with onlyJob := some "build" } = .ok plans ∧
      plans.map (·.job.id) = ["build", "build"]) ∧
    ∃ job ∈ w.jobs, job.matrix.axes.map (·.name) = ["os", "os"] ∧
      (Matrix.product job.matrix.axes).map (·.text) = ["(c)", "(d)", "(c)", "(d)"] := by
  have hread : (Workflow.ofText TriggerPolicy.standard
      (Sample.twoJobs "!x build" "!x os")).toOption.any (fun w => w.ids == ["build", "build"] &&
        (w.plan { RunConfig.standard with onlyJob := some "build" }).toOption.any (fun plans =>
          plans.map (·.job.id) == ["build", "build"]) &&
        w.jobs.any fun job => job.matrix.axes.map (·.name) == ["os", "os"] &&
          (Matrix.product job.matrix.axes).map (·.text) == ["(c)", "(d)", "(c)", "(d)"]) =
      true := by
    decide +kernel
  obtain ⟨w, hw, hread⟩ := except_any_eq_true.mp hread
  simp only [Bool.and_eq_true, beq_iff_eq] at hread
  obtain ⟨⟨hids, hplans⟩, haxes⟩ := hread
  obtain ⟨plans, hplans, htwo⟩ := except_any_eq_true.mp hplans
  obtain ⟨job, hjob, haxes⟩ := List.any_eq_true.mp haxes
  simp only [Bool.and_eq_true, beq_iff_eq] at haxes
  refine ⟨w, hw, hids, by rw [hids]; decide, ⟨plans, hplans, eq_of_beq htwo⟩, job, hjob, haxes⟩

end Workflow

end MatrixFlow
