import MatrixFlow.Proofs.Matrix.Expansion
import MatrixFlow.Proofs.Workflow.Check.Matrix
import MatrixFlow.Proofs.Workflow.Read

/-!
# Exclusions as they are written

An entry of a list of exclusions is a mapping. It is stored as a combination, which is what is
compared with the choices of values.

* `Check.storedAs entry`: the combination that a mapping is stored as. Keys that are no strings are
  left out of it.
* `Check.IsFaithful entry`: all keys are strings, and no two of them are equal. Exactly such
  mappings are stored whole (`Check.length_storedAs_eq_iff`).
* `Combination.AgreesAsWritten c entry`: the choice `c` has, for every key of the mapping, the value
  written for it.
* `JobDocument.mappingsUnder d name`: the mappings that are written under a name in a matrix.
* `Workflow.exclusions_asWritten`: which choices the exclusions of a workflow that was read leave
  out.
-/

namespace MatrixFlow

open Yaml (Value)

namespace Check

/-- The combination that a mapping is stored as. -/
def storedAs (entry : List (Value × Value)) : Combination := Combination.ofList (bindingsOf entry)

/-- The mappings in a list, each as its entries. -/
def mappingsIn (v : Value) : List (List (Value × Value)) :=
  (v.asItems?.getD []).map fun item => item.asEntries?.getD []

/-- All keys are strings, and no two of them are equal. -/
def IsFaithful (entry : List (Value × Value)) : Prop :=
  (∀ e ∈ entry, (e.1.asText?).isSome = true) ∧ (entry.filterMap (·.1.asText?)).Nodup

instance (entry : List (Value × Value)) : Decidable (IsFaithful entry) :=
  inferInstanceAs (Decidable (_ ∧ _))

end Check

/-- The combination has, for every key that is written, a value equal to the one that is written
for it. A key that is no string names nothing. -/
def Combination.AgreesAsWritten (c : Combination) (entry : List (Value × Value)) : Prop :=
  ∀ e ∈ entry, ∃ name v, e.1.asText? = some name ∧ c.get? name = some v ∧
    v.equal (jsonOf e.2) = true

namespace Check

variable {entry : List (Value × Value)} {c : Combination}

theorem combinationsIn_eq (v : Value) : combinationsIn v = (mappingsIn v).map storedAs := by
  rw [combinationsIn, mappingsIn, List.map_map]
  rfl

theorem bindings_storedAs (entry : List (Value × Value)) :
    (storedAs entry).bindings = putAll [] (bindingsOf entry) :=
  Combination.bindings_insertAll ..

/-- A mapping is stored whole if and only if it is faithful. -/
theorem length_storedAs_eq_iff :
    (storedAs entry).bindings.length = entry.length ↔ IsFaithful entry := by
  have hkeys : ((bindingsOf entry).map (·.1)).length ≤ entry.length := by
    rw [map_fst_bindingsOf]
    exact List.length_filterMap_le _ _
  have hstored : (putAll [] (bindingsOf entry)).length ≤ (bindingsOf entry).length :=
    length_putAll_nil_le
  rw [bindings_storedAs, IsFaithful, ← List.filterMap_length_eq_length, ← map_fst_bindingsOf,
    ← length_putAll_nil_eq_iff]
  rw [List.length_map] at hkeys ⊢
  omega

theorem mem_bindingsOf {b : String × Json} :
    b ∈ bindingsOf entry ↔ ∃ e ∈ entry, e.1.asText? = some b.1 ∧ jsonOf e.2 = b.2 := by
  induction entry with
  | nil => simp [bindingsOf]
  | cons e entry ih =>
    obtain ⟨k, v⟩ := e
    rw [bindingsOf, List.exists_mem_cons_iff, ← ih]
    cases k.asText? with
    | none => simp
    | some name => simp [Prod.ext_iff, eq_comm]

/-- What agrees with a mapping as it is written agrees with it as it is stored. -/
theorem agrees_storedAs (h : c.AgreesAsWritten entry) : c.Agrees (storedAs entry) := by
  intro b hb
  rw [bindings_storedAs] at hb
  have hb := (mem_of_mem_putAll hb).resolve_left List.not_mem_nil
  obtain ⟨e, he, hname, hvalue⟩ := mem_bindingsOf.mp hb
  obtain ⟨name, v, hname', hv, hequal⟩ := h e he
  obtain rfl : name = b.1 := Option.some.inj (hname'.symm.trans hname)
  exact ⟨v, hv, hvalue ▸ hequal⟩

/-- A faithful mapping is compared as it is written. -/
theorem IsFaithful.agrees_iff (h : IsFaithful entry) :
    c.Agrees (storedAs entry) ↔ c.AgreesAsWritten entry := by
  refine ⟨fun hc e he => ?_, agrees_storedAs⟩
  obtain ⟨name, hname⟩ := Option.isSome_iff_exists.mp (h.1 e he)
  have hmem : (name, jsonOf e.2) ∈ (storedAs entry).bindings := by
    have hnodup : ((bindingsOf entry).map (·.1)).Nodup := by
      rw [map_fst_bindingsOf]
      exact h.2
    rw [bindings_storedAs, putAll_eq_append hnodup]
    exact mem_bindingsOf.mpr ⟨e, he, hname, rfl⟩
  obtain ⟨v, hv, hequal⟩ := hc _ hmem
  exact ⟨name, v, hname, hv, hequal⟩

end Check

/-! ## Jobs -/

/-- The entries of the matrix of a job. -/
def JobDocument.matrixEntries (document : JobDocument) : List (Value × Value) :=
  ((document.strategy.bind (·.matrix)).bind Value.asEntries?).getD []

/-- The mappings that are written under a name in the matrix of a job. Of several lists under one
name only the last one is kept. -/
def JobDocument.mappingsUnder (document : JobDocument) (name : String) :
    List (List (Value × Value)) :=
  ((Check.valuesAt document.matrixEntries name).getLast?.map Check.mappingsIn).getD []

namespace Check

variable {source id : String} {document : JobDocument} {job : Job}

theorem combinationsUnder_nil (document : JobDocument) (name : String) :
    combinationsUnder document.matrixEntries name [] =
      (document.mappingsUnder name).map storedAs := by
  unfold combinationsUnder JobDocument.mappingsUnder
  cases (valuesAt document.matrixEntries name).getLast? with
  | none => rfl
  | some v => simp [combinationsIn_eq]

/-- The entries of the matrix of a job were read, one after the other. -/
theorem JobRead.checkEntries (h : JobRead source id document job) :
    checkMatrixEntries source id Matrix.none document.matrixEntries = .ok job.matrix := by
  have hstrategy := h.strategy
  unfold checkStrategy at hstrategy
  unfold JobDocument.matrixEntries
  cases hdocument : document.strategy with
  | none =>
    rw [hdocument] at hstrategy
    obtain ⟨hmatrix, -⟩ := Strategy.mk.inj (Except.ok.inj hstrategy)
    rw [← hmatrix]
    rfl
  | some strategy =>
    rw [hdocument] at hstrategy
    dsimp only [Option.bind_some] at hstrategy ⊢
    cases hvalue : strategy.matrix with
    | none =>
      rw [hvalue] at hstrategy
      obtain ⟨m, hm, hstrategy⟩ := except_bind_eq_ok.mp hstrategy
      obtain ⟨limit, -, hstrategy⟩ := except_bind_eq_ok.mp hstrategy
      obtain ⟨rfl, -⟩ := Strategy.mk.inj (Except.ok.inj hstrategy)
      exact hm
    | some v =>
      rw [hvalue] at hstrategy
      obtain ⟨m, hm, hstrategy⟩ := except_bind_eq_ok.mp hstrategy
      obtain ⟨limit, -, hstrategy⟩ := except_bind_eq_ok.mp hstrategy
      obtain ⟨rfl, -⟩ := Strategy.mk.inj (Except.ok.inj hstrategy)
      obtain ⟨entries, hentries, hm⟩ := checkMatrix_eq_ok hm
      rw [Option.bind_some, hentries]
      exact hm

theorem JobRead.entriesRead (h : JobRead source id document job) :
    EntriesRead Matrix.none document.matrixEntries job.matrix :=
  (checkMatrixEntries_eq_ok h.checkEntries).2

/-- The exclusions and the further combinations of a job are those mappings, as they are stored. -/
theorem JobRead.matrix (h : JobRead source id document job) :
    job.matrix.excluded = (document.mappingsUnder "exclude").map storedAs ∧
      job.matrix.extras = (document.mappingsUnder "include").map storedAs := by
  rw [h.entriesRead.excluded, h.entriesRead.extras, ← combinationsUnder_nil,
    ← combinationsUnder_nil]
  exact ⟨rfl, rfl⟩

end Check

namespace Workflow

/-- What the exclusions of a workflow that was read leave out. Of the choices of values those are
left that agree with no mapping under `exclude` as it is stored. A mapping, there or under
`include`, is stored whole if and only if it is faithful, and then a choice agrees with it as it is
stored if and only if it agrees with it as it is written; in any case what agrees with it as it is
written is left out. -/
theorem exclusions_asWritten {policy : TriggerPolicy} {source : String} {w : Workflow}
    (h : Workflow.ofText policy source = .ok w) :
    ∃ document, WorkflowDocument.load source.toList = .ok document ∧
      ∀ job ∈ w.jobs, ∃ e ∈ document.jobs, ∃ d,
        e.1.asText? = some job.id ∧ JobDocument.ofValue e.2 = .ok d ∧
        job.matrix.extras = (d.mappingsUnder "include").map Check.storedAs ∧
        (∀ c, c ∈ job.matrix.kept ↔
          c ∈ (if job.matrix.axes = [] then [] else Matrix.product job.matrix.axes) ∧
            ∀ entry ∈ d.mappingsUnder "exclude", ¬c.Agrees (Check.storedAs entry)) ∧
        ∀ entry ∈ d.mappingsUnder "exclude" ++ d.mappingsUnder "include",
          ((Check.storedAs entry).bindings.length = entry.length ↔ Check.IsFaithful entry) ∧
          (Check.IsFaithful entry → ∀ c : Combination,
            c.Agrees (Check.storedAs entry) ↔ c.AgreesAsWritten entry) ∧
          ∀ c : Combination, c.AgreesAsWritten entry → c.Agrees (Check.storedAs entry) := by
  obtain ⟨document, hload, -, hjobs⟩ := Workflow.exists_document h
  refine ⟨document, hload, fun job hjob => ?_⟩
  obtain ⟨e, he, id, d, hid, hd, hread⟩ := hjobs job hjob
  obtain ⟨hexcluded, hextras⟩ := hread.matrix
  refine ⟨e, he, d, hread.id_eq ▸ hid, hd, hextras, fun c => ?_, fun entry _ => ?_⟩
  · simp [Matrix.kept_eq_remaining, Matrix.remaining, hexcluded]
  · exact ⟨Check.length_storedAs_eq_iff, fun hfaithful c => hfaithful.agrees_iff,
      fun c => Check.agrees_storedAs⟩

end Workflow

namespace Sample

/-- A workflow with two choices of values, and what is excluded of them. -/
def excluding (entry : String) : String :=
  "on: push\njobs:\n  build:\n    runs-on: l\n    strategy:\n      matrix:\n" ++
    "        os: [a, b]\n        exclude:\n          - " ++ entry ++ "\n" ++
    "    steps:\n      - run: echo\n"

end Sample

namespace Workflow

set_option maxRecDepth 100000 in
/-- An exclusion that names an axis leaves out what agrees with it. -/
theorem exclusions_asWritten_sample : ∃ w document,
    Workflow.ofText TriggerPolicy.standard (Sample.excluding "os: a") = .ok w ∧
    WorkflowDocument.load (Sample.excluding "os: a").toList = .ok document ∧
    ∀ job ∈ w.jobs, job.matrix.kept.length = 1 ∧ ∃ e ∈ document.jobs, ∃ d,
      JobDocument.ofValue e.2 = .ok d ∧ ∀ c, c ∈ job.matrix.kept ↔
        c ∈ (if job.matrix.axes = [] then [] else Matrix.product job.matrix.axes) ∧
          ∀ entry ∈ d.mappingsUnder "exclude", ¬c.AgreesAsWritten entry := by
  have hfaithful : (WorkflowDocument.load (Sample.excluding "os: a").toList).toOption.all
      (fun document => document.jobs.all fun e => (JobDocument.ofValue e.2).toOption.all fun d =>
        decide (∀ entry ∈ d.mappingsUnder "exclude", Check.IsFaithful entry)) = true := by
    decide +kernel
  have hread : (Workflow.ofText TriggerPolicy.standard (Sample.excluding "os: a")).toOption.any
      (fun w => w.jobs.all fun job => job.matrix.kept.length == 1) = true := by decide +kernel
  obtain ⟨w, hw, hone⟩ := except_any_eq_true.mp hread
  obtain ⟨document, hload, hjobs⟩ := exclusions_asWritten hw
  refine ⟨w, document, hw, hload, fun job hjob => ?_⟩
  obtain ⟨e, he, d, -, hd, -, hkept, hentries⟩ := hjobs job hjob
  rw [hload] at hfaithful
  have hentry := List.all_eq_true.mp hfaithful e he
  rw [hd] at hentry
  refine ⟨eq_of_beq (List.all_eq_true.mp hone job hjob), e, he, d, hd, fun c => ?_⟩
  refine (hkept c).trans (and_congr_right fun _ => forall₂_congr fun entry hmem => not_congr ?_)
  have hwritten := of_decide_eq_true hentry entry hmem
  exact (hentries entry (List.mem_append_left _ hmem)).2.1 hwritten c

set_option maxRecDepth 100000 in
/-- An exclusion whose only key is a number is stored as the combination that binds nothing. No
choice of values agrees with it as it is written, and it leaves out all of them. -/
theorem excludes_all_by_numeric_key : ∃ w document,
    Workflow.ofText TriggerPolicy.standard (Sample.excluding "1: a") = .ok w ∧
    WorkflowDocument.load (Sample.excluding "1: a").toList = .ok document ∧
    ∃ job ∈ w.jobs, ∃ e ∈ document.jobs, ∃ d,
      e.1.asText? = some job.id ∧ JobDocument.ofValue e.2 = .ok d ∧
      (Matrix.product job.matrix.axes).length = 2 ∧ job.matrix.kept = [] ∧
      ∀ entry ∈ d.mappingsUnder "exclude",
        entry.length = 1 ∧ (Check.storedAs entry).bindings = [] ∧
        ∀ c : Combination, ¬c.AgreesAsWritten entry := by
  have hread : (Workflow.ofText TriggerPolicy.standard
        (Sample.excluding "1: a")).toOption.any (fun w =>
      (WorkflowDocument.load (Sample.excluding "1: a").toList).toOption.any fun document =>
        w.jobs.any fun job => document.jobs.any fun e =>
          (JobDocument.ofValue e.2).toOption.any fun d =>
            e.1.asText? == some job.id && (Matrix.product job.matrix.axes).length == 2 &&
              job.matrix.kept.isEmpty &&
              (d.mappingsUnder "exclude").all fun entry => entry.map (·.1.asText?) == [none]) =
      true := by decide +kernel
  obtain ⟨w, hw, hread⟩ := except_any_eq_true.mp hread
  obtain ⟨document, hload, hread⟩ := except_any_eq_true.mp hread
  obtain ⟨job, hjob, hread⟩ := List.any_eq_true.mp hread
  obtain ⟨e, he, hread⟩ := List.any_eq_true.mp hread
  obtain ⟨d, hd, hread⟩ := except_any_eq_true.mp hread
  simp only [Bool.and_eq_true, beq_iff_eq, List.isEmpty_iff, List.all_eq_true] at hread
  obtain ⟨⟨⟨hid, htwo⟩, hkept⟩, hkeys⟩ := hread
  refine ⟨w, document, hw, hload, job, hjob, e, he, d, hid, hd, htwo, hkept, ?_⟩
  intro entry hentry
  obtain ⟨⟨key, value⟩, rfl, hkey⟩ := List.map_eq_singleton_iff.mp (hkeys entry hentry)
  dsimp only at hkey
  refine ⟨rfl, ?_, fun c hc => ?_⟩
  · simp [Check.bindings_storedAs, Check.bindingsOf, hkey, putAll]
  · obtain ⟨name, v, hname, -⟩ := hc _ List.mem_cons_self
    rw [hkey] at hname
    cases hname

end Workflow

end MatrixFlow
