import Mathlib.Algebra.BigOperators.Group.List.Basic
import Mathlib.Data.Nat.Cast.Basic
import MatrixFlow.Proofs.Markup.Count
import MatrixFlow.Report.Junit

/-!
# Reports as documents

* `Junit.element`: the element that a report is, with one element per job, and in it one per
  instance, or one for the cause why there are none.
* `Junit.toList_junitReport`: the text of a report is that of its element.
* `Junit.document?_junitReport`: a report is read back as its element, whatever texts are in it.
* `Junit.Counted`: what a report counts, each with its attribute and the element that is counted.
* `Junit.Counted.number`: the number for a job.
* `Junit.attr?_element`, `Junit.count_element`: the attribute of a report and the elements in it
  both come to the sum over the jobs.
* `WorkflowResult.junitReport_counts`: the numbers of a report are those of the tags in its text.
-/

namespace MatrixFlow

open Markup (Attributes Element written)

namespace Junit

/-! ## The element of a report -/

/-- A line ending and the blanks behind it. -/
def indent (n : Nat) : List Char :=
  '\n' :: List.replicate n ' '

/-- The attributes that count test cases. -/
def countAttrs (tests failures errors skipped : Nat) (time : Binary64) : Attributes :=
  [("tests", written (toString tests)), ("failures", written (toString failures)),
    ("errors", written (toString errors)), ("skipped", written (toString skipped)),
    ("time", written (time.fixedText 3))]

/-- What an attribute tells of a step that failed, as it is written. -/
def message (step headline : String) : List Char :=
  "step '".toList ++ (written step ++ ("' failed: ".toList ++ written headline))

/-- The element for the failure of an instance. -/
def failureElement (r : InstanceResult) : Element :=
  match r.firstFailure? with
  | some (step, failure) =>
    .mk (indent 6) "failure" [("message", message step.identifier failure.headline)] []
      ('\n' :: (written failure.diagnostic ++ indent 6))
  | none => .mk (indent 6) "failure" [("message", written "instance failed")] [] []

/-- The element for an instance. -/
def caseElement (job : JobResult) (r : InstanceResult) : Element :=
  let attrs := [("name", written r.summary.label), ("classname", written job.id),
    ("time", written (r.duration.seconds.fixedText 3))]
  match r.status with
  | .succeeded => .mk (indent 4) "testcase" attrs [] []
  | .cancelled =>
    .mk (indent 4) "testcase" attrs
      [.mk (indent 6) "skipped" [("message", written "cancelled")] [] []] (indent 4)
  | .failed => .mk (indent 4) "testcase" attrs [failureElement r] (indent 4)

/-- The element for a job without instances. -/
def unexpandedElement (job : JobResult) (u : Unexpanded) : Element :=
  .mk (indent 4) "testcase" [("name", written job.name), ("classname", written job.id)]
    [.mk (indent 6) "error" [("message", written u.message), ("type", written u.kind.name)]
      [] []] (indent 4)

/-- The element for a job. -/
def suiteElement (job : JobResult) : Element :=
  .mk (indent 2) "testsuite"
    (("name", written job.name) ::
      countAttrs (caseCount job) (job.count .failed) (errorCount job) (job.count .cancelled)
        (Binary64.sum (job.instances.map (·.duration.seconds))))
    (job.unexpanded.toList.map (unexpandedElement job) ++ job.instances.map (caseElement job))
    (indent 2)

/-- The element of a report. -/
def element (result : WorkflowResult) : Element :=
  .mk (indent 0) "testsuites"
    (("name", written result.workflow) ::
      countAttrs (total (result.jobs.map caseCount)) (result.count .failed)
        (total (result.jobs.map errorCount)) (result.count .cancelled) result.duration.seconds)
    (result.jobs.map suiteElement) (indent 0)

/-! ## The text of a report -/

theorem toList_attrOf (name value : String) :
    (attrOf name value).toList = Markup.attrChars (name, value.toList) := by
  simp [attrOf, Markup.attrChars]

theorem toList_attr (name value : String) :
    (attr name value).toList = Markup.attrChars (name, written value) := by
  rw [attr, toList_attrOf, Markup.toList_escape]

theorem toList_counts (tests failures errors skipped : Nat) (time : Binary64) :
    (counts tests failures errors skipped time).toList =
      (countAttrs tests failures errors skipped time).flatMap Markup.attrChars := by
  simp [counts, countAttrs, toList_attr]

section

open Markup.Element (chars_mk chars_single)

/-- The line ending before the text of an element belongs to the element, and the one behind it to
what follows. -/
theorem failureText_append (r : InstanceResult) (rest : List Char) :
    '\n' :: ((failureText r).toList ++ rest) = (failureElement r).chars ++ '\n' :: rest := by
  unfold failureText failureElement message
  cases r.firstFailure? with
  | some failure => simp [indent, chars_mk, toList_attrOf, Markup.toList_escape]
  | none => simp [indent, chars_single, toList_attr]

theorem instanceText_append (job : JobResult) (r : InstanceResult) (rest : List Char) :
    '\n' :: ((instanceText job r).toList ++ rest) = (caseElement job r).chars ++ '\n' :: rest := by
  unfold instanceText caseElement
  cases r.status with
  | succeeded => simp [indent, chars_single, toList_attr]
  | failed => simp [indent, chars_mk, toList_attr, failureText_append]
  | cancelled => simp [indent, chars_mk, chars_single, toList_attr]

theorem unexpandedText_append (job : JobResult) (u : Unexpanded) (rest : List Char) :
    '\n' :: ((unexpandedText job u).toList ++ rest) =
      (unexpandedElement job u).chars ++ '\n' :: rest := by
  unfold unexpandedText unexpandedElement
  simp [indent, chars_mk, chars_single, toList_attr]

/-- The texts of elements in a row. -/
theorem flatMap_toList_append {α : Type} {text : α → String} {element : α → Element}
    (h : ∀ a rest, '\n' :: ((text a).toList ++ rest) = (element a).chars ++ '\n' :: rest)
    (as : List α) (rest : List Char) :
    '\n' :: (as.flatMap (fun a => (text a).toList) ++ rest) =
      as.flatMap (fun a => (element a).chars) ++ '\n' :: rest := by
  induction as with
  | nil => rfl
  | cons a as ih =>
    rw [List.flatMap_cons, List.flatMap_cons, List.append_assoc, List.append_assoc, h, ih]

theorem suiteText_append (job : JobResult) (rest : List Char) :
    '\n' :: ((suiteText job).toList ++ rest) = (suiteElement job).chars ++ '\n' :: rest := by
  have hcases := flatMap_toList_append (unexpandedText_append job)
  have hinstances := flatMap_toList_append (instanceText_append job)
  unfold suiteText suiteElement
  simp [indent, chars_mk, toList_attr, toList_counts, String.toList_join, List.flatMap_map, hcases,
    hinstances]

theorem toList_junitReport (result : WorkflowResult) :
    result.junitReport.toList = Markup.declaration ++ ((element result).chars ++ ['\n']) := by
  have hsuites := flatMap_toList_append suiteText_append
  have hline : "<?xml version=\x221.0\x22 encoding=\x22UTF-8\x22?>\n<testsuites".toList =
      Markup.declaration ++ '\n' :: '<' :: "testsuites".toList := by decide
  unfold WorkflowResult.junitReport element
  simp only [String.toList_append, hline]
  simp [indent, chars_mk, toList_attr, toList_counts, String.toList_join, List.flatMap_map, hsuites]

end

/-! ## The report is a document -/

@[simp] theorem isWritten_indent (n : Nat) : Markup.IsWritten (indent n) :=
  Markup.isWritten_of_plain fun c hc => by
    rw [indent, List.mem_cons, List.mem_replicate] at hc
    obtain rfl | ⟨-, rfl⟩ := hc <;> decide

@[simp] theorem isWritten_message (step headline : String) :
    Markup.IsWritten (message step headline) := by
  have hstep := Markup.isWritten_written step
  have hheadline := Markup.isWritten_written headline
  have hdecode : Markup.decode (message step headline) =
      some ("step '".toList ++ (Markup.lineEnds step.toList ++
        ("' failed: ".toList ++ Markup.lineEnds headline.toList))) := by
    unfold message
    rw [Markup.decode_append (by simp), written, Markup.decode_escape_append _ (by simp),
      Markup.decode_append (by simp), Markup.decode_written]
    rfl
  refine ⟨by rw [hdecode]; rfl, ?_, ?_, ?_⟩ <;> unfold message
  · simp [hstep.less, hheadline.less]
  · simp [hstep.greater, hheadline.greater]
  · simp [hstep.quote, hheadline.quote]

/-- The lines around a diagnostic belong to the text. -/
theorem diagnostic_eq_written (diagnostic : String) :
    '\n' :: (written diagnostic ++ indent 6) = written ("\n" ++ diagnostic ++ "\n      ") := by
  simp [written, indent, Markup.escapeChar_eq_self]

section

open Markup (isName)
open Markup.Element (proper_mk proper_single)

theorem failureElement_proper (r : InstanceResult) : (failureElement r).Proper := by
  unfold failureElement
  cases r.firstFailure? with
  | none => exact proper_single (by simp) (by decide) (by simp [isName]) (by simp)
  | some failure =>
    refine proper_mk (by simp) (by decide) (by simp [isName]) (by simp) (by simp) ?_
    rw [diagnostic_eq_written]
    exact Markup.isWritten_written _

theorem caseElement_proper (job : JobResult) (r : InstanceResult) : (caseElement job r).Proper := by
  have hattrs : Attributes.Proper [("name", written r.summary.label),
      ("classname", written job.id), ("time", written (r.duration.seconds.fixedText 3))] := by
    simp [isName]
  unfold caseElement
  cases r.status with
  | succeeded => exact proper_single (by simp) (by decide) hattrs (by simp)
  | failed =>
    refine proper_mk (by simp) (by decide) hattrs (by simp) ?_ (by simp)
    exact List.forall_mem_singleton.mpr (failureElement_proper r)
  | cancelled =>
    refine proper_mk (by simp) (by decide) hattrs (by simp) ?_ (by simp)
    exact List.forall_mem_singleton.mpr
      (proper_single (by simp) (by decide) (by simp [isName]) (by simp))

theorem unexpandedElement_proper (job : JobResult) (u : Unexpanded) :
    (unexpandedElement job u).Proper := by
  refine proper_mk (by simp) (by decide) (by simp [isName]) (by simp) ?_ (by simp)
  exact List.forall_mem_singleton.mpr
    (proper_single (by simp) (by decide) (by simp [isName]) (by simp))

theorem suiteElement_proper (job : JobResult) : (suiteElement job).Proper := by
  refine proper_mk (by simp) (by decide) (by simp [countAttrs, isName]) (by simp) ?_ (by simp)
  intro e he
  rw [List.mem_append, List.mem_map, List.mem_map] at he
  obtain ⟨u, -, rfl⟩ | ⟨r, -, rfl⟩ := he
  exacts [unexpandedElement_proper job u, caseElement_proper job r]

theorem element_proper (result : WorkflowResult) : (element result).Proper := by
  refine proper_mk (by simp) (by decide) (by simp [countAttrs, isName]) (by simp) ?_ (by simp)
  intro e he
  obtain ⟨job, -, rfl⟩ := List.mem_map.mp he
  exact suiteElement_proper job

end

theorem document?_junitReport (result : WorkflowResult) :
    Markup.document? result.junitReport = some (element result) := by
  have hmarks : ∀ m ∈ (element result).marks, m.Proper := fun m hm =>
    (element_proper result m hm).1
  have hread : Markup.document? (String.ofList
      (Markup.declaration ++ ((element result).chars ++ ['\n']))) = some (element result) :=
    Markup.document?_marks hmarks rfl rfl
  rwa [← toList_junitReport, String.ofList_toList] at hread

end Junit

namespace Junit

/-! ## Counting -/

/-- What a report counts. -/
inductive Counted where
  | tests
  | failures
  | errors
  | skipped
deriving DecidableEq

namespace Counted

/-- The attribute that has the number. -/
def key : Counted → String
  | tests => "tests"
  | failures => "failures"
  | errors => "errors"
  | skipped => "skipped"

/-- The elements that are counted. -/
def tag : Counted → String
  | tests => "testcase"
  | failures => "failure"
  | errors => "error"
  | skipped => "skipped"

/-- What an instance adds to the number. -/
def ofStatus : Counted → RunStatus → Nat
  | tests, _ | failures, .failed | skipped, .cancelled => 1
  | _, _ => 0

/-- What a job without instances adds to the number. -/
def ofUnexpanded : Counted → Nat
  | tests | errors => 1
  | failures | skipped => 0

/-- The number for a job. -/
def number (k : Counted) (job : JobResult) : Nat :=
  job.unexpanded.toList.length * k.ofUnexpanded + (job.instances.map (k.ofStatus ·.status)).sum

end Counted

section

variable (k : Counted) (job : JobResult)

theorem count_failureElement (r : InstanceResult) :
    (failureElement r).count k.tag = if k = .failures then 1 else 0 := by
  unfold failureElement
  cases r.firstFailure? <;> cases k <;> rfl

theorem count_caseElement (r : InstanceResult) :
    (caseElement job r).count k.tag = k.ofStatus r.status := by
  have hfailure := count_failureElement k r
  unfold caseElement
  cases r.status <;> cases k <;>
    simp_all [Element.count, Element.countIn, Counted.tag, Counted.ofStatus]

theorem count_unexpandedElement (u : Unexpanded) :
    (unexpandedElement job u).count k.tag = k.ofUnexpanded := by
  cases k <;> rfl

/-- There are as many elements in a suite as are counted for the job. -/
theorem count_suiteElement : (suiteElement job).count k.tag = k.number job := by
  have htag : "testsuite" ≠ k.tag := by cases k <;> decide
  have hunexpanded : (fun u => (unexpandedElement job u).count k.tag) = fun _ => k.ofUnexpanded :=
    funext (count_unexpandedElement k job)
  have hinstance : (fun r => (caseElement job r).count k.tag) = fun r => k.ofStatus r.status :=
    funext (count_caseElement k job)
  simp [suiteElement, Element.count, Element.countIn_eq_sum, htag, Function.comp_def, hunexpanded,
    hinstance, Counted.number]

theorem count_element (result : WorkflowResult) :
    (element result).count k.tag = (result.jobs.map k.number).sum := by
  have htag : "testsuites" ≠ k.tag := by cases k <;> decide
  have hsuite : (fun job => (suiteElement job).count k.tag) = k.number :=
    funext (count_suiteElement k)
  simp [element, Element.count, Element.countIn_eq_sum, htag, Function.comp_def, hsuite]

/-! ## Numbers -/

theorem total_eq_sum (ns : List Nat) : total ns = ns.sum := by
  induction ns with
  | nil => rfl
  | cons n ns ih => rw [total, ih, List.sum_cons]

/-- A number is read back as it was written. -/
theorem valueText_number (n : Nat) : Markup.valueText (toString n) = toString n := by
  have hdigit : ∀ c ∈ (toString n).toList, c.isDigit = true := fun c hc => by
    have hc : c ∈ Nat.toDigits 10 n := by simpa using hc
    exact Nat.isDigit_of_mem_toDigits (by decide) (by decide) hc
  have hlines : Markup.lineEnds (toString n).toList = (toString n).toList := by
    have hreturn : '\r' ∉ (toString n).toList := fun hmem => absurd (hdigit _ hmem) (by decide)
    simpa [Markup.lineEnds] using Markup.lineEnds_append hreturn []
  have hspaced : Markup.spaced (toString n).toList = (toString n).toList := by
    refine (List.map_congr_left fun c hc => if_neg ?_).trans (List.map_id _)
    rintro (rfl | rfl) <;> exact absurd (hdigit _ hc) (by decide)
  rw [Markup.valueText, hlines, hspaced, String.ofList_toList]

theorem number_tests : Counted.tests.number job = caseCount job := by
  simp [Counted.number, Counted.ofUnexpanded, Counted.ofStatus, caseCount, Nat.add_comm]

theorem number_errors : Counted.errors.number job = errorCount job := by
  simp [Counted.number, Counted.ofUnexpanded, Counted.ofStatus, errorCount]

theorem sum_ofStatus {k : Counted} {status : RunStatus}
    (h : ∀ s, k.ofStatus s = if s == status then 1 else 0) (rs : List InstanceResult) :
    (rs.map (k.ofStatus ·.status)).sum = (rs.filter fun r => r.status == status).length := by
  rw [← List.countP_eq_length_filter]
  induction rs with
  | nil => rfl
  | cons r rs ih => rw [List.map_cons, List.sum_cons, ih, h, List.countP_cons, Nat.add_comm]

theorem number_failures : Counted.failures.number job = job.count .failed := by
  simp only [Counted.number, Counted.ofUnexpanded, JobResult.count, Nat.mul_zero, Nat.zero_add]
  exact sum_ofStatus (fun s => by cases s <;> rfl) job.instances

theorem number_skipped : Counted.skipped.number job = job.count .cancelled := by
  simp only [Counted.number, Counted.ofUnexpanded, JobResult.count, Nat.mul_zero, Nat.zero_add]
  exact sum_ofStatus (fun s => by cases s <;> rfl) job.instances

theorem attr?_suiteElement : (suiteElement job).attr? k.key = some (toString (k.number job)) := by
  rw [← valueText_number]
  apply Element.attr?_eq
  cases k
  · rw [number_tests]; rfl
  · rw [number_failures]; rfl
  · rw [number_errors]; rfl
  · rw [number_skipped]; rfl

theorem count_eq_sum (result : WorkflowResult) (status : RunStatus) :
    result.count status = (result.jobs.map (·.count status)).sum := by
  simp [WorkflowResult.count, WorkflowResult.instances, JobResult.count, List.filter_flatMap,
    List.length_flatMap]

theorem attr?_element (result : WorkflowResult) :
    (element result).attr? k.key = some (toString (result.jobs.map k.number).sum) := by
  rw [← valueText_number]
  apply Element.attr?_eq
  cases k
  · rw [funext number_tests, ← total_eq_sum]; rfl
  · rw [funext number_failures, ← count_eq_sum]; rfl
  · rw [funext number_errors, ← total_eq_sum]; rfl
  · rw [funext number_skipped, ← count_eq_sum]; rfl

theorem count_add_count (job : JobResult) :
    job.count .failed + job.count .cancelled + job.count .succeeded = job.instances.length := by
  simp only [JobResult.count]
  induction job.instances with
  | nil => rfl
  | cons r rs ih => cases h : r.status <;> simp [h] at ih ⊢ <;> omega

theorem number_add_number (job : JobResult) :
    Counted.failures.number job + Counted.errors.number job + Counted.skipped.number job +
      job.count .succeeded = Counted.tests.number job := by
  have := count_add_count job
  rw [number_tests, number_failures, number_errors, number_skipped, caseCount, errorCount]
  omega

end

end Junit

/-- What a report says in numbers is so. -/
theorem WorkflowResult.junitReport_counts (result : WorkflowResult) :
    ∃ root, Markup.document? result.junitReport = some root ∧ root.name = "testsuites" ∧
      List.Forall₂ (fun job suite => suite.name = "testsuite" ∧
        suite.attr? "name" = some (Markup.valueText job.name)) result.jobs root.children ∧
      (∀ k : Junit.Counted, ∃ ns : List Nat,
        root.children.map (·.attr? k.key) = ns.map (fun n => some (toString n)) ∧
        root.attr? k.key = some (toString ns.sum) ∧
        Markup.occurrences (Markup.beginning k.tag) result.junitReport.toList = ns.sum) ∧
      ∃ tests failures errors skipped : Nat, root.attr? "tests" = some (toString tests) ∧
        root.attr? "failures" = some (toString failures) ∧
        root.attr? "errors" = some (toString errors) ∧
        root.attr? "skipped" = some (toString skipped) ∧
        failures + errors + skipped + result.count .succeeded = tests := by
  refine ⟨Junit.element result, Junit.document?_junitReport result, rfl, ?_, fun k => ?_, ?_⟩
  · exact forall₂_map_self fun job _ => ⟨rfl, Element.attr?_eq rfl⟩
  · refine ⟨result.jobs.map k.number, ?_, Junit.attr?_element k result, ?_⟩
    · simp [Junit.element, Element.children, Junit.attr?_suiteElement]
    · have hname : Markup.isName k.tag.toList = true := by cases k <;> decide
      rw [Junit.toList_junitReport, Markup.occurrences_document hname
        (Junit.element_proper result) (by decide), Junit.count_element]
  · refine ⟨_, _, _, _, Junit.attr?_element .tests result, Junit.attr?_element .failures result,
      Junit.attr?_element .errors result, Junit.attr?_element .skipped result, ?_⟩
    rw [Junit.count_eq_sum]
    simp only [← List.sum_map_add, Junit.number_add_number]

end MatrixFlow
