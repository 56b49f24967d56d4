import MatrixFlow.Proofs.Report.Junit

/-!
# Characters of reports

A document may have tabs, line feeds, returns and all characters that are not control characters,
surrogates or one of two more. Nothing sees to it in a report.

* `Markup.isLegal`, `Markup.Legal`: which characters a document may have.
* `WorkflowResult.reportedTexts`: what a report shows of texts that do not come from it.
* `WorkflowResult.junitReport_legal`: the characters of a report are legal if and only if those of
  the texts are, and diagnostics are found in it.
-/

namespace MatrixFlow

namespace Markup

/-- Whether a character may stand in a document. Control characters may not, but for tabs, line
feeds and returns, and neither may the last two of the basic plane. -/
def isLegal (c : Char) : Bool :=
  c == '\t' || c == '\n' || c == '\r' || (0x20 ≤ c.toNat && c.toNat ≤ 0xD7FF) ||
    (0xE000 ≤ c.toNat && c.toNat ≤ 0xFFFD) || 0x10000 ≤ c.toNat

/-- A text in which all characters may stand in a document. -/
def Legal (cs : List Char) : Prop :=
  ∀ c ∈ cs, isLegal c = true

instance (cs : List Char) : Decidable (Legal cs) :=
  decidable_of_iff (cs.all isLegal = true) List.all_eq_true

section

variable {c : Char} {cs ds : List Char}

@[simp] theorem legal_nil : Legal [] := nofun

@[simp] theorem legal_cons : Legal (c :: cs) ↔ isLegal c = true ∧ Legal cs :=
  List.forall_mem_cons

@[simp] theorem legal_append : Legal (cs ++ ds) ↔ Legal cs ∧ Legal ds :=
  List.forall_mem_append

@[simp] theorem legal_flatMap {α : Type} {l : List α} {f : α → List Char} :
    Legal (l.flatMap f) ↔ ∀ a ∈ l, Legal (f a) :=
  List.forall_mem_flatMap

theorem isLegal_of_isAlphanum (h : c.isAlphanum = true) : isLegal c = true := by
  have hrange : 0x20 ≤ c.toNat ∧ c.toNat ≤ 0xD7FF := by
    have := Text.toNat_of_isAlphanum h
    omega
  simp [isLegal, hrange]

theorem legal_of_isName (h : isName cs = true) : Legal cs := fun c hc =>
  isLegal_of_isAlphanum (by simp [Char.isAlphanum, (isName_iff.mp h).2 c hc])

/-- References consist of legal characters, and stand for legal characters only. -/
theorem legal_escapeChar (c : Char) : Legal (escapeChar c) ↔ isLegal c = true := by
  by_cases hc : c ∈ ['&', '<', '>', '\x22', '\x27']
  · simp only [List.mem_cons, List.not_mem_nil, or_false] at hc
    obtain rfl | rfl | rfl | rfl | rfl := hc <;> decide
  · simp [escapeChar_eq_self hc]

@[simp] theorem legal_written (s : String) : Legal (written s) ↔ Legal s.toList := by
  rw [written, legal_flatMap]
  exact forall₂_congr fun c _ => legal_escapeChar c

/-- Names are legal, so an element is legal if all texts in it are. -/
theorem Element.legal_mk {lead foot : List Char} {name : String} {attrs : Attributes}
    {children : List Element} (hname : isName name.toList = true)
    (hattrs : ∀ a ∈ attrs, isName a.1.toList = true) :
    Legal (mk lead name attrs children foot).chars ↔
      Legal lead ∧ (∀ a ∈ attrs, Legal a.2) ∧ (∀ e ∈ children, Legal e.chars) ∧ Legal foot := by
  have hattr : ∀ a ∈ attrs, (Legal (attrChars a) ↔ Legal a.2) := fun a ha => by
    have hkey := legal_of_isName (hattrs a ha)
    simp [attrChars, hkey, isLegal]
  have hattrs : Legal (attrs.flatMap attrChars) ↔ ∀ a ∈ attrs, Legal a.2 := by
    rw [legal_flatMap, forall₂_congr hattr]
  have hname := legal_of_isName hname
  have hbracket : isLegal '<' = true ∧ isLegal '>' = true ∧ isLegal '/' = true := by decide
  by_cases hempty : (children.isEmpty && foot.isEmpty) = true
  · simp only [Bool.and_eq_true, List.isEmpty_iff] at hempty
    obtain ⟨rfl, rfl⟩ := hempty
    rw [chars_single]
    have hend : Legal " />".toList := by decide
    simp only [legal_append, legal_cons, hname, hattrs, hbracket, hend]
    simp
  · rw [chars_of_not_isEmpty hempty]
    simp only [legal_append, legal_cons, legal_flatMap, legal_nil, hname, hattrs, hbracket,
      and_true, true_and]

end

/-! ## Numbers -/

theorem legal_toDigits (n : Nat) : Legal (Nat.toDigits 10 n) := fun c hc =>
  isLegal_of_isAlphanum (by
    simp [Char.isAlphanum, Nat.isDigit_of_mem_toDigits (by decide) (by decide) hc])

theorem legal_fixed (places num den : Nat) : Legal (fixed places num den).toList := by
  have hzeros : ∀ n, Legal (FloatStyle.zeros n) := fun n c hc => by
    rw [FloatStyle.zeros, List.mem_replicate] at hc
    exact hc.2 ▸ rfl
  have hpadded : ∀ n m, Legal (FloatStyle.zeros n ++ Nat.toDigits 10 m) := fun n m =>
    legal_append.mpr ⟨hzeros n, legal_toDigits m⟩
  simp only [fixed, String.toList_ofList]
  split
  · exact fun c hc => hpadded _ _ c (List.mem_of_mem_take hc)
  · refine legal_append.mpr ⟨fun c hc => hpadded _ _ c (List.mem_of_mem_take hc), ?_⟩
    exact legal_cons.mpr ⟨rfl, fun c hc => hpadded _ _ c (List.mem_of_mem_drop hc)⟩

theorem legal_fixedText (places : Nat) (x : Binary64) : Legal (x.fixedText places).toList := by
  cases x with
  | finite negative mant exp =>
    have hsign : Legal (if negative then "-" else "").toList := by cases negative <;> decide
    simp only [Binary64.fixedText, String.toList_append, legal_append, hsign, legal_fixed, and_self]
  | infinite negative => cases negative <;> simp only [Binary64.fixedText] <;> decide
  | nan => simp only [Binary64.fixedText]; decide

end Markup

open Markup

namespace Junit

/-! ## Texts in reports -/

/-- What the test case of an instance shows of the first step that failed. -/
def failureTexts (r : InstanceResult) : List String :=
  match r.firstFailure? with
  | some (step, failure) => [step.identifier, failure.headline, failure.diagnostic]
  | none => []

/-- What the test case of an instance shows. -/
def caseTexts (job : JobResult) (r : InstanceResult) : List String :=
  [r.summary.label, job.id] ++ if r.status = .failed then failureTexts r else []

/-- What the test case of a job without instances shows. -/
def unexpandedTexts (job : JobResult) (u : Unexpanded) : List String :=
  [job.name, job.id, u.message]

/-- What the suite of a job shows. -/
def suiteTexts (job : JobResult) : List String :=
  job.name :: (job.unexpanded.toList.flatMap (unexpandedTexts job) ++
    job.instances.flatMap (caseTexts job))

end Junit

/-- What a report shows of texts that do not come from it. -/
def WorkflowResult.reportedTexts (result : WorkflowResult) : List String :=
  result.workflow :: result.jobs.flatMap Junit.suiteTexts

namespace Junit

theorem legal_indent (n : Nat) : Legal (indent n) :=
  legal_cons.mpr ⟨rfl, fun _ hc => (List.mem_replicate.mp hc).2 ▸ rfl⟩

theorem legal_toString (n : Nat) : Legal (toString n).toList := by
  simpa using legal_toDigits n

theorem legal_failureElement (r : InstanceResult) :
    Legal (failureElement r).chars ↔ ∀ s ∈ failureTexts r, Legal s.toList := by
  unfold failureElement failureTexts
  cases r.firstFailure? with
  | none =>
    have hmessage : Legal "instance failed".toList := by decide
    rw [Element.legal_mk (by decide) (by simp [isName])]
    simp only [List.forall_mem_singleton, legal_written, hmessage, legal_indent]
    simp
  | some failure =>
    have hmessage : Legal "step '".toList ∧ Legal "' failed: ".toList := by decide
    have hline : isLegal '\n' = true := rfl
    unfold message
    rw [Element.legal_mk (by decide) (by simp [isName])]
    simp only [List.forall_mem_singleton, legal_written, hmessage, legal_indent, legal_append,
      legal_cons]
    simp [hline, and_assoc]

theorem legal_caseElement (job : JobResult) (r : InstanceResult) :
    Legal (caseElement job r).chars ↔ ∀ s ∈ caseTexts job r, Legal s.toList := by
  have hfailure := legal_failureElement r
  have hskipped : Legal
      (Element.mk (indent 6) "skipped" [("message", written "cancelled")] [] []).chars := by decide
  unfold caseElement caseTexts
  cases r.status <;> rw [Element.legal_mk (by decide) (by simp [isName])] <;>
    simp [legal_indent, legal_fixedText, hfailure, hskipped, and_assoc]

theorem legal_unexpandedElement (job : JobResult) (u : Unexpanded) :
    Legal (unexpandedElement job u).chars ↔ ∀ s ∈ unexpandedTexts job u, Legal s.toList := by
  have hkind : Legal u.kind.name.toList := by cases u.kind <;> decide
  rw [unexpandedElement, Element.legal_mk (by decide) (by simp [isName]), List.forall_mem_singleton,
    Element.legal_mk (by decide) (by simp [isName])]
  simp [unexpandedTexts, legal_indent, hkind, and_assoc]

theorem legal_countAttrs (tests failures errors skipped : Nat) (time : Binary64) :
    ∀ a ∈ countAttrs tests failures errors skipped time, Legal a.2 := by
  simp only [countAttrs, List.forall_mem_cons, legal_written, legal_toString, legal_fixedText]
  simp

theorem legal_suiteElement (job : JobResult) :
    Legal (suiteElement job).chars ↔ ∀ s ∈ suiteTexts job, Legal s.toList := by
  have hcounts := legal_countAttrs (caseCount job) (job.count .failed) (errorCount job)
    (job.count .cancelled) (Binary64.sum (job.instances.map (·.duration.seconds)))
  rw [suiteElement, Element.legal_mk (by decide) (by simp [countAttrs, isName]), suiteTexts]
  simp only [List.forall_mem_cons, List.forall_mem_append, List.forall_mem_map, legal_written,
    List.forall_mem_flatMap, legal_unexpandedElement, legal_caseElement, legal_indent, true_and,
    and_true]
  rw [and_iff_left hcounts]

theorem legal_element (result : WorkflowResult) :
    Legal (element result).chars ↔ ∀ s ∈ result.reportedTexts, Legal s.toList := by
  have hcounts := legal_countAttrs (total (result.jobs.map caseCount)) (result.count .failed)
    (total (result.jobs.map errorCount)) (result.count .cancelled) result.duration.seconds
  rw [element, Element.legal_mk (by decide) (by simp [countAttrs, isName]),
    WorkflowResult.reportedTexts]
  simp only [List.forall_mem_cons, List.forall_mem_map, legal_written, List.forall_mem_flatMap,
    legal_suiteElement, legal_indent, true_and, and_true]
  rw [and_iff_left hcounts]

theorem legal_junitReport (result : WorkflowResult) :
    Legal result.junitReport.toList ↔ ∀ s ∈ result.reportedTexts, Legal s.toList := by
  have hline : Legal declaration ∧ Legal ['\n'] := by decide
  rw [toList_junitReport, legal_append, legal_append, legal_element, and_iff_right hline.1,
    and_iff_left hline.2]

/-! ## Diagnostics -/

/-- If an instance failed in a step, then the diagnostic is found in its test case. -/
def ShowsDiagnostic (r : InstanceResult) (e : Element) : Prop :=
  r.status = .failed → ∀ step failure, r.firstFailure? = some (step, failure) →
    ∃ child, e.children = [child] ∧ child.name = "failure" ∧
      child.content? = some (bodyText ("\n" ++ failure.diagnostic ++ "\n      "))

theorem caseElement_showsDiagnostic (job : JobResult) (r : InstanceResult) :
    ShowsDiagnostic r (caseElement job r) := by
  intro hstatus step failure hfailure
  have hfoot : (failureElement r).foot = written ("\n" ++ failure.diagnostic ++ "\n      ") := by
    simp only [failureElement, hfailure, Element.foot, diagnostic_eq_written]
  exact ⟨failureElement r, by simp only [caseElement, hstatus, Element.children],
    by simp only [failureElement, hfailure, Element.name], Element.content?_eq hfoot⟩

end Junit

/-- Every character of a report may stand in a document if this is so of all texts that it shows,
and only then; nothing is taken out of these texts. But for that, the report is a document in which
the diagnostic of every failure is found. -/
theorem WorkflowResult.junitReport_legal (result : WorkflowResult) :
    (Legal result.junitReport.toList ↔ ∀ s ∈ result.reportedTexts, Legal s.toList) ∧
    ∃ root, document? result.junitReport = some root ∧
      List.Forall₂ (fun job suite => ∃ first cases, suite.children = first ++ cases ∧
        first.length = job.unexpanded.toList.length ∧
        List.Forall₂ Junit.ShowsDiagnostic job.instances cases) result.jobs root.children := by
  refine ⟨Junit.legal_junitReport result, _, Junit.document?_junitReport result, ?_⟩
  refine forall₂_map_self fun job _ => ⟨_, _, rfl, by simp, ?_⟩
  exact forall₂_map_self fun r _ => Junit.caseElement_showsDiagnostic job r

namespace Sample

/-- A step that says in red why it failed. -/
def colouredStep : StepOutcome :=
  ⟨0, "build", "build", some 1, "", "\x1b[31mno such file\x1b[0m",
    some (.exit (some 1) "\x1b[31mno such file\x1b[0m"), Duration.zero, []⟩

/-- A run with this step only. -/
def colouredResult : WorkflowResult :=
  .ofJobs "ci" [.ofInstances "build" "build"
    [⟨⟨"build", 0, "build", Combination.empty, "linux"⟩, .failed, [colouredStep], Duration.zero⟩]]
    Duration.zero

end Sample

/-- Colours of a terminal get into the report, and with them characters that may not stand there. -/
theorem WorkflowResult.junitReport_colours :
    ∃ c ∈ Sample.colouredResult.junitReport.toList, isLegal c = false := by
  have hshown : ¬∀ s ∈ Sample.colouredResult.reportedTexts, Legal s.toList := by decide
  have hillegal := (Junit.legal_junitReport Sample.colouredResult).not.mpr hshown
  simpa [Legal] using hillegal

end MatrixFlow
