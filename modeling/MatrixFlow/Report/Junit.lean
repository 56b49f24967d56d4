import MatrixFlow.Run.Result

/-!
# Reports as test suites

`WorkflowResult.junitReport` is an XML document with a suite per job and a test case per instance.
Cancelled instances count as skipped, and a job without instances as one error. `Markup.escape`
writes the characters that mean something in XML as references to entities.
-/

namespace MatrixFlow.Markup

/-- A text with another one in the place of every occurrence of a character. -/
def replaceChar (c : Char) (text s : String) : String :=
  String.ofList (s.toList.flatMap fun d => if d = c then text.toList else [d])

/-- The characters that mean something in XML, and the references that stand for them. -/
def references : List (Char × String) :=
  [('&', "&amp;"), ('<', "&lt;"), ('>', "&gt;"), ('\x22', "&quot;"), ('\x27', "&apos;")]

/-- Text with references in the place of special characters. These are replaced one after the other,
ampersands first, since every reference begins with one. -/
def escape (s : String) : String :=
  references.foldl (fun s (c, reference) => replaceChar c reference s) s

end MatrixFlow.Markup

namespace MatrixFlow

namespace Junit

/-- An attribute with a value that is written already. -/
def attrOf (name value : String) : String :=
  " " ++ name ++ "=\x22" ++ value ++ "\x22"

/-- An attribute. -/
def attr (name value : String) : String :=
  attrOf name (Markup.escape value)

/-- The attributes that count test cases. -/
def counts (tests failures errors skipped : Nat) (time : Binary64) : String :=
  attr "tests" (toString tests) ++ attr "failures" (toString failures) ++
    attr "errors" (toString errors) ++ attr "skipped" (toString skipped) ++
    attr "time" (time.fixedText 3)

/-- The number of test cases of a job. -/
def caseCount (job : JobResult) : Nat :=
  job.instances.length + job.unexpanded.toList.length

/-- The number of errors of a job. -/
def errorCount (job : JobResult) : Nat :=
  job.unexpanded.toList.length

/-- What is inside the test case of a failed instance. -/
def failureText (r : InstanceResult) : String :=
  match r.firstFailure? with
  | some (step, failure) =>
    "      <failure" ++
      attrOf "message" ("step '" ++ Markup.escape step.identifier ++ "' failed: " ++
        Markup.escape failure.headline) ++
      ">\n" ++ Markup.escape failure.diagnostic ++ "\n      </failure>\n"
  | none => "      <failure" ++ attr "message" "instance failed" ++ " />\n"

/-- The test case of an instance. -/
def instanceText (job : JobResult) (r : InstanceResult) : String :=
  let tag := "    <testcase" ++ attr "name" r.summary.label ++ attr "classname" job.id ++
    attr "time" (r.duration.seconds.fixedText 3)
  match r.status with
  | .succeeded => tag ++ " />\n"
  | .cancelled =>
    tag ++ ">\n      <skipped" ++ attr "message" "cancelled" ++ " />\n    </testcase>\n"
  | .failed => tag ++ ">\n" ++ failureText r ++ "    </testcase>\n"

/-- The test case of a job without instances. -/
def unexpandedText (job : JobResult) (u : Unexpanded) : String :=
  "    <testcase" ++ attr "name" job.name ++ attr "classname" job.id ++ ">\n" ++
    "      <error" ++ attr "message" u.message ++ attr "type" u.kind.name ++ " />\n" ++
    "    </testcase>\n"

/-- The suite of a job. -/
def suiteText (job : JobResult) : String :=
  "  <testsuite" ++ attr "name" job.name ++
    counts (caseCount job) (job.count .failed) (errorCount job) (job.count .cancelled)
      (Binary64.sum (job.instances.map (·.duration.seconds))) ++ ">\n" ++
    String.join (job.unexpanded.toList.map (unexpandedText job)) ++
    String.join (job.instances.map (instanceText job)) ++ "  </testsuite>\n"

end Junit

/-- The report as test suites. -/
def WorkflowResult.junitReport (result : WorkflowResult) : String :=
  "<?xml version=\x221.0\x22 encoding=\x22UTF-8\x22?>\n<testsuites" ++
    Junit.attr "name" result.workflow ++
    Junit.counts (total (result.jobs.map Junit.caseCount)) (result.count .failed)
      (total (result.jobs.map Junit.errorCount)) (result.count .cancelled)
      result.duration.seconds ++
    ">\n" ++ String.join (result.jobs.map Junit.suiteText) ++ "</testsuites>\n"

end MatrixFlow
