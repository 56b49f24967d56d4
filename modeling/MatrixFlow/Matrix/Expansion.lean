import MatrixFlow.Workflow.Definition

/-!
# Expanding a matrix

* `Matrix.product`: every choice of one value per axis, the last axis varying fastest.
* `Matrix.expand`: the product without what is excluded; further combinations are merged into
  those that agree with them on the axes, or stand at the end.
* `ExpansionError`: why a job has no instances.
-/

namespace MatrixFlow

/-- Why a job has no instances. -/
inductive ExpansionCause where
  | emptyAxis (axis : String)
  /-- Everything is excluded. -/
  | emptyMatrix
  /-- For a combination, some label of the runner has no text. -/
  | unresolvedRunner (combination : Combination)
deriving Repr, Inhabited

/-- The job that has no instances, and why. -/
structure ExpansionError where
  job : String
  cause : ExpansionCause
deriving Repr, Inhabited

namespace ExpansionError

/-- The cause in words. -/
def message (e : ExpansionError) : String :=
  match e.cause with
  | .emptyAxis axis => "matrix axis '" ++ axis ++ "' has no values"
  | .emptyMatrix => "matrix exclusions removed every combination"
  | .unresolvedRunner c => "runs-on resolves to an empty runner for combination " ++ c.text

/-- The cause in words, with the job. -/
def text (e : ExpansionError) : String :=
  "job '" ++ e.job ++ "': " ++ e.message

end ExpansionError

namespace Matrix

/-- Every combination, bound to every value of an axis. -/
def extendBy (combinations : List Combination) (axis : Axis) : List Combination :=
  combinations.flatMap fun c => axis.values.map fun v => c.insert axis.name v

/-- Every choice of one value per axis, the last axis varying fastest. -/
def product (axes : List Axis) : List Combination :=
  axes.foldl extendBy [Combination.empty]

/-- The choices of values that are not excluded; none if there are no axes. -/
def kept (matrix : Matrix) : List Combination :=
  let all := if matrix.axes.isEmpty then [] else product matrix.axes
  all.filter fun c => !matrix.excluded.any c.agrees

/-- A further combination agrees on the axes with another one. -/
def fits (matrix : Matrix) (extra c : Combination) : Bool :=
  extra.bindings.all fun (name, value) => !matrix.hasAxis name || c.binds name value

/-- Merges a further combination into those that agree with it, or puts it behind `added`. -/
def addExtra (matrix : Matrix) (found : List Combination × List Combination)
    (extra : Combination) : List Combination × List Combination :=
  let (merged, added) := found
  if merged.any (matrix.fits extra) then
    (merged.map fun c => if matrix.fits extra c then c.insertAll extra.bindings else c, added)
  else (merged, added ++ [extra])

/-- The combinations of a matrix, in order. -/
def expand (matrix : Matrix) : Except ExpansionCause (List Combination) :=
  match matrix.axes.find? fun axis => axis.values.isEmpty with
  | some axis => .error (.emptyAxis axis.name)
  | .none =>
    let (merged, added) := matrix.extras.foldl matrix.addExtra (matrix.kept, [])
    let combinations := merged ++ added
    if matrix.isEmpty then .ok [Combination.empty]
    else if combinations.isEmpty then .error .emptyMatrix
    else .ok combinations

end Matrix

end MatrixFlow
