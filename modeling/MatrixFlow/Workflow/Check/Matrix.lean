import MatrixFlow.Workflow.Check.Place
import MatrixFlow.Workflow.Definition

/-!
# Checking a matrix

`checkMatrix` reads the matrix of a job: axes with lists of values, further combinations under
`include`, and combinations to leave out under `exclude`, which name axes only.
-/

namespace MatrixFlow.Check

open Yaml (Value)

/-- The bindings of an entry whose names are texts; other keys bind nothing. -/
def bindingsOf : List (Value × Value) → List (String × Json)
  | [] => []
  | (k, v) :: rest =>
    match k.asText? with
    | some name => (name, jsonOf v) :: bindingsOf rest
    | none => bindingsOf rest

/-- The combinations under `include` or `exclude`. -/
def checkCombinations (source job key : String) (value : Value) : Checked (List Combination) :=
  match value.asItems? with
  | none =>
    reject source ("job '" ++ job ++ "': matrix " ++ key ++ " must be a list of mappings") key
  | some items =>
    items.mapM fun item =>
      match item.asEntries? with
      | none =>
        reject source ("job '" ++ job ++ "': matrix " ++ key ++ " entries must be mappings") key
      | some entries => .ok (Combination.ofList (bindingsOf entries))

/-- The values of an axis. -/
def checkAxis (source job name : String) (value : Value) : Checked Axis :=
  match value.asItems? with
  | none => reject source ("job '" ++ job ++ "': matrix axis '" ++ name ++ "' must be a list") name
  | some items => .ok ⟨name, items.map jsonOf⟩

/-- Reads the entries of a matrix in order. -/
def checkMatrixEntries (source job : String) (matrix : Matrix) :
    List (Value × Value) → Checked Matrix
  | [] => .ok matrix
  | (k, v) :: rest =>
    match k.asText? with
    | none => reject source ("job '" ++ job ++ "': matrix axis names must be strings") "matrix"
    | some name => do
      let matrix ←
        if name = "include" then do
          let extras ← checkCombinations source job name v
          .ok { matrix with extras := extras }
        else if name = "exclude" then do
          let excluded ← checkCombinations source job name v
          .ok { matrix with excluded := excluded }
        else do
          let axis ← checkAxis source job name v
          .ok { matrix with axes := matrix.axes ++ [axis] }
      checkMatrixEntries source job matrix rest

/-- The first name in the excluded combinations that is not that of an axis. -/
def unknownAxis? (matrix : Matrix) : Option String :=
  matrix.excluded.findSome? fun entry =>
    (entry.bindings.find? fun (name, _) => !matrix.hasAxis name).map (·.1)

/-- Reads the matrix of a job. -/
def checkMatrix (source job : String) (value : Value) : Checked Matrix :=
  match value.asEntries? with
  | none =>
    reject source
      ("job '" ++ job ++ "': matrix must be a mapping of axis names to value lists") "matrix"
  | some entries => do
    let matrix ← checkMatrixEntries source job Matrix.none entries
    match unknownAxis? matrix with
    | some name =>
      reject source ("job '" ++ job ++ "': exclude references unknown matrix axis '" ++ name ++ "'")
        "exclude"
    | none => .ok matrix

end MatrixFlow.Check
