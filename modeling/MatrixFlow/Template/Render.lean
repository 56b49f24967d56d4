import MatrixFlow.Env
import MatrixFlow.Matrix.Combination
import MatrixFlow.Template.Segment

/-!
# Rendering templates

* `Scope`: the values that references can name.
* `Scope.resolve?`: the value of a reference.
* `Scope.render`: a template with its references replaced by their values. A value is not looked
  at again, and a reference without a value is replaced by nothing.
-/

namespace MatrixFlow

/-- The family of operating systems that a runner's label suggests. -/
def runnerOs (label : String) : String :=
  let label := label.lowered
  if label.hasPiece "windows" then "Windows"
  else if label.hasPiece "macos" || label.hasPiece "mac-" then "macOS"
  else "Linux"

/-- The processor architecture on which instances run. -/
def runnerArch : String := "X64"

namespace Template

/-- The values that references can name. -/
structure Scope where
  matrix : Combination
  env : Env
  runner : String

/-- The value inside nested objects under the given names. -/
def nestedValue? : Json → List String → Option Json
  | v, [] => some v
  | .obj fields, name :: rest =>
    match fields.find? (fun (k, _) => k == name) with
    | some (_, v) => nestedValue? v rest
    | none => none
  | _, _ :: _ => none

namespace Scope

/-- The value of a reference: a literal stands for itself, a name for what the scope binds. -/
def resolve? (scope : Scope) (body : List Char) : Option String :=
  match literal? body with
  | some cs => some (String.ofList cs)
  | none =>
    match (Text.splitOn '.' body).map String.ofList with
    | "matrix" :: name :: rest =>
      ((scope.matrix.get? name).bind fun v => nestedValue? v rest).map valueText
    | ["env", name] => scope.env.get? name
    | ["runner", "name"] => some scope.runner
    | ["runner", "os"] => some (runnerOs scope.runner)
    | ["runner", "arch"] => some runnerArch
    | _ => none

/-- The text of a segment. -/
def renderSegment (scope : Scope) : Segment → List Char
  | .text cs => cs
  | .expr body => ((scope.resolve? body).getD "").toList

/-- A template with its references replaced by their values. Text in which no reference opens is not
cut into segments. -/
def render (scope : Scope) (s : String) : String :=
  if Text.contains opening s.toList then
    String.ofList ((segments s.toList).flatMap scope.renderSegment)
  else s

/-- Renders the value of every variable. -/
def renderVars (scope : Scope) (vars : List (String × String)) : List (String × String) :=
  vars.map fun (k, v) => (k, scope.render v)

end Scope

end Template

end MatrixFlow
