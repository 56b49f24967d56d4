import MatrixFlow.Template.Segment
import MatrixFlow.Workflow.Document
import MatrixFlow.Workflow.Rejection

/-!
# Checks that know their place

* `reject`: refuses a workflow, and points at the line of a key.
* `checkTemplate`, `checkEnv`: checks of the texts in which references may stand.
-/

namespace MatrixFlow.Check

open Yaml (Value)

/-- The outcome of a check. -/
abbrev Checked (α : Type) := Except Rejection α

/-- The rejection that points at the line of a key in the source. -/
def rejection (source message key : String) : Rejection :=
  (Rejection.malformed message).locate source key

/-- Refuses with a message, at the line of a key in the source. -/
def reject {α : Type} (source message key : String) : Checked α :=
  .error (rejection source message key)

/-- The same with a hint. -/
def rejectWith {α : Type} (source message key hint : String) : Checked α :=
  .error ((rejection source message key).suggest hint)

/-- Checks the references in a text; `owner` names the text in messages. -/
def checkTemplate (source text key owner : String) : Checked Unit :=
  match Template.check text with
  | .ok () => .ok ()
  | .error e => reject source (owner ++ ": " ++ e.text) key

/-- Checks a variable. Its value is a scalar whose references are well formed. -/
def checkVar (source key name : String) (value : Value) : Checked (String × String) := do
  match scalarText? value with
  | none =>
    reject source ("environment variable '" ++ name ++ "' must be a scalar value") key
  | some text => do
    checkTemplate source text name ("environment variable '" ++ name ++ "'")
    .ok (name, text)

/-- Checks the variables of an environment in order. -/
def checkEnv (source key : String) (vars : List (String × Value)) :
    Checked (List (String × String)) :=
  vars.mapM fun (name, value) => checkVar source key name value

end MatrixFlow.Check
