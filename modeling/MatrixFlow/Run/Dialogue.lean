import MatrixFlow.Env
import MatrixFlow.Run.Command
import MatrixFlow.Time.Duration
import MatrixFlow.Workflow.Definition

/-!
# Dialogues with collaborators

* `Call`: what a collaborator is asked to do, in an environment, a directory and a time limit.
* `Reply`: its output, or why it could not do it.
* `Dialogue`: the calls that a step makes one after the other, each of which may depend on the
  replies before, and the reply that the whole step comes to.
-/

namespace MatrixFlow

/-- What a collaborator is asked to do. -/
inductive Errand where
  | command (line : CommandLine)
  | checkout (options : CheckoutOptions)
  | toolchain (options : ToolchainOptions)
deriving DecidableEq, Repr

/-- The environment, the directory and the time limit of a step. -/
structure StepContext where
  env : Env
  directory : String
  timeout : Option Duration
deriving DecidableEq, Repr

/-- A request to a collaborator. -/
structure Call where
  errand : Errand
  context : StepContext
deriving DecidableEq, Repr

/-- What a collaborator says. -/
abbrev Reply := Except CollaboratorError CommandOutput

/-- The calls of a step and what they come to. -/
inductive Dialogue where
  | done (reply : Reply)
  | ask (call : Call) (next : Reply → Dialogue)

namespace Dialogue

/-- Asks once, and takes the reply as it is. -/
def once (call : Call) : Dialogue :=
  ask call done

/-- Asks, and goes on with the output unless the call could not be made. -/
def andThen (call : Call) (next : CommandOutput → Dialogue) : Dialogue :=
  ask call fun
    | .ok output => next output
    | .error e => done (.error e)

end Dialogue

end MatrixFlow
