import MatrixFlow.Run.Schedule

/-!
# Rehearsals

In a rehearsal no command really runs. Rules say how collaborators behave: the first rule that fits
a command answers it, and a command that none fits succeeds at once without any output.

* `Rule`, `Rule.fits`, `Rule.response`: a rule, when it applies, and what it says.
* `Rehearsal`, `Rehearsal.backend`: collaborators that follow rules.
-/

namespace MatrixFlow

/-- How a collaborator behaves in the calls that fit. -/
structure Rule where
  /-- The text of the command. -/
  command : Option String
  /-- A piece of the text of the command. -/
  piece : Option String
  /-- Variables of the environment with their values. -/
  vars : List (String × String)
  /-- The call breaks down. -/
  crashes : Bool
  delay : Duration
  /-- The command does not stop at its time limit. -/
  ignoresTimeout : Bool
  /-- The whole run is told to stop with the reply. -/
  stopsRun : Bool
  /-- Why the command cannot be run. -/
  unavailable : Option String
  /-- Who cannot run it. -/
  collaborator : Option String
  output : CommandOutput
deriving Repr

namespace Rule

/-- The rule that lets every command succeed. -/
def standard : Rule :=
  ⟨none, none, [], false, Duration.zero, false, false, none, none,
    { CommandOutput.empty with exitCode := some 0 }⟩

/-- The rule applies to a command in an environment. -/
def fits (rule : Rule) (line : CommandLine) (env : Env) : Bool :=
  rule.command.all (· == line.text) && rule.piece.all (line.text.hasPiece ·) &&
    rule.vars.all fun (name, value) => env.get? name == some value

/-- The behaviour in a call of the named collaborator. -/
def response (rule : Rule) (collaborator : String) (timeout : Option Duration) : Response :=
  if rule.crashes then .crash
  else
    let stoppedAt := if rule.ignoresTimeout then none
      else timeout.filter fun limit => limit.nanos < rule.delay.nanos
    let reply : Reply := match rule.unavailable, stoppedAt with
      | some text, _ => .error ⟨rule.collaborator.getD collaborator, text⟩
      | none, some _ => .ok { rule.output with exitCode := none, timedOut := true }
      | none, none => .ok rule.output
    .reply (stoppedAt.getD rule.delay) rule.stopsRun reply

end Rule

/-- The rules of a rehearsal. -/
structure Rehearsal where
  rules : List Rule
  /-- The rule for checkouts, if a collaborator of its own does them. -/
  checkout : Option Rule
  /-- The rule for toolchains, if a collaborator of its own provides them. -/
  toolchain : Option Rule

namespace Rehearsal

/-- The behaviour in a call. -/
def response (rehearsal : Rehearsal) (call : Call) : Response :=
  let timeout := call.context.timeout
  match call.errand with
  | .command line =>
    let rule := (rehearsal.rules.find? fun rule => rule.fits line call.context.env).getD .standard
    rule.response line.executable timeout
  | .checkout _ => (rehearsal.checkout.getD .standard).response "git" timeout
  | .toolchain _ => (rehearsal.toolchain.getD .standard).response "rustup" timeout

/-- Collaborators that follow the rules. -/
def backend (rehearsal : Rehearsal) (defaultTimeout : Option Duration)
    (isProgram : String → Bool) : Backend Unit where
  services _ :=
    ⟨defaultTimeout, isProgram, rehearsal.checkout.isSome, rehearsal.toolchain.isSome⟩
  respond world call := (world, rehearsal.response call)

end Rehearsal

end MatrixFlow
