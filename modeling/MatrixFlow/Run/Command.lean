import MatrixFlow.Shell.Kind

/-!
# Commands and their outputs

* `CommandLine`: a script for a shell, or a program with arguments.
* `CommandOutput`: what a finished process leaves behind.
* `CommandOutput.append`: the outputs of commands that follow one another.
* `CollaboratorError`: why somebody could not do a step at all.
-/

namespace MatrixFlow

/-- A command to run. -/
inductive CommandLine where
  | script (shell : Shell) (script : String)
  | program (program : String) (args : List String)
deriving DecidableEq, Repr, Inhabited

namespace CommandLine

/-- The command as it is shown. -/
def text : CommandLine → String
  | script _ body => body
  | program name args => " ".intercalate (name :: args)

/-- The name of the program that is started. -/
def executable : CommandLine → String
  | script shell _ => shell.invocation.1
  | program name _ => name

end CommandLine

/-- What a finished process leaves behind. -/
structure CommandOutput where
  /-- The exit code, if the process ended by itself. -/
  exitCode : Option Int
  stdout : String
  stderr : String
  /-- The process was stopped at its time limit. -/
  timedOut : Bool
deriving DecidableEq, Repr, Inhabited

namespace CommandOutput

/-- Nothing at all. -/
def empty : CommandOutput := ⟨none, "", "", false⟩

/-- The process ended in time with exit code zero. -/
def isSuccess (o : CommandOutput) : Bool :=
  !o.timedOut && o.exitCode == some 0

/-- Texts that follow one another, on lines of their own. -/
def appendText (a b : String) : String :=
  if b.isEmpty then a else if a.isEmpty then b else a ++ "\n" ++ b

/-- The output of two commands, of which the second one decides about the end. -/
def append (a b : CommandOutput) : CommandOutput :=
  ⟨b.exitCode, appendText a.stdout b.stdout, appendText a.stderr b.stderr, b.timedOut⟩

end CommandOutput

/-- Why somebody could not do a step at all. -/
structure CollaboratorError where
  /-- Who it is that could not. -/
  collaborator : String
  diagnostic : String
deriving DecidableEq, Repr, Inhabited

/-- The error in words. -/
def CollaboratorError.text (e : CollaboratorError) : String :=
  e.collaborator ++ ": " ++ e.diagnostic

end MatrixFlow
