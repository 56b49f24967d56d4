import MatrixFlow.Run.Step
import MatrixFlow.Script.Tool
import MatrixFlow.Shell.Process

/-!
# Programs that cannot be started

The program of a command line is found twice: once with the shell that the runner prefers, for the
process, and once without it, for the message.

* `CommandLine.process`: the process that a command line starts; `ProcessCall.fault?`: why it cannot
  be started.
* `CollaboratorError.Blames`: an error names a program, and why it could not be started.
* `CommandLine.executable_eq_iff`: when both are the same program.
* `spawn_failure_blames`: what is reported of a process that cannot be started.
-/

namespace MatrixFlow

/-- The process that a command line starts. -/
def CommandLine.process (line : CommandLine) (preferred : Shell) (env : Env) (directory : String)
    (limit : Option Duration) : ProcessCall :=
  ⟨(line.invocation preferred).1, (line.invocation preferred).2, env, directory, limit⟩

/-- Why a process cannot be started, if it cannot. -/
def ProcessCall.fault? (call : ProcessCall) (files : FileTree) (here : List String) :
    Option SpawnFault :=
  match call.run files here with
  | .error fault => some fault
  | .ok _ => none

theorem ProcessCall.fault?_eq_some {call : ProcessCall} {files : FileTree} {here : List String}
    {fault : SpawnFault} :
    call.fault? files here = some fault ↔ call.run files here = .error fault := by
  unfold fault?
  cases call.run files here with
  | error fault' => simp
  | ok r => simp

/-- The error comes from a program, and its message says of the same one why it could not be
started. -/
structure CollaboratorError.Blames (e : CollaboratorError) (program : String) (fault : SpawnFault) :
    Prop where
  collaborator : e.collaborator = program
  diagnostic : e.diagnostic = "failed to spawn '" ++ program ++ "': " ++ fault.text

/-- The script leaves its shell to the runner, and this one prefers another than `sh`. -/
def CommandLine.LeftToOther (line : CommandLine) (preferred : Shell) : Prop :=
  (∃ body, line = .script .default body) ∧ preferred ≠ .default ∧ preferred ≠ .sh

/-- Only `sh` is the program of the default shell and of `sh`. -/
theorem Shell.invocation_eq_default_iff (shell : Shell) :
    shell.invocation.1 = Shell.default.invocation.1 ↔ shell = .default ∨ shell = .sh := by
  cases shell <;> decide

theorem CommandLine.executable_eq_iff (line : CommandLine) (preferred : Shell) :
    line.executable = (line.invocation preferred).1 ↔ ¬line.LeftToOther preferred := by
  cases line with
  | program name args => exact iff_of_true rfl fun ⟨⟨_, h⟩, _⟩ => nomatch h
  | script shell body =>
    by_cases hshell : shell = .default
    · subst hshell
      have hopen : ∃ body', CommandLine.script .default body = .script .default body' := ⟨body, rfl⟩
      rw [LeftToOther, and_iff_right hopen, ← not_or, Classical.not_not,
        ← Shell.invocation_eq_default_iff]
      exact eq_comm
    · refine iff_of_true ?_ fun ⟨⟨_, h⟩, _⟩ => hshell (CommandLine.script.inj h).1
      rw [executable, invocation, if_neg hshell]

section Failure

variable {preferred : Shell} {files : FileTree} {here : List String} {line : CommandLine}
  {env : Env} {directory : String} {limit : Option Duration} {fault : SpawnFault}

/-- What is reported of a process that cannot be started. Nothing has changed, and no time has
passed. -/
theorem runCommand_of_error
    (h : (line.process preferred env directory limit).run files here = .error fault) :
    runCommand preferred files here line env directory limit = (files, Duration.zero,
      .error ⟨line.executable, "failed to spawn '" ++ line.executable ++ "': " ++ fault.text⟩) := by
  unfold runCommand
  rw [CommandLine.process] at h
  simp only [h]

theorem runCommand_of_ok {r : ProcessResult}
    (h : (line.process preferred env directory limit).run files here = .ok r) :
    runCommand preferred files here line env directory limit =
      (r.files, r.time, .ok (r.output limit)) := by
  unfold runCommand
  rw [CommandLine.process] at h
  simp only [h]

/-- An error is reported if and only if the process cannot be started. It blames the program by the
name that the command line has by itself, which is the program that was tried unless a script leaves
its shell to a runner that prefers another than `sh`. A step that asked for the command fails with
the names of the error. -/
theorem spawn_failure_blames (preferred : Shell) (files : FileTree) (here : List String)
    (line : CommandLine) (env : Env) (directory : String) (limit : Option Duration) :
    (∀ e, (runCommand preferred files here line env directory limit).2.2 = .error e →
      ∃ fault, (line.process preferred env directory limit).run files here = .error fault) ∧
    ∀ fault, (line.process preferred env directory limit).run files here = .error fault →
      ∃ e, runCommand preferred files here line env directory limit =
          (files, Duration.zero, .error e) ∧
        e.Blames line.executable fault ∧
        (e.Blames (line.process preferred env directory limit).program fault ↔
          ¬line.LeftToOther preferred) ∧
        ∀ services i p step, (closeStep services i p step (.error e)).outcome.failure =
          some (.unavailable e.collaborator e.diagnostic) := by
  constructor
  · intro e he
    cases h : (line.process preferred env directory limit).run files here with
    | error fault => exact ⟨fault, rfl⟩
    | ok r =>
      rw [runCommand_of_ok h] at he
      cases he
  · intro fault h
    refine ⟨_, runCommand_of_error h, ⟨rfl, rfl⟩, ?_, fun _ _ _ _ => rfl⟩
    rw [← line.executable_eq_iff preferred]
    constructor
    · exact fun hblames => hblames.collaborator
    · intro hsame
      rw [hsame]
      exact ⟨rfl, rfl⟩

end Failure

/-- A program that does not exist is blamed by its path, whatever shell the runner prefers. -/
theorem spawn_failure_blames_sample :
    let line : CommandLine := .program "./missing" ["x"]
    (line.process .pwsh Env.empty "/tmp" none).run FileTree.system [] = .error (.file .missing) ∧
    ∃ e, runCommand .pwsh FileTree.system [] line Env.empty "/tmp" none =
        (FileTree.system, Duration.zero, .error e) ∧
      e.Blames "./missing" (.file .missing) := by
  intro line
  have hfault : (line.process .pwsh Env.empty "/tmp" none).fault? FileTree.system [] =
      some (.file .missing) := by decide +kernel
  have hstart := ProcessCall.fault?_eq_some.mp hfault
  obtain ⟨e, he, hblames, -, -⟩ :=
    (spawn_failure_blames .pwsh FileTree.system [] line Env.empty "/tmp" none).2 _ hstart
  exact ⟨hstart, e, he, hblames⟩

/-- A runner that prefers `pwsh` cannot start it for a script without a shell of its own. It blames
`sh`, which has not been tried and is there. -/
theorem blames_other_shell :
    let line : CommandLine := .script .default "x"
    let call := line.process .pwsh Env.empty "/tmp" none
    call.program = "pwsh" ∧ call.run FileTree.system [] = .error (.file .missing) ∧
    FileTree.system.find ["bin", "sh"] = .ok .program ∧
    ∃ e, (runCommand .pwsh FileTree.system [] line Env.empty "/tmp" none).2.2 = .error e ∧
      e.collaborator = "sh" ∧
      e.diagnostic = "failed to spawn 'sh': No such file or directory (os error 2)" ∧
      ¬e.Blames call.program (.file .missing) := by
  intro line call
  have hfault : call.fault? FileTree.system [] = some (.file .missing) := by decide +kernel
  have hstart := ProcessCall.fault?_eq_some.mp hfault
  have hshell : FileTree.system.find ["bin", "sh"] = .ok .program := by rfl
  refine ⟨rfl, hstart, hshell, _, congrArg (·.2.2) (runCommand_of_error hstart), rfl, by decide, ?_⟩
  exact fun h => absurd h.collaborator (by decide)

end MatrixFlow
