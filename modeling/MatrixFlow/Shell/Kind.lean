import MatrixFlow.Text.Lines

/-!
# Shells

`Shell` names the shells that a command can be written for. `Shell.ofName?` reads a name, and
`Shell.invocation` gives the program and the arguments that go in front of a script.
-/

namespace MatrixFlow

/-- The shell that a script is written for. -/
inductive Shell where
  /-- The shell that the runner prefers. -/
  | default
  | bash
  | sh
  | pwsh
  | powershell
  | cmd
deriving DecidableEq, Repr

namespace Shell

/-- The name of a shell. -/
def name : Shell → String
  | default => "default"
  | bash => "bash"
  | sh => "sh"
  | pwsh => "pwsh"
  | powershell => "powershell"
  | cmd => "cmd"

/-- The shell of a name, in any case. -/
def ofName? (name : String) : Option Shell :=
  match name.lowered with
  | "default" => some default
  | "bash" => some bash
  | "sh" => some sh
  | "pwsh" => some pwsh
  | "powershell" => some powershell
  | "cmd" => some cmd
  | _ => none

/-- Why a name is not that of a shell. -/
def unknownMessage (name : String) : String :=
  "unknown shell '" ++ name ++ "', expected one of: bash, sh, pwsh, powershell, cmd"

/-- The program of a shell and the arguments in front of a script. -/
def invocation : Shell → String × List String
  | default | sh => ("sh", ["-e", "-c"])
  | bash => ("bash", ["--noprofile", "--norc", "-eo", "pipefail", "-c"])
  | pwsh | powershell => ("pwsh", ["-NoLogo", "-NoProfile", "-Command"])
  | cmd => ("cmd", ["/D", "/C"])

end Shell

end MatrixFlow
