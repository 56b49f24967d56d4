import MatrixFlow.Script.Builtin.Directory
import MatrixFlow.Script.Builtin.Output
import MatrixFlow.Script.Builtin.Process
import MatrixFlow.Script.Builtin.Variables

/-!
# Commands of the shell itself

* `builtin?`: the commands that the shell carries out itself, those excepted that run other
  commands.
* `isBuiltin`: the commands that shells know themselves.
-/

namespace MatrixFlow.Script

/-- Does nothing. -/
def idleBuiltin (_ : List Octets) : Eval Unit := setStatus 0

/-- Commands that the shell carries out itself in every dialect. -/
def plainBuiltins : List (String × (List Octets → Eval Unit)) :=
  [(":", idleBuiltin), ("true", idleBuiltin), ("false", fun _ => setStatus 1), ("cd", cdBuiltin),
    ("pwd", pwdBuiltin), ("export", exportBuiltin), ("readonly", readonlyBuiltin),
    ("unset", unsetBuiltin), ("local", localBuiltin), ("set", setBuiltin), ("shift", shiftBuiltin),
    ("read", readBuiltin), ("echo", echoBuiltin), ("printf", printfBuiltin),
    ("test", testBuiltin "test"), ("[", testBuiltin "["), ("exit", exitBuiltin),
    ("return", returnBuiltin), ("break", loopBuiltin "break" .leave),
    ("continue", loopBuiltin "continue" .again), ("kill", killBuiltin),
    ("wait", waitBuiltin), ("trap", trapBuiltin), ("umask", umaskBuiltin), ("hash", hashBuiltin),
    ("ulimit", ulimitBuiltin), ("times", timesBuiltin), ("alias", aliasBuiltin),
    ("unalias", unaliasBuiltin), ("jobs", jobsBuiltin), ("getopts", getoptsBuiltin)]

/-- Further commands of that kind. -/
def extendedBuiltins : List (String × (List Octets → Eval Unit)) :=
  [("let", letBuiltin), ("declare", declareBuiltin "declare"),
    ("typeset", declareBuiltin "typeset"), ("shopt", shoptBuiltin), ("disown", idleBuiltin),
    ("mapfile", mapfileBuiltin "mapfile"), ("readarray", mapfileBuiltin "readarray"),
    ("pushd", pushdBuiltin), ("popd", popdBuiltin), ("dirs", dirsBuiltin),
    ("enable", idleBuiltin), ("complete", idleBuiltin), ("history", idleBuiltin)]

/-- Commands of that kind that run other commands. -/
def runningBuiltins : List String :=
  ["eval", ".", "exec", "command", "type", "source", "builtin"]

/-- The commands that the shell carries out itself, those excepted that run other commands. -/
def builtin? (dialect : Dialect) (name : String) : Option (List Octets → Eval Unit) :=
  let table := match dialect with
    | .plain => plainBuiltins
    | .extended => plainBuiltins ++ extendedBuiltins
  (table.find? fun (k, _) => k == name).map (·.2)

/-- The shell knows the command itself. -/
def isBuiltin (dialect : Dialect) (name : String) : Bool :=
  (builtin? dialect name).isSome ||
    (runningBuiltins.contains name &&
      (dialect = .extended || (name != "source" && name != "builtin")))

end MatrixFlow.Script
