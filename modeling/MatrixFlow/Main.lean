import MatrixFlow.Cli.Program

/-!
# The command line

The program sees its environment, the directory it is started in, and what stands at the paths
that its arguments name. Everything else is decided by `Surroundings.runProgram`.
-/

namespace MatrixFlow

/-- The environment that a block of texts stands for, each of them ended by a zero byte. -/
def Env.ofBlock (block : String) : Env :=
  Env.ofList ((block.piecesBy '\x00').filterMap (·.cutAt? "="))

/-- What stands at a path. -/
def entryAt? (path : String) : IO (Option FileEntry) := do
  try
    return some (.file (← IO.FS.readBinFile path).toList false)
  catch
    | .inappropriateType _ 21 _ => return some .directory
    | _ => return none

/-- Adds what stands at a path and on the way to it. -/
def addPath (directory : List String) (tree : FileTree) (path : String) : IO FileTree := do
  let parts := Path.parts (Path.join ("/" ++ "/".intercalate directory) path)
  let ways := (List.range parts.length).map fun n => parts.take (n + 1)
  ways.foldlM (fun tree way => do
    match ← entryAt? ("/" ++ "/".intercalate way) with
    | some entry => return tree.put way entry
    | none => return tree) tree

/-- What the program sees when it is started with some arguments. -/
def surroundings (args : List String) : IO Surroundings := do
  let block ← IO.FS.readBinFile "/proc/self/environ"
  let directory := Path.parts (← IO.currentDir).toString
  let files ← ("." :: args).foldlM (addPath directory) FileTree.system
  return ⟨Env.ofBlock ((String.fromUTF8? block).getD ""), directory, files⟩

end MatrixFlow

/-- Starts the program. -/
def main (args : List String) : IO UInt32 := do
  let seen ← MatrixFlow.surroundings args
  let result := seen.runProgram args
  (← IO.getStdout).putStr (result.output false)
  (← IO.getStderr).putStr (result.output true)
  return result.code.number.toUInt32
