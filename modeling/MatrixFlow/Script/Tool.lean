import MatrixFlow.Script.Tool.Arrange
import MatrixFlow.Script.Tool.Calendar
import MatrixFlow.Script.Tool.Characters
import MatrixFlow.Script.Tool.Compare
import MatrixFlow.Script.Tool.Compute
import MatrixFlow.Script.Tool.Digest
import MatrixFlow.Script.Tool.Dump
import MatrixFlow.Script.Tool.Files
import MatrixFlow.Script.Tool.Identity
import MatrixFlow.Script.Tool.Lines
import MatrixFlow.Script.Tool.Listing
import MatrixFlow.Script.Tool.Pieces
import MatrixFlow.Script.Tool.Print
import MatrixFlow.Script.Tool.Scale
import MatrixFlow.Script.Tool.Search
import MatrixFlow.Script.Tool.Sort

/-!
# The tools of the system

* `tools`: all tools by their names.
* `FileTree.system`: a system with its programs and nothing else.
-/

namespace MatrixFlow.Script

/-- All tools by their names. -/
def tools : List (String × Tool) :=
  [("true", return 0), ("false", return 1), ("echo", echoTool), ("printf", printfTool),
    ("test", testTool), ("[", testTool), ("seq", seqTool), ("yes", yesTool), ("sleep", sleepTool),
    ("basename", basenameTool), ("dirname", dirnameTool), ("printenv", printenvTool),
    ("expr", exprTool), ("factor", factorTool), ("cat", catTool), ("tac", tacTool),
    ("rev", revTool), ("head", headTool), ("tail", tailTool), ("wc", wcTool), ("nl", nlTool),
    ("paste", pasteTool), ("fold", foldTool), ("expand", expandTool),
    ("unexpand", unexpandTool), ("sort", sortTool), ("uniq", uniqTool), ("comm", commTool),
    ("join", joinTool), ("tr", trTool), ("cut", cutTool), ("od", odTool),
    ("base64", base64Tool), ("base32", base32Tool), ("md5sum", digestTool md5),
    ("sha1sum", digestTool sha1), ("sha224sum", digestTool sha224.digest),
    ("sha256sum", digestTool sha256.digest), ("sha384sum", digestTool sha384.digest),
    ("sha512sum", digestTool sha512.digest), ("cksum", cksumTool),
    ("diff", diffTool), ("cmp", cmpTool), ("grep", grepTool), ("egrep", grepTool),
    ("fgrep", grepTool),
    ("mkdir", mkdirTool), ("rmdir", rmdirTool), ("rm", rmTool), ("unlink", unlinkTool),
    ("touch", touchTool), ("cp", transfer false), ("mv", transfer true), ("ln", lnTool),
    ("install", installTool), ("chmod", chmodTool), ("tee", teeTool),
    ("ls", lsTool), ("stat", statTool), ("readlink", readlinkTool), ("realpath", realpathTool),
    ("whoami", ToolM.withOptions (.of "" "" []) fun o => withoutArguments o (sayWord "root")),
    ("uname", unameTool), ("id", idTool), ("groups", groupsTool), ("arch", archTool),
    ("nproc", nprocTool), ("tty", ttyTool), ("logname", lognameTool), ("sync", idleTool),
    ("users", idleTool), ("who", idleTool), ("date", dateTool), ("split", splitTool),
    ("truncate", truncateTool), ("mktemp", mktempTool), ("dd", ddTool), ("numfmt", numfmtTool),
    ("tsort", tsortTool), ("shuf", shufTool), ("sum", sumTool),
    ("pwd", do
      ToolM.sayLine (pathText (← read).directory)
      return 0)]

/-- The tool of a name. -/
def tool? (name : String) : Option Tool :=
  (tools.find? fun (k, _) => k == name).map (·.2)

/-- Programs that run other programs. -/
def launchers : List String :=
  ["sh", "dash", "bash", "env", "xargs", "timeout", "nohup", "nice", "setsid", "stdbuf", "which",
    "sed", "find", "awk", "mawk"]

end MatrixFlow.Script

namespace MatrixFlow

/-- A system with its programs and nothing else. -/
def FileTree.system : FileTree :=
  let names := Script.tools.map (·.1) ++ Script.launchers
  let directories : List (List String) :=
    [["bin"], ["dev"], ["tmp"], ["usr"], ["usr", "bin"], ["usr", "local"], ["usr", "local", "bin"]]
  let devices := [(["dev", "null"], .zeros 0), (["dev", "zero"], .zeros Script.streamSize)]
  let programs := names.flatMap fun n => [(["bin", n], .program), (["usr", "bin", n], .program)]
  ⟨directories.map (·, .directory) ++ devices ++ programs⟩

end MatrixFlow
