import MatrixFlow.Script.Tool.Basic

/-!
# Tools that tell about the system

Tools that tell who runs them and where.
-/

namespace MatrixFlow.Script

open ToolM

/-- Refuses arguments that a tool does not take. -/
def withoutArguments (o : ToolOptions) (body : Tool) : Tool := do
  match o.rest with
  | extra :: _ =>
    warn (octets "extra operand '" ++ extra ++ octets "'\nTry '" ++ (← read).name ++
      octets " \x2d\x2dhelp' for more information.")
    return 1
  | [] => body

/-- Prints a line and succeeds. -/
def sayWord (text : String) : Tool := do
  sayLine (octets text)
  return 0

/-- There is only one user. -/
def isUser (name : Octets) : Bool := name == octets "root" || name == ['0']

/-- A message about a user that there is not. -/
def unknownUser (name : Octets) : Octets := '\x27' :: name ++ octets "': no such user"

/-- The tool `id`. -/
def idTool : Tool :=
  withOptions (.of "ugGnraZz" "" [("user", "u"), ("group", "g"), ("groups", "G"), ("name", "n"),
      ("real", "r"), ("zero", "z"), ("context", "Z")]) fun o => do
    let kinds := (['u', 'g', 'G'].filter o.has).length
    let ending := if o.has 'z' then ['\x00'] else ['\n']
    if 1 < kinds then
      warn (octets "cannot print \x22only\x22 of more than one choice")
      return 1
    else if kinds = 0 && (o.has 'n' || o.has 'r') then
      warn (octets "cannot print only names or real IDs in default format")
      return 1
    else if kinds = 0 && o.has 'z' then
      warn (octets "option \x2d\x2dzero not permitted in default format")
      return 1
    else
      let text := if kinds = 0 then "uid=0(root) gid=0(root) groups=0(root)"
        else if o.has 'n' then "root" else "0"
      let asked := if o.rest.isEmpty then [octets "root"] else o.rest
      let known ← asked.mapM fun name => do
        if isUser name then
          say (octets text ++ ending)
          return true
        else
          warn (unknownUser name)
          return false
      return if known.all id then 0 else 1

/-- The tool `groups`. -/
def groupsTool : Tool :=
  withOptions (.of "" "" []) fun o => do
    if o.rest.isEmpty then sayWord "root"
    else
      let known ← o.rest.mapM fun name => do
        if isUser name then
          sayLine (name ++ octets " : root")
          return true
        else
          warn (unknownUser name)
          return false
      return if known.all id then 0 else 1

/-- The tool `uname`. -/
def unameTool : Tool :=
  withOptions (.of "asnrvmpio" "" [("all", "a"), ("kernel-name", "s"), ("nodename", "n"),
      ("kernel-release", "r"), ("kernel-version", "v"), ("machine", "m"), ("processor", "p"),
      ("hardware-platform", "i"), ("operating-system", "o")]) fun o =>
    withoutArguments o do
      let parts : List (Char × String) :=
        [('s', "Linux"), ('n', "localhost"), ('r', "6.1.0"), ('v', "#1 SMP"), ('m', "x86_64"),
          ('p', "unknown"), ('i', "unknown"), ('o', "GNU/Linux")]
      let shown := parts.filter fun (c, text) =>
        if o.has 'a' then text != "unknown" else o.has c || (o.given.isEmpty && c == 's')
      sayWord (" ".intercalate (shown.map (·.2)))

/-- The tool `arch`. -/
def archTool : Tool :=
  withOptions (.of "" "" []) fun o => withoutArguments o (sayWord "x86_64")

/-- The tool `nproc`. -/
def nprocTool : Tool :=
  withOptions (.of "" "" [("all", "all"), ("ignore", "ignore=")]) fun o =>
    withoutArguments o (sayWord "1")

/-- The tool `tty`: there is no terminal. -/
def ttyTool : Tool :=
  withOptions ⟨"s", "", "", [("silent", "s"), ("quiet", "s")], true, 2⟩ fun o => do
    if !o.has 's' then sayLine (octets "not a tty")
    return 1

/-- The tool `logname`: nobody has logged in. -/
def lognameTool : Tool :=
  withOptions (.of "" "" []) fun o => withoutArguments o do
    warn (octets "no login name")
    return 1

/-- A tool that has nothing to do. -/
def idleTool : Tool :=
  withOptions (.of "df" "" [("data", "d"), ("file-system", "f")]) fun _ => return 0

end MatrixFlow.Script
