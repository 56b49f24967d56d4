import MatrixFlow.Env

/-!
# Lines on the screen

Progress goes to the error output, what steps print and reports go to the standard output. Styles
are codes around a text; without colours they are left out.

* `ScreenText`: a text for one of the outputs.
* `Style`, `Style.paint`: how a text looks.
* `Screen.…`: the lines that commands show.
-/

namespace MatrixFlow

/-- A text for one of the outputs. -/
structure ScreenText where
  /-- It goes to the error output. -/
  toError : Bool
  text : String
deriving DecidableEq, Repr

/-- How a text looks. -/
inductive Style where
  | bold
  | faint
  | red
  | green
  | boldRed
  | boldGreen
  | yellow
  | boldBlue
  | cyan
  | boldCyan
deriving DecidableEq, Repr

namespace Style

/-- The code of a style. -/
def code : Style → String
  | bold => "1"
  | faint => "2"
  | red => "31"
  | green => "32"
  | boldRed => "1;31"
  | boldGreen => "1;32"
  | yellow => "33"
  | boldBlue => "1;34"
  | cyan => "36"
  | boldCyan => "1;36"

/-- A text in a style. -/
def paint (style : Style) (colors : Bool) (text : String) : String :=
  if colors then "\x1b[" ++ style.code ++ "m" ++ text ++ "\x1b[0m" else text

end Style

/-- Texts are shown in colours unless the environment says no. -/
def Env.wantsColors (env : Env) : Bool :=
  ((env.get? "NO_COLOR").getD "").isEmpty

namespace Screen

/-- A line of the standard output. -/
def plain (text : String) : ScreenText := ⟨false, text ++ "\n"⟩

/-- A line of the error output. -/
def note (text : String) : ScreenText := ⟨true, text ++ "\n"⟩

/-- A line of the error output that begins with a sign. -/
def signed (colors : Bool) (style : Style) (sign message : String) : ScreenText :=
  note (style.paint colors sign ++ " " ++ message)

/-- A text with blanks in front, up to a width. -/
def padLeft (width : Nat) (text : String) : String :=
  "".pushn ' ' (width - text.length) ++ text

/-- A text with blanks behind, up to a width. -/
def padRight (width : Nat) (text : String) : String :=
  text ++ "".pushn ' ' (width - text.length)

/-- What is being done. -/
def status (colors : Bool) (action message : String) : ScreenText :=
  signed colors .boldCyan (padLeft 12 action) message

/-- Something is done. -/
def success (colors : Bool) (message : String) : ScreenText :=
  signed colors .boldGreen "  \u2713" message

/-- Something has failed. -/
def failure (colors : Bool) (message : String) : ScreenText :=
  signed colors .boldRed "  \u2717" message

/-- Something is in order. -/
def check (colors : Bool) (message : String) : ScreenText :=
  signed colors .green "  \u2713" message

/-- A warning. -/
def warning (colors : Bool) (message : String) : ScreenText :=
  signed colors .yellow "  !" message

/-- An error. -/
def error (colors : Bool) (message : String) : ScreenText :=
  signed colors .boldRed "error:" message

/-- Something to know. -/
def info (colors : Bool) (message : String) : ScreenText :=
  signed colors .cyan "  i" message

/-- A job with the number of its instances. -/
def jobHeader (colors : Bool) (job : String) (instances : Nat) : ScreenText :=
  signed colors .boldBlue "  Job" ("'" ++ job ++ "' (" ++ toString instances ++ " instances)")

/-- A whole line in a style. -/
def painted (colors : Bool) (style : Style) (text : String) : ScreenText :=
  note (style.paint colors text)

end Screen

end MatrixFlow
