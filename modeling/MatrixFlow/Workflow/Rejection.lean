import MatrixFlow.Text.Lines
import MatrixFlow.Yaml.LoadError

/-!
# Rejections of workflow texts

* `Rejection`: why a text is no workflow, with its place in the text, the lines around it and a
  hint.
* `Rejection.locate`: puts a rejection at the first line that begins with a key.
* `Rejection.withExcerpt`: quotes the lines around the place.
* `Rejection.ofLoadError`: the rejection for an error of loading.
* `Rejection.display`: the whole text that is shown.
-/

namespace MatrixFlow

/-- The kinds of rejections. -/
inductive RejectionKind where
  | malformed
  | unsupportedTrigger
deriving DecidableEq, Repr

/-- Why a text is no workflow. Lines and columns count from one; zero stands for unknown. -/
structure Rejection where
  message : String
  line : Nat
  column : Nat
  excerpt : String
  suggestion : Option String
  kind : RejectionKind
deriving DecidableEq, Repr

namespace Rejection

/-- A rejection without a place. -/
def malformed (message : String) : Rejection :=
  ⟨message, 0, 0, "", none, .malformed⟩

/-- The rejection of a trigger event. -/
def unsupportedTrigger (event : String) : Rejection :=
  { malformed ("unsupported trigger event '" ++ event ++ "'") with kind := .unsupportedTrigger }

/-- The rejection at another place. -/
def placedAt (r : Rejection) (line column : Nat) : Rejection :=
  { r with line := line, column := column }

/-- The rejection with a hint. -/
def suggest (r : Rejection) (hint : String) : Rejection :=
  { r with suggestion := some hint }

/-- A number that takes at least four places. -/
def padded (n : Nat) : String :=
  let digits := toString n
  "".pushn ' ' (4 - digits.length) ++ digits

/-- A line of an excerpt, with a caret below if it is the line of the rejection. -/
def excerptLine (line column number : Nat) (text : String) : String :=
  let marker := if number = line then ">" else " "
  let caret :=
    if number = line ∧ 0 < column then "       | " ++ "".pushn ' ' (column - 1) ++ "^\n" else ""
  marker ++ " " ++ padded number ++ " | " ++ text ++ "\n" ++ caret

/-- Quotes the lines up to `window` lines around the place. -/
def withExcerpt (r : Rejection) (source : String) (window : Nat) : Rejection :=
  if r.line = 0 then r
  else
    let lines := source.textLines
    let first := r.line - (window + 1)
    let last := min (r.line + window) lines.length
    let quoted := ((lines.take last).drop first).zipIdx first
    let texts := quoted.map fun (text, i) => excerptLine r.line r.column (i + 1) text
    { r with excerpt := "".intercalate texts }

/-- The text behind any number of list markers. -/
def afterMarkers : List Char → List Char
  | '-' :: ' ' :: r => afterMarkers r
  | cs => cs

/-- What a line holds behind its indentation and its list markers. -/
def lineContent (line : List Char) : List Char :=
  afterMarkers (Text.trimStart line)

/-- The first line that begins with a key, with the byte column of the key, both from one. -/
def findKey? (key : List Char) : (number : Nat) → List (List Char) → Option (Nat × Nat)
  | _, [] => none
  | number, line :: rest =>
    let content := lineContent line
    if Text.startsWith (key ++ [':']) content then
      some (number, Text.byteLength line - Text.byteLength content + 1)
    else findKey? key (number + 1) rest

/-- Puts the rejection at the first line that begins with a key, and quotes the lines around. -/
def locate (r : Rejection) (source key : String) : Rejection :=
  match findKey? key.toList 1 (Text.lines source.toList) with
  | some (line, column) => (r.placedAt line column).withExcerpt source 2
  | none => r

/-- The text shown for the rejection. -/
def display (r : Rejection) : String :=
  "error: " ++ r.message ++ "\n" ++
    (if 0 < r.line then "  --> line " ++ toString r.line ++ ":" ++ toString r.column ++ "\n"
      else "") ++
    (if r.excerpt.isEmpty then "" else "\n" ++ r.excerpt) ++
    (match r.suggestion with
      | some hint => "\nhelp: " ++ hint ++ "\n"
      | none => "")

/-- The text between the first `before` and the next `after` behind it. -/
def between? (s before after : String) : Option String := do
  let (_, rest) ← s.cutAt? before
  let (found, _) ← rest.cutAt? after
  some found

/-- The message of a loading error as it is shown: without its place, and in plainer words for a
missing field or a wrong type. -/
def loadMessage (text : String) : String :=
  match between? text "missing field \x60" "\x60" with
  | some field => "missing required field '" ++ field ++ "'"
  | none =>
    let plainer :=
      if text.hasPiece "invalid type" then
        match between? text "expected " " at", between? text "invalid type: " "," with
        | some expected, some found => some ("expected " ++ expected ++ ", but found " ++ found)
        | _, _ => none
      else none
    match plainer with
    | some message => message
    | none =>
      match text.cutAt? " at line " with
      | some (message, _) => message
      | none => text

/-- Keys that are easily misspelt, with the right spelling. -/
def misspellings : List (String × String) :=
  [("runs_on", "runs-on"), ("runson", "runs-on"), ("failfast", "fail-fast"),
    ("fail_fast", "fail-fast"), ("max_parallel", "max-parallel"),
    ("timeout_minutes", "timeout-minutes"), ("working_directory", "working-directory")]

/-- A hint for a loading error, from its message and the line where it shows. -/
def hint? (text : String) (line : List Char) : Option String :=
  if text.hasPiece "missing field \x60on\x60" then
    some "add an 'on:' key naming the events that trigger the workflow"
  else if line.head? = some '\t' then
    some "YAML prefers spaces over tabs for indentation. Replace tabs with spaces."
  else
    let lowered := Text.lowerAscii line
    (misspellings.find? fun (wrong, _) => Text.contains wrong.toList lowered).map fun (_, right) =>
      "did you mean '" ++ right ++ "'?"

/-- The rejection for an error of loading. -/
def ofLoadError (e : Yaml.LoadError) (source : String) : Rejection :=
  let (line, column) := match e.mark? with
    | some m => (m.line + 1, m.column + 1)
    | none => (0, 0)
  let errorLine := ((Text.lines source.toList)[line - 1]?).getD []
  { ((malformed (loadMessage e.message)).placedAt line column).withExcerpt source 2 with
    suggestion := hint? e.message errorLine }

end Rejection

end MatrixFlow
