import MatrixFlow.Text.Lines

/-!
# Templates

A template is text with references `${{ … }}` in it.

* `segments`: the pieces of a template. An opening that is never closed is plain text.
* `check`: says whether every reference is closed and well formed, and else where the first is
  that is not.
* `isReference`, `literal?`: the two forms of a reference's body.
-/

namespace MatrixFlow.Template

/-- A piece of a template. -/
inductive Segment where
  | text (cs : List Char)
  /-- The body of a reference, without the blanks around it. -/
  | expr (body : List Char)
deriving DecidableEq, Repr

/-- Text as a list of segments: none if there is no text. -/
def Segment.ofText (cs : List Char) : List Segment :=
  if cs.isEmpty then [] else [.text cs]

/-- The characters that open a reference. -/
def opening : List Char := ['$', '\x7b', '\x7b']

/-- The characters that close a reference. -/
def closing : List Char := ['\x7d', '\x7d']

/-- The segments of a template of which the text `before`, reversed, has been read, and of the
reference in it the body `body`, reversed, if one is open. -/
def segmentsFrom (before : List Char) : (body : Option (List Char)) → List Char → List Segment
  | none, [] => Segment.ofText before.reverse
  | some body, [] => Segment.ofText (before.reverse ++ opening ++ body.reverse)
  | none, '$' :: '\x7b' :: '\x7b' :: r => segmentsFrom before (some []) r
  | none, c :: r => segmentsFrom (c :: before) none r
  | some body, '\x7d' :: '\x7d' :: r =>
    Segment.ofText before.reverse ++ .expr (Text.trim body.reverse) :: segmentsFrom [] none r
  | some body, c :: r => segmentsFrom before (some (c :: body)) r

/-- The segments of a template. -/
def segments (cs : List Char) : List Segment :=
  segmentsFrom [] none cs

/-- Why a template is not well formed. -/
inductive Flaw where
  | unclosed
  | emptyBody
  | unsupported (body : String)
deriving DecidableEq, Repr

/-- The first flaw of a template and the byte at which its reference opens. -/
structure TemplateError where
  flaw : Flaw
  position : Nat
deriving DecidableEq, Repr

/-- The flaw in words. -/
def TemplateError.message (e : TemplateError) : String :=
  match e.flaw with
  | .unclosed => "unterminated '$\x7b\x7b', expected '\x7d\x7d'"
  | .emptyBody => "empty expression"
  | .unsupported body =>
    "unsupported expression '" ++ body ++ "', expected a reference like 'matrix.os'"

/-- The flaw in words, with its position. -/
def TemplateError.text (e : TemplateError) : String :=
  "expression error at position " ++ toString e.position ++ ": " ++ e.message

/-- A character of a name in a reference. -/
def isNameChar (c : Char) : Bool :=
  c.isAlphanum || c = '_' || c = '-'

/-- Two names or more with points between them. -/
def isReference (body : List Char) : Bool :=
  let parts := Text.splitOn '.' body
  2 ≤ parts.length && parts.all fun part => !part.isEmpty && part.all isNameChar

/-- What stands between the quotation marks of a literal. -/
def literal? (body : List Char) : Option (List Char) :=
  (Text.stripStart? ['\x27'] body).bind (Text.stripEnd? ['\x27'])

/-- The flaw of the body of a reference, if it has one. -/
def bodyFlaw? (body : List Char) : Option Flaw :=
  let body := Text.trim body
  if body.isEmpty then some .emptyBody
  else if (literal? body).isSome || isReference body then none
  else some (.unsupported (String.ofList body))

/-- Checks a template from byte `offset` on. If a reference is open, `openRef` holds the byte at
which it opens and its body so far, reversed. -/
def checkFrom (offset : Nat) :
    (openRef : Option (Nat × List Char)) → List Char → Except TemplateError Unit
  | none, [] => .ok ()
  | some (position, _), [] => .error ⟨.unclosed, position⟩
  | none, '$' :: '\x7b' :: '\x7b' :: r => checkFrom (offset + 3) (some (offset, [])) r
  | none, c :: r => checkFrom (offset + c.utf8Size) none r
  | some (position, body), '\x7d' :: '\x7d' :: r =>
    match bodyFlaw? body.reverse with
    | some flaw => .error ⟨flaw, position⟩
    | none => checkFrom (offset + 2) none r
  | some (position, body), c :: r =>
    checkFrom (offset + c.utf8Size) (some (position, c :: body)) r

/-- Checks that every reference of a template is closed and has a body of one of the two forms. -/
def check (s : String) : Except TemplateError Unit :=
  checkFrom 0 none s.toList

end MatrixFlow.Template
