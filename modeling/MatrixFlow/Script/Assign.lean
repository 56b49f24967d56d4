import MatrixFlow.Script.Clock
import MatrixFlow.Script.Formula.Extended
import MatrixFlow.Script.Formula.Plain
import MatrixFlow.Script.Options

/-!
# Values of parameters

* `Scope.parameter?`: the value of a parameter.
* `compute`: the value of a formula.
* `assignPlace`, `assignVariable`: give a variable or an element a value.
* `complainFault`, `fault`: end the shell with a message.
-/

namespace MatrixFlow.Script

/-- Ends the shell with a message. -/
def fault {α : Type} (extendedStatus : Nat) (text : Octets) : Eval α := do
  complain text
  let scope ← getScope
  match scope.dialect with
  | .plain => setStatus 2
  | .extended => setStatus (if scope.options.stopsOnFailure then 1 else extendedStatus)
  throw .exit

/-! ## Reading -/

/-- The characters that separate fields. -/
def Scope.separators (scope : Scope) : Octets :=
  (scope.value? "IFS").getD [' ', '\t', '\n']

/-- What stands between values that are joined. -/
def Scope.joint (scope : Scope) : Octets :=
  scope.separators.take 1

/-- The options that are on, as one text. -/
def Scope.flags (scope : Scope) : Octets :=
  scope.options.letters scope.dialect ++ match scope.dialect with
    | .plain => []
    | .extended => ['c']

/-- The variable that a name stands for. -/
def Scope.meant (scope : Scope) (name : String) : String :=
  go 8 name
where
  /-- Goes on from a variable that stands for another one. -/
  go : Nat → String → String
    | 0, name => name
    | fuel + 1, name =>
      match scope.binding? name with
      | some v => if v.stands then go fuel (plainString (v.value.getD [])) else name
      | none => name

/-- The value of a parameter that is one text. -/
def Scope.parameter? (scope : Scope) (name : String) : Option Octets :=
  match name with
  | "?" => some (octets (toString scope.status))
  | "#" => some (octets (toString scope.params.length))
  | "$" => some (octets (toString scope.process))
  | "!" => scope.jobs.getLast?.map fun process => octets (toString process)
  | "-" => some scope.flags
  | "0" => some scope.name
  | "LINENO" =>
    match scope.dialect with
    | .extended => some (octets (toString scope.line))
    | .plain => scope.value? name
  | "BASH_COMMAND" => some scope.command
  | "_" =>
    match scope.dialect with
    | .extended => some scope.lastWord
    | .plain => scope.value? name
  | _ =>
    match name.toNat? with
    | some n => scope.params[n - 1]?
    | none => scope.value? (scope.meant name)

/-- One element of a variable, or its text. -/
def Scope.at? (scope : Scope) (place : Place) : Option Octets :=
  match place.key with
  | none => scope.parameter? place.name
  | some key => (scope.binding? (scope.meant place.name)).bind fun v => v.content.element? key

/-- A variable whose elements have names. -/
def Scope.isNamed (scope : Scope) (name : String) : Bool :=
  ((scope.binding? (scope.meant name)).map (·.isNamed)).getD false

/-! ## Writing -/

/-- The text of a place. -/
def Place.text (place : Place) : Octets :=
  octets place.name ++ match place.key with
    | none => []
    | some (.number n) => octets ("[" ++ toString n ++ "]")
    | some (.name k) => ['['] ++ k ++ [']']

/-- A fixed variable cannot be changed. -/
def refuseFixed {α : Type} (name : String) : Eval α := do
  let text := match (← getScope).dialect with
    | .plain => ": is read only"
    | .extended => ": readonly variable"
  fault 1 (octets name ++ octets text)

/-- Puts a text into a variable or an element, as it is. -/
def storePlace (place : Place) (value : Octets) : Eval Unit := do
  let scope ← getScope
  let name := scope.meant place.name
  let v := scope.bindingOrEmpty name
  if v.fixed then refuseFixed name
  let content := match place.key with
    | none => some (v.content.putText value)
    | some key => v.content.put? key value
  match content with
  | none => fault 1 (place.text ++ octets ": bad array subscript")
  | some content =>
    let exported := v.exported || scope.options.exportsAll
    let letters := if name = "OPTIND" then 0 else scope.lettersRead
    modifyScope fun s =>
      { s.putVariable { v with content := content, exported := exported } with
        lettersRead := letters }

/-- A cause in words of the plain dialect. -/
def FormulaCause.plainText : FormulaCause → String
  | divisionByZero => "division by zero"
  | bracketMissing => "expecting ')'"
  | colonMissing => "expecting ':'"
  | leftOver => "expecting EOF"
  | _ => "expecting primary"

/-- A cause in words of the extended dialect. -/
def FormulaCause.extendedText : FormulaCause → String
  | divisionByZero => "division by 0"
  | operandMissing => "syntax error: operand expected"
  | leftOver => "syntax error in expression"
  | bracketMissing => "missing \x60)'"
  | colonMissing => "\x60:' expected for conditional expression"
  | choiceMissing => "expression expected"
  | notOperator => "syntax error: invalid arithmetic operator"
  | notVariable => "attempted assignment to non-variable"
  | signNeedsVariable sign => sign ++ ": assignment requires lvalue"
  | negativeExponent => "exponent less than 0"
  | tooDeep => "expression recursion level exceeded"
  | badIndex => "bad array subscript"
  | badNumber => "invalid number"
  | badBase => "invalid arithmetic base"
  | digitMissing => "invalid integer constant"
  | digitTooGreat => "value too great for base"
  | illegalValue => "syntax error"
  | unbound => "unbound variable"

/-- Why a formula has no value, in words. -/
def FormulaFault.message (dialect : Dialect) (f : FormulaFault) : Octets :=
  match dialect, f.cause with
  | .plain, .illegalValue => octets "Illegal number: " ++ f.formula
  | .plain, cause =>
    octets ("arithmetic expression: " ++ cause.plainText ++ ": \x22") ++ f.formula ++ ['\x22']
  | .extended, .unbound => f.formula ++ octets ": unbound variable"
  | .extended, cause =>
    f.formula ++ octets (": " ++ cause.extendedText ++ " (error token is \x22") ++ f.token ++
      ['\x22', ')']

/-- The value of a formula, or what is wrong with it. Its changes to variables are carried out. -/
def formulaResult (cs : Octets) : Eval (Except FormulaFault Int) := do
  let scope ← getScope
  let asked : FormulaScope := ⟨scope.at?, scope.isNamed, scope.options.needsValues⟩
  let result := match scope.dialect with
    | .plain => plainFormula asked cs
    | .extended => extendedFormula asked cs
  match result with
  | .ok (value, changed) =>
    changed.forM fun (place, value) => storePlace place (octets (toString value))
    return .ok value
  | .error f => return .error f

/-- The value of a formula. Without one the shell ends. -/
def compute (cs : Octets) : Eval Int := do
  match ← formulaResult cs with
  | .ok value => return value
  | .error f => fault 1 (f.message (← getScope).dialect)

/-- The value of a formula about a variable, which messages name. -/
def computeAbout (name : Octets) (cs : Octets) : Eval Int := do
  match ← formulaResult cs with
  | .ok value => return value
  | .error f =>
    let named := if f.cause = .unbound then [] else name ++ [':', ' ']
    fault 1 (named ++ f.message (← getScope).dialect)

/-- The value of a formula of a command. Without one the command fails. -/
def computeFor (name : String) (cs : Octets) : Eval (Option Int) := do
  match ← formulaResult cs with
  | .ok value => return some value
  | .error f =>
    let message := f.message (← getScope).dialect
    if f.cause = .unbound then fault 1 message
    complain (octets (name ++ ": ") ++ message)
    setStatus 1
    return none

/-- Gives a variable or an element a value, in the way in which the variable is kept. With
`appends`, the value goes behind the old one. -/
def assignPlace (place : Place) (appends : Bool) (value : Octets) : Eval Unit := do
  let scope ← getScope
  let v := scope.bindingOrEmpty (scope.meant place.name)
  if v.fixed then refuseFixed v.name
  let old := ((match place.key with
    | some key => v.content.element? key
    | none => v.value).getD [])
  if v.computed then
    let number ← compute value
    let base ← if appends then compute old else pure 0
    storePlace place (octets (toString (wrap64 (base + number))))
  else storePlace place (v.change (if appends then old ++ value else value))

/-- Gives a variable a value. -/
def assignVariable (name : String) (value : Octets) : Eval Unit :=
  assignPlace ⟨name, none⟩ false value

/-- Gives a variable the elements of a list. -/
def assignElements (name : String) (values : List Octets) : Eval Unit := do
  let scope ← getScope
  let v := scope.bindingOrEmpty (scope.meant name)
  if v.fixed then refuseFixed v.name
  modifyScope fun s => s.assignList v.name values

end MatrixFlow.Script
