import MatrixFlow.Script.Program
import MatrixFlow.Script.Test

/-!
# Commands for variables, options and parameters

Commands that declare variables, show them and take them away; `setBuiltin`, `shoptBuiltin` and
`shiftBuiltin`.
-/

namespace MatrixFlow.Script

/-! ## Declaring -/

/-- How variables are to be kept, as letters behind a sign. -/
def applyFlags (sign : Char) (letters : Octets) (v : Variable) : Variable :=
  let on := sign == '-'
  letters.foldl (fun (v : Variable) c => match c with
    | 'x' => { v with exported := on }
    | 'i' => { v with computed := on }
    | 'u' => { v with letters := if on then .upper else .asTheyAre }
    | 'l' => { v with letters := if on then .lower else .asTheyAre }
    | 'n' => { v with stands := on }
    | 'a' => { v with content := match v.content with
        | .named items => .named items
        | c => .numbered c.asNumbered }
    | 'A' => { v with content := match v.content with
        | .named items => .named items
        | _ => .named [] }
    | _ => v) v

/-- Changes how variables are kept, with a value for those that are given one. -/
def declareAll (name : String) (flags : List (Char × Octets)) (args : List Octets) :
    Eval Unit := do
  setStatus 0
  let change (v : Variable) : Variable :=
    flags.foldl (fun v (sign, letters) => applyFlags sign letters v) v
  let fixes := flags.any fun (sign, letters) => sign == '-' && letters.contains 'r'
  args.forM fun arg => do
    let (left, value) := splitBinding arg
    let appends := value.isSome && left.getLast? == some '+' &&
      (← getScope).dialect = .extended
    let left := if appends then left.dropLast else left
    match ← placeOf? left with
    | none =>
      failsHard name (left ++ octets ": bad variable name")
        (1, octets "\x60" ++ arg ++ octets "': not a valid identifier")
    | some (key, index) =>
      let stands := flags.any fun (sign, letters) => sign == '-' && letters.contains 'n'
      let old ← getScope
      let own := if stands then key else old.meant key
      let v := old.bindingOrEmpty own
      if v.fixed && value.isSome then refuseFixed own
      modifyScope fun s => s.putVariable (change v)
      match value with
      | some cs =>
        if stands then
          modifyScope fun s => s.putVariable { change v with content := .text cs }
        else assignPlace (← placeAt own index) appends cs
      | none => pure ()
      if fixes then
        modifyScope fun s => s.putVariable { s.bindingOrEmpty own with fixed := true }

/-- Variables in the order of their names. -/
def sortedVariables (vars : List Variable) : List Variable :=
  vars.mergeSort fun a b => a.name ≤ b.name

/-- Shows variables as the commands that declare them. -/
def showDeclared (word : String) (vars : List Variable) : Eval Unit := do
  let scope ← getScope
  (sortedVariables vars).forM fun v => do
    match scope.dialect with
    | .plain =>
      let value := match v.value with
        | some cs => '=' :: plainShownValue cs
        | none => []
      emit 1 (octets (word ++ " " ++ v.name) ++ value ++ ['\n'])
    | .extended => emit 1 (v.declaration ++ ['\n'])
  setStatus 0

/-- Passes variables on to programs. -/
def exportBuiltin (args : List Octets) : Eval Unit := do
  let scope ← getScope
  let (options, names) := leadingOptions ['-'] args
  let letters := options.flatMap (·.2)
  if letters.contains 'n' && scope.dialect = .plain then
    failsHard "export" (octets "Illegal option -n") (0, [])
  if names.isEmpty then showDeclared "export" (scope.vars.filter (·.exported))
  else declareAll "export" [(if letters.contains 'n' then '+' else '-', ['x'])] names

/-- Fixes the values of variables. -/
def readonlyBuiltin (args : List Octets) : Eval Unit := do
  let (options, names) := leadingOptions ['-'] args
  if names.isEmpty then showDeclared "readonly" ((← getScope).vars.filter (·.fixed))
  else declareAll "readonly" (('-', ['r']) :: options) names

/-- Hides variables until the function is over. -/
def hideVariables (names : List String) : Eval Unit :=
  names.forM fun name => do
    let old := (← getScope).binding? name
    modifyScope fun s =>
      match s.hidden with
      | frame :: rest =>
        let known := frame.any fun (k, _) => k == name
        let frame := if known then frame else (name, s.binding? name) :: frame
        { s with hidden := frame :: rest }
      | [] => s
    modifyScope fun s =>
      match s.dialect with
      | .plain => s
      | .extended =>
        s.putVariable { Variable.empty name with exported := (old.map (·.exported)).getD false }

/-- The names of variables that arguments declare. -/
def declaredNames (args : List Octets) : List String :=
  args.filterMap fun arg =>
    let name := arg.takeWhile isNameRest
    if isName name then some (plainString name) else none

/-- Makes variables that last as long as the function. -/
def localBuiltin (args : List Octets) : Eval Unit := do
  let scope ← getScope
  let (options, names) := match scope.dialect with
    | .plain => ([], args)
    | .extended => leadingOptions ['-', '+'] args
  match scope.hidden with
  | [] => fails "local" (2, octets "not in a function") (1, octets "can only be used in a function")
  | _ :: _ =>
    let names := names.filter (· != ['-'])
    let known := (scope.hidden.head?.getD []).map (·.1)
    hideVariables ((declaredNames names).filter fun n => !known.contains n)
    declareAll "local" options names

/-- Declares variables, which are local in a function, or shows them. -/
def declareBuiltin (name : String) (args : List Octets) : Eval Unit := do
  let scope ← getScope
  let (options, names) := leadingOptions ['-', '+'] args
  let letters := options.flatMap (·.2)
  if letters.contains 'F' || letters.contains 'f' then
    setStatus 0
    let known := scope.functions.map fun f => octets f.name
    let wanted := if names.isEmpty then known.mergeSort octetsUpTo else names
    wanted.forM fun n => do
      if !known.contains n then setStatus 1
      else emit 1 ((if names.isEmpty then octets "declare -f " ++ n else n) ++ ['\n'])
  else if letters.contains 'p' then
    if names.isEmpty then
      let own := scope.vars.filter fun v => options.all fun (_, cs) =>
        cs.all fun c => c == 'p' || v.flags.contains c
      showDeclared name own
    else
      setStatus 0
      names.forM fun n => do
        match scope.binding? (plainString n) with
        | some v => emit 1 (v.declaration ++ ['\n'])
        | none => fails name (1, []) (1, n ++ octets ": not found")
  else if names.isEmpty then
    let own := scope.vars.filter fun v => letters.all fun c => v.flags.contains c
    showDeclared name own
  else
    if !scope.hidden.isEmpty && !letters.contains 'g' then
      let known := (scope.hidden.head?.getD []).map (·.1)
      hideVariables ((declaredNames names).filter fun n => !known.contains n)
    declareAll name options names

/-- Takes variables, elements or functions away. -/
def unsetBuiltin (args : List Octets) : Eval Unit := do
  setStatus 0
  let (options, names) := leadingOptions ['-'] args
  let letters := options.flatMap (·.2)
  names.forM fun arg => do
    let scope ← getScope
    let dropFunction : Eval Unit := modifyScope fun s =>
      { s with functions := s.functions.filter fun f => f.name != plainString arg }
    if letters.contains 'f' then dropFunction
    else match ← placeOf? arg with
      | none =>
        failsHard "unset" (arg ++ octets ": bad variable name")
          (1, octets "\x60" ++ arg ++ octets "': not a valid identifier")
      | some (name, index) =>
        let name := if letters.contains 'n' then name else scope.meant name
        match scope.binding? name with
        | some v =>
          if v.fixed then
            failsHard "unset" (arg ++ octets ": is read only")
              (1, arg ++ octets ": cannot unset: readonly variable")
          else match index with
            | none => modifyScope fun s => s.dropVariable name
            | some text =>
              if (text == ['@'] || text == ['*']) && !v.isNamed then
                modifyScope fun s => s.dropVariable name
              else
                let key ← keyOf name text
                modifyScope fun s => s.putVariable { v with content := v.content.drop key }
        | none => if scope.dialect = .extended && !letters.contains 'v' then dropFunction

/-! ## Options of functions -/

/-- Reads the next option of a list of words. -/
def getoptsBuiltin (args : List Octets) : Eval Unit := do
  match args with
  | letters :: name :: words =>
    let scope ← getScope
    let words := if words.isEmpty then scope.params else words
    let name := plainString name
    let silent := letters.head? == some ':'
    let index := (((scope.value? "OPTIND").bind decimal?).getD 1).toNat
    let word := if index = 0 then none else words[index - 1]?
    let finish (index read : Nat) (status : Nat) (answer : Octets) (value : Option Octets) :
        Eval Unit := do
      assignVariable "OPTIND" (octets (toString index))
      modifyScope fun s => { s with lettersRead := read }
      match value with
      | some v => assignVariable "OPTARG" v
      | none => modifyScope fun s => s.dropVariable "OPTARG"
      assignVariable name answer
      setStatus status
    let absent : Option Octets := match scope.dialect with
      | .plain => some []
      | .extended => none
    match word with
    | some ('-' :: c :: r) =>
      if c == '-' && r.isEmpty && scope.lettersRead = 0 then finish (index + 1) 0 1 ['?'] none
      else
        let place := max scope.lettersRead 1
        let letter := (('-' :: c :: r)[place]?).getD '?'
        let behind := ('-' :: c :: r).drop (place + 1)
        let (index', read) := if behind.isEmpty then (index + 1, 0) else (index, place + 1)
        match letter != ':', Text.cut? [letter] letters with
        | true, some (_, after) =>
          if after.head? == some ':' then
            if !behind.isEmpty then finish (index + 1) 0 0 [letter] (some behind)
            else match words[index]? with
              | some value => finish (index + 2) 0 0 [letter] (some value)
              | none =>
                if silent then finish (index + 1) 0 0 [':'] (some [letter])
                else
                  emit 2 (match scope.dialect with
                    | .plain => octets "No arg for -" ++ [letter] ++ octets " option\n"
                    | .extended =>
                      scope.name ++ octets ": option requires an argument -- " ++ [letter, '\n'])
                  finish (index + 1) 0 0 ['?'] none
          else finish index' read 0 [letter] absent
        | _, _ =>
          if silent then finish index' read 0 ['?'] (some [letter])
          else
            emit 2 (match scope.dialect with
              | .plain => octets "Illegal option -" ++ [letter, '\n']
              | .extended => scope.name ++ octets ": illegal option -- " ++ [letter, '\n'])
            finish index' read 0 ['?'] none
    | _ => finish index 0 1 ['?'] none
  | _ =>
    fails "getopts" (2, octets "usage: getopts optstring var [arg]")
      (2, octets "usage: getopts optstring name [arg ...]")

/-! ## Aliases -/

/-- Makes aliases, or shows them. -/
def aliasBuiltin (args : List Octets) : Eval Unit := do
  let scope ← getScope
  let write (name : String) (text : Octets) : Eval Unit := do
    emit 1 (match scope.dialect with
      | .plain => octets (name ++ "=") ++ plainShownValue text ++ ['\n']
      | .extended => octets ("alias " ++ name ++ "=") ++ shownValue text ++ ['\n'])
  setStatus 0
  let names := args.filter (· != octets "-p")
  if names.isEmpty then
    (scope.aliases.mergeSort fun a b => a.1 ≤ b.1).forM fun (k, v) => write k v
  else names.forM fun arg => do
    match splitBinding arg with
    | (name, some text) =>
      modifyScope fun s =>
        let name := plainString name
        { s with aliases := (name, text) :: s.aliases.filter fun (k, _) => k != name }
    | (name, none) =>
      match scope.aliases.find? fun (k, _) => k == plainString name with
      | some (k, v) => write k v
      | none =>
        match scope.dialect with
        | .plain =>
          emit 2 (octets "alias: " ++ name ++ octets " not found\n")
          setStatus 1
        | .extended => fails "alias" (1, []) (1, name ++ octets ": not found")

/-- Takes aliases away. -/
def unaliasBuiltin (args : List Octets) : Eval Unit := do
  setStatus 0
  if args.contains ['-', 'a'] then modifyScope fun s => { s with aliases := [] }
  else args.forM fun name => do
    let known := (← getScope).aliases.any fun (k, _) => k == plainString name
    modifyScope fun s => { s with aliases := s.aliases.filter fun (k, _) => k != plainString name }
    if !known then
      match (← getScope).dialect with
      | .plain =>
        emit 2 (octets "unalias: " ++ name ++ octets " not found\n")
        setStatus 1
      | .extended => fails "unalias" (1, []) (1, name ++ octets ": not found")

/-! ## Options and parameters -/

/-- A name in a column, and whether it is on. -/
def settingRow (dialect : Dialect) (name : String) (on : Bool) : Octets :=
  let text := octets name
  let mark := octets (if on then "on\n" else "off\n")
  match dialect with
  | .plain => text ++ List.replicate (16 - text.length) ' ' ++ mark
  | .extended => text ++ List.replicate (15 - text.length) ' ' ++ '\t' :: mark

/-- Shows all settings, or the commands that restore them. -/
def showSettings (asTable : Bool) : Eval Unit := do
  let scope ← getScope
  if asTable && scope.dialect = .plain then emit 1 (octets "Current option settings\n")
  (settings scope.dialect).forM fun (name, _) =>
    let on := scope.options.isOn name
    emit 1 (if asTable then settingRow scope.dialect name on
      else octets ((if on then "set -o " else "set +o ") ++ name ++ "\n"))

/-- Shows the variables with their values. -/
def showVariables : Eval Unit := do
  let scope ← getScope
  let vars := scope.vars.mergeSort fun a b => a.name ≤ b.name
  vars.forM fun v => do
    match scope.dialect, v.content with
    | _, .nothing => return
    | .plain, content =>
      emit 1 (octets v.name ++ '=' :: plainShownValue (content.text?.getD []) ++ ['\n'])
    | .extended, .text cs => emit 1 (octets v.name ++ '=' :: barestValue cs ++ ['\n'])
    | .extended, content => emit 1 (octets v.name ++ '=' :: (content.shown).getD [] ++ ['\n'])

/-- Changes options and parameters. -/
def setBuiltin (args : List Octets) : Eval Unit := do
  let scope ← getScope
  if args.isEmpty then
    showVariables
    setStatus 0
  else match readOptions scope.dialect ⟨scope.options, none, none⟩ args with
    | .ok r =>
      modifyScope fun s => { s with options := r.options, params := r.params.getD s.params }
      match r.shows with
      | some asTable => showSettings asTable
      | none => pure ()
      setStatus 0
    | .error option =>
      let message := if Text.startsWith ['-', 'o', ' '] option then
          option.drop 3 ++ octets ": invalid option name"
        else option ++ octets (": invalid option\nset: usage: set [-abefhkmnptuvxBCEHPT] " ++
          "[-o option-name] [--] [-] [arg ...]")
      failsHard "set" (octets "Illegal option " ++ option) (2, message)

/-- Drops parameters. -/
def shiftBuiltin (args : List Octets) : Eval Unit := do
  let scope ← getScope
  let text := args.head?.getD ['1']
  match testNumber text with
  | .error _ =>
    failsHard "shift" (octets "Illegal number: " ++ text)
      (1, text ++ octets ": numeric argument required")
  | .ok n =>
    if n < 0 then
      failsHard "shift" (octets "Illegal number: " ++ text)
        (1, text ++ octets ": shift count out of range")
    else if n ≤ scope.params.length then
      modifyScope fun s => { s with params := s.params.drop n.toNat }
      setStatus 0
    else match scope.dialect with
      | .plain => failsHard "shift" (octets "can't shift that many") (1, [])
      | .extended =>
        if scope.options.isOn "shift_verbose" then
          complainAs "shift" (text ++ octets ": shift count out of range")
        setStatus 1

/-- Changes further options, or shows them. -/
def shoptBuiltin (args : List Octets) : Eval Unit := do
  let scope ← getScope
  let (options, names) := leadingOptions ['-'] args
  let letters := options.flatMap (·.2)
  let has (c : Char) : Bool := letters.contains c
  let all := if has 'o' then (settings .extended).map (·.1) else habits
  match letters.find? fun c => !(['o', 'p', 'q', 's', 'u'].contains c) with
  | some c =>
    complainAs "shopt" (['-', c] ++ octets
      ": invalid option\nshopt: usage: shopt [-pqsu] [-o] [optname ...]")
    setStatus 2
    return
  | none => pure ()
  if has 's' && has 'u' then
    complainAs "shopt" (octets "cannot set and unset shell options simultaneously")
    setStatus 1
    return
  setStatus 0
  let write (name : String) : Eval Unit := do
    let on := scope.options.isOn name
    if has 'q' then return
    let asCommand := if has 'o' then (if on then "set -o " else "set +o ")
      else if on then "shopt -s " else "shopt -u "
    emit 1 (if has 'p' then octets (asCommand ++ name ++ "\n")
      else settingRow .extended name on)
  if names.isEmpty then
    (all.filter fun n => if has 's' then scope.options.isOn n
      else if has 'u' then !scope.options.isOn n else true).forM write
  else names.forM fun cs => do
    let name := plainString cs
    if !all.contains name then
      complainAs "shopt" (cs ++ octets (if has 'o' then ": invalid option name"
        else ": invalid shell option name"))
      setStatus 1
    else if has 's' || has 'u' then
      modifyScope fun s => { s with options := s.options.turn (has 's') name }
    else
      write name
      if !scope.options.isOn name then setStatus 1

end MatrixFlow.Script
