import MatrixFlow.Script.Brace
import MatrixFlow.Script.Escape
import MatrixFlow.Script.Glob
import MatrixFlow.Script.Quotation

/-!
# Expanding words

A word is expanded into pieces: characters that may be quoted and may separate fields, and marks
between fields. The pieces are then split into fields, patterns become the paths that match, and
quotation marks are gone.

* `Piece`: what a word is expanded into.
* `Subject`: what a parameter stands for, one text or several.
* `expandFields`: the fields that words become.
* `expandText`: the text that a word becomes where fields make no sense.
-/

namespace MatrixFlow.Script

/-- What a word is expanded into. -/
inductive Piece where
  | char (c : Char) (quoted separates : Bool)
  /-- The end of a field. -/
  | gap
  /-- Quotation marks, which make a field even with nothing between them. -/
  | mark
deriving DecidableEq, Repr

/-- Runs a script, whose first line has a number, and takes its output. -/
abbrev Substitute := (line : Nat) → Octets → Eval Octets

/-! ## Pieces -/

/-- The pieces of a text. -/
def piecesOf (quoted : Bool) (cs : Octets) : List Piece :=
  cs.map fun c => .char c quoted (!quoted)

/-- The pieces of several texts. Each is a field of its own, unless they are joined between
quotation marks. -/
def piecesOfAll (scope : Scope) (quoted joined : Bool) (values : List Octets) : List Piece :=
  if quoted && joined then piecesOf true (Text.joinWith scope.joint values)
  else
    let each := values.map fun p =>
      if quoted then .mark :: piecesOf true p else piecesOf false p
    (each.intersperse [.gap]).flatten

/-- The text of pieces. -/
def pieceText (pieces : List Piece) : Octets :=
  pieces.filterMap fun p => match p with
    | .char c _ _ => some c
    | .gap => some ' '
    | .mark => none

/-- The marked characters of pieces. -/
def pieceMarks (pieces : List Piece) : List Marked :=
  pieces.filterMap fun p => match p with
    | .char c quoted _ => some ⟨c, quoted⟩
    | .gap => some ⟨' ', false⟩
    | .mark => none

/-- Pieces that come from a parameter without quotation marks can separate fields. -/
def separating (quoted : Bool) (pieces : List Piece) : List Piece :=
  pieces.map fun p => match p with
    | .char c q _ => .char c (q || quoted) (!q && !quoted)
    | p => p

/-! ## Parameters -/

/-- What a parameter stands for. -/
inductive Subject where
  | one (place : Place) (value : Option Octets)
  /-- Several texts; the elements of a variable come with their numbers. -/
  | many (shown : String) (values : List (Int × Octets)) (joined : Bool)

namespace Subject

/-- There is no value. With `colon`, an empty one counts as none. -/
def isAbsent (colon : Bool) : Subject → Bool
  | one _ none => true
  | one _ (some v) => colon && v.isEmpty
  | many _ values _ => values.isEmpty || (colon && values.length = 1 && values.all (·.2.isEmpty))

/-- How the parameter is named in messages. -/
def shown : Subject → Octets
  | one place _ => place.text
  | many name _ _ => octets name

end Subject

/-- Elements by their keys, as a subject. -/
def subjectOfElements (shown : String) (items : List (Key × Octets)) (joined : Bool) : Subject :=
  .many shown (items.zipIdx.map fun ((key, v), i) => match key with
    | .number n => (n, v)
    | .name _ => ((i : Int), v)) joined

/-- The subject of a name and perhaps the text of an index, as a value names it. -/
def namedSubject (scope : Scope) (text : Octets) : Subject :=
  let name := text.takeWhile (· != '[')
  let whole := plainString name
  match text.drop name.length with
  | '[' :: r =>
    let inner := (takeIndex 0 r).elim [] (·.1)
    if inner == ['@'] || inner == ['*'] then
      let items := ((scope.binding? (scope.meant whole)).map fun v => v.content.elements).getD []
      subjectOfElements whole items (inner == ['*'])
    else
      let key := if scope.isNamed whole then Key.name inner
        else Key.number ((decimal? inner).getD (((scope.value? (plainString inner)).bind
          decimal?).getD 0))
      .one ⟨whole, some key⟩ (scope.at? ⟨whole, some key⟩)
  | _ =>
    if whole = "@" || whole = "*" then
      .many whole (scope.params.zipIdx.map fun (v, i) => ((i : Int) + 1, v)) (whole = "*")
    else .one ⟨whole, none⟩ (scope.parameter? whole)

/-- The value of a subject that is one text. Its absence is an error when values are needed. -/
def needed (subject : Subject) : Eval Octets := do
  match subject with
  | .one _ (some value) => return value
  | .many _ values _ => return Text.joinWith [' '] (values.map (·.2))
  | .one place none =>
    let scope ← getScope
    if scope.options.needsValues then
      match scope.dialect with
      | .plain => fault 2 (place.text ++ octets ": parameter not set")
      | .extended =>
        let sign : Octets := if (place.name.toNat?).isSome then ['$'] else []
        fault 127 (sign ++ place.text ++ octets ": unbound variable")
    else return []

/-- What stands in for a missing value is said to be missing. -/
def missingText (dialect : Dialect) (colon : Bool) : Octets :=
  match dialect, colon with
  | _, false => octets "parameter not set"
  | .plain, true => octets "parameter not set or null"
  | .extended, true => octets "parameter null or not set"

/-- The content of a variable as declarations show it. -/
def Content.shown : Content → Option Octets
  | .nothing => none
  | .text cs => some (declaredValue cs)
  | .numbered items =>
    some (['('] ++ Text.joinWith [' '] (items.map fun (n, v) =>
      octets ("[" ++ toString n ++ "]=") ++ declaredValue v) ++ [')'])
  | .named items =>
    let key (k : Octets) : Octets :=
      let simple (c : Char) : Bool :=
        isNameRest c || ['-', '.', '/', ':', '@', '%', '+', ','].contains c
      if !k.isEmpty && k.all simple then k else declaredValue k
    some (['('] ++ items.flatMap (fun (k, v) =>
      ['['] ++ key k ++ [']', '='] ++ declaredValue v ++ [' ']) ++ [')'])

/-- The letters that tell how a variable is kept. -/
def Variable.flags (v : Variable) : Octets :=
  let kind := match v.content with
    | .numbered _ => ['a']
    | .named _ => ['A']
    | _ => []
  kind ++ [(v.computed, 'i'), (v.letters == .lower, 'l'), (v.stands, 'n'), (v.fixed, 'r'),
    (v.letters == .upper, 'u'), (v.exported, 'x')].filterMap fun (on, c) =>
      if on then some c else none

/-- The command that declares a variable as it is. -/
def Variable.declaration (v : Variable) : Octets :=
  let flags := if v.flags.isEmpty then ['-'] else v.flags
  octets "declare -" ++ flags ++ ' ' :: octets v.name ++
    match v.content.shown with
    | some cs => '=' :: cs
    | none => []

/-! ## Rules for one text -/

/-- A text with a pattern replaced. An ampersand that is not quoted stands for the match. -/
def replacedText (groups everywhere : Bool) (pattern replacement : List Marked) (cs : Octets) :
    Octets :=
  let put (found : Octets) : Octets :=
    replacement.flatMap fun m => if m.char == '&' && !m.quoted then found else [m.char]
  match everywhere, pattern with
  | false, ⟨'#', false⟩ :: rest => (Pattern.ofMarked groups rest).replaceEdge put false cs
  | false, ⟨'%', false⟩ :: rest => (Pattern.ofMarked groups rest).replaceEdge put true cs
  | _, [] => cs
  | _, _ => (Pattern.ofMarked groups pattern).replaceIn put everywhere 0 cs

/-- A text with the case of letters changed, of those that a pattern matches if there is one. -/
def letteredText (upper all : Bool) (pattern : Option Pattern) (cs : Octets) : Octets :=
  let change (c : Char) : Char :=
    if pattern.all fun p => p.matchesText [c] then (if upper then c.toUpper else c.toLower) else c
  match all, cs with
  | true, cs => cs.map change
  | false, c :: r => change c :: r
  | false, [] => []

/-- Another form of a text, by its letter. -/
def formText (letter : Char) (cs : Octets) : Octets :=
  match letter with
  | 'Q' | 'K' | 'k' => wordValue cs
  | 'U' => cs.map Char.toUpper
  | 'L' => cs.map Char.toLower
  | 'u' => letteredText true false none cs
  | 'E' => (EscapeRules.quotation.apply cs).1
  | _ => cs

/-- Bounds of a part of a parameter: where it begins, and how long it is if that is given. -/
def sliceBounds (name bounds : Octets) : Eval (Int × Option Int) := do
  match Text.cut? [':'] bounds with
  | some (a, b) =>
    let first ← computeAbout name a
    return (first, some (← computeAbout name b))
  | none => return (← computeAbout name bounds, none)

/-- A part of a text. -/
def slicedText (first : Int) (count : Option Int) (cs : Octets) : Eval Octets := do
  if first < 0 && cs.length < first.natAbs then return []
  let start := if first < 0 then cs.length - first.natAbs else first.toNat
  match count with
  | none => return cs.drop start
  | some count =>
    let stop : Int := if count < 0 then (cs.length : Int) + count else start + count
    if count < 0 && stop < start then
      fault 1 (octets (toString count ++ ": substring expression < 0"))
    else return (cs.take stop.toNat).drop start

/-- A part of several texts, by their numbers. -/
def slicedList (first : Int) (count : Option Int) (values : List (Int × Octets)) :
    Eval (List Octets) := do
  let last := (values.getLast?.map (·.1)).getD 0
  let first := if first < 0 then last + 1 + first else first
  let kept := if first < 0 then [] else (values.filter fun (n, _) => first ≤ n).map (·.2)
  match count with
  | none => return kept
  | some count =>
    if count < 0 then fault 1 (octets (toString count ++ ": substring expression < 0"))
    else return kept.take count.toNat

/-- What a parameter stands for, with the text of its index if it has one. -/
def subjectOf (name : String) (index : Option Octets) (indirect : Bool) : Eval Subject := do
  let scope ← getScope
  let own ← match index with
    | none => pure (namedSubject scope name.toList)
    | some text =>
      if text == ['@'] || text == ['*'] then
        let items := ((scope.binding? (scope.meant name)).map fun v => v.content.elements).getD []
        pure (subjectOfElements name items (text == ['*']))
      else if scope.isNamed name then
        pure (.one ⟨name, some (.name text)⟩ (scope.at? ⟨name, some (.name text)⟩))
      else do
        let n ← compute text
        pure (.one ⟨name, some (.number n)⟩ ((← getScope).at? ⟨name, some (.number n)⟩))
  if !indirect then return own
  match own with
  | .one _ (some value) =>
    let isParam := value.all Char.isDigit || value == ['@'] || value == ['*'] || value == ['#']
    if isParam || value.head?.any isNameStart then return namedSubject scope value
    else fault 1 (value ++ octets ": invalid variable name")
  | _ => fault 1 (octets name ++ octets ": invalid indirect expansion")

/-! ## Pieces of words -/

mutual

/-- The pieces of one part of a word. -/
def expandPart (substitute : Substitute) : WordPart → Eval (List Piece)
  | .text quoted cs =>
    return (if quoted then [.mark] else []) ++ cs.map fun c => .char c quoted false
  | .divider | .elements .. => return []
  | .command quoted line source => do
    let output ← substitute line source
    let kept := (output.reverse.dropWhile (· == '\n')).reverse.filter fun c => c != '\x00'
    return piecesOf quoted kept
  | .process line source => do
    let before := (← get).substituted
    let channel ← newSource (← substitute line source) none
    modify fun s => { s with substituted := before }
    let scope ← getScope
    let free := (List.range 54).find? fun n => (scope.channel? (63 - n)).isNone
    let descriptor := 63 - free.getD 0
    modifyScope fun s => s.redirect descriptor channel
    return piecesOf true (octets ("/dev/fd/" ++ toString descriptor))
  | .arithmetic quoted body => do
    let text := pieceText (← expandParts substitute body)
    let text := match (← getScope).dialect with
      | .plain => text
      | .extended => text.filter (· != '\x22')
    let value ← compute text
    return piecesOf quoted (octets (toString value))
  | .invalid source => do
    match (← getScope).dialect with
    | .plain => fault 2 (octets "Bad substitution")
    | .extended =>
      let name := (source.drop 2).takeWhile isNameRest
      let asked := (source.drop (2 + name.length)).head? == some '@'
      if asked && ((← getScope).value? (plainString name)).isNone then return []
      else fault 1 (source ++ octets ": bad substitution")
  | .param quoted name index indirect rule word => do
    let pieces ← expandParts substitute index
    let subject ← match rule with
      | .names _ | .keys => pure (Subject.many name [] false)
      | _ => subjectOf name (if index.isEmpty then none else some (pieceText pieces)) indirect
    let scope ← getScope
    let groups := scope.options.groups
    let whole : Eval (List Piece) := do
      match subject with
      | .one _ value => return piecesOf quoted (value.getD [])
      | .many _ values joined => return piecesOfAll scope quoted joined (values.map (·.2))
    let each (change : Octets → Octets) : Eval (List Piece) := do
      match subject with
      | .one .. => return piecesOf quoted (change (← needed subject))
      | .many _ values joined =>
        return piecesOfAll scope quoted joined (values.map fun (_, v) => change v)
    match rule with
    | .value =>
      match subject with
      | .one .. => return piecesOf quoted (← needed subject)
      | .many .. => whole
    | .length =>
      let count ← match subject with
        | .many _ values _ => pure values.length
        | .one .. => List.length <$> needed subject
      return piecesOf quoted (octets (toString count))
    | .orElse colon =>
      if subject.isAbsent colon then
        return separating quoted (← expandParts substitute word)
      else whole
    | .instead colon =>
      if subject.isAbsent colon then return []
      else return separating quoted (← expandParts substitute word)
    | .assign colon =>
      if subject.isAbsent colon then
        let text := pieceText (← expandParts substitute word)
        match subject with
        | .one place _ =>
          if (nameOf place).isSome then assignPlace place false text
          else fault 1 (['$'] ++ place.text ++ octets ": cannot assign in this way")
        | .many .. => fault 1 (subject.shown ++ octets ": bad array subscript")
        return piecesOf quoted text
      else whole
    | .demand colon =>
      if subject.isAbsent colon then
        let text := pieceText (← expandParts substitute word)
        let text := if text.isEmpty then missingText scope.dialect colon else text
        fault 127 (subject.shown ++ [':', ' '] ++ text)
      else whole
    | .dropStart longest =>
      let pattern := Pattern.ofMarked groups (pieceMarks (← expandParts substitute word))
      each fun v => v.drop ((pattern.matchStart? longest v).getD 0)
    | .dropEnd longest =>
      let pattern := Pattern.ofMarked groups (pieceMarks (← expandParts substitute word))
      each fun v => v.take (v.length - (pattern.matchEnd? longest v).getD 0)
    | .slice =>
      let (first, count) ← sliceBounds subject.shown (pieceText (← expandParts substitute word))
      match subject with
      | .one .. => return piecesOf quoted (← slicedText first count (← needed subject))
      | .many shown values joined =>
        let values := if shown = "@" || shown = "*" then (0, scope.name) :: values else values
        return piecesOfAll scope quoted joined (← slicedList first count values)
    | .replace everywhere =>
      let (before, after) ← expandDivided substitute word
      each (replacedText groups everywhere before after)
    | .letters upper all =>
      let marks := pieceMarks (← expandParts substitute word)
      let pattern := if marks.isEmpty then none else some (Pattern.ofMarked groups marks)
      each (letteredText upper all pattern)
    | .keys =>
      let items := ((scope.binding? (scope.meant name)).map fun v => v.content.elements).getD []
      let keys := items.map fun (key, _) => match key with
        | .number n => octets (toString n)
        | .name k => k
      let joined := match index with
        | [.text _ ['*']] => true
        | _ => false
      return piecesOfAll scope quoted joined keys
    | .names joined =>
      let names := (scope.vars.filter fun v => v.name.startsWith name).map fun v => octets v.name
      return piecesOfAll scope quoted joined (names.mergeSort octetsUpTo)
    | .form letter =>
      let bound := match subject with
        | .one place _ => scope.binding? (scope.meant place.name)
        | .many shown _ _ => scope.binding? (scope.meant shown)
      match letter, bound with
      | 'A', some v =>
        let text := match v.flags, v.content with
          | [], .text cs => octets v.name ++ '=' :: wordValue cs
          | flags, .text cs =>
            octets "declare -" ++ flags ++ ' ' :: octets v.name ++ '=' :: wordValue cs
          | _, _ => v.declaration
        return piecesOf quoted text
      | 'a', some v => return piecesOf quoted v.flags
      | _, _ =>
        if subject.isAbsent false then return [] else each (formText letter)
where
  /-- The name of a place that can be assigned to. -/
  nameOf (place : Place) : Option String :=
    if place.name.toList.head?.any isNameStart then some place.name else none

/-- The pieces of a word. -/
def expandParts (substitute : Substitute) : List WordPart → Eval (List Piece)
  | [] => return []
  | part :: rest => do
    let first ← expandPart substitute part
    return first ++ (← expandParts substitute rest)

/-- The marked characters in front of the divider of a word, and those behind it. -/
def expandDivided (substitute : Substitute) : List WordPart → Eval (List Marked × List Marked)
  | [] => return ([], [])
  | .divider :: rest => do
    return ([], pieceMarks (← expandParts substitute rest))
  | part :: rest => do
    let first ← expandPart substitute part
    let (before, after) ← expandDivided substitute rest
    return (pieceMarks first ++ before, after)

end

/-- A tilde at the start of a text without quotation marks is the home directory. -/
def expandTilde (scope : Scope) : Word → Word
  | .text false ('~' :: r) :: rest =>
    let name := r.takeWhile fun c => c != '/' && c != ':'
    let home := match name with
      | [] =>
        let own := if scope.dialect = .extended then some (octets "/root") else none
        (scope.value? "HOME").or own
      | ['+'] => if scope.dialect = .extended then scope.value? "PWD" else none
      | ['-'] => if scope.dialect = .extended then scope.value? "OLDPWD" else none
      | _ => if name == octets "root" then some (octets "/root") else none
    match home with
    | some home =>
      if name.length < r.length || rest.isEmpty then
        .text true home :: .text false (r.drop name.length) :: rest
      else .text false ('~' :: r) :: rest
    | none => .text false ('~' :: r) :: rest
  | word => word

/-- In the value of an assignment, a tilde behind a colon is the home directory too. -/
def expandTildes (scope : Scope) (word : Word) : Word :=
  match word with
  | [.text false cs] =>
    let pieces := (Text.splitOn ':' cs).map fun piece => expandTilde scope [.text false piece]
    (pieces.intersperse [.text false [':']]).flatten
  | word => expandTilde scope word

/-- The pieces of a word. -/
def expandWord (substitute : Substitute) (word : Word) : Eval (List Piece) := do
  expandParts substitute (expandTilde (← getScope) word)

/-! ## Fields -/

/-- Fields that are being gathered. -/
structure Gathering where
  /-- The fields that are complete, the last one first. -/
  fields : List (List Marked)
  /-- The field that has begun, reversed. -/
  current : Option (List Marked)
  /-- The last field was ended by a blank. -/
  afterBlank : Bool

namespace Gathering

/-- Adds a character to the field. -/
def add (g : Gathering) (m : Marked) : Gathering :=
  { g with current := some (m :: g.current.getD []), afterBlank := false }

/-- Ends the field, if one has begun. -/
def close (g : Gathering) : Gathering :=
  match g.current with
  | some field => ⟨field.reverse :: g.fields, none, false⟩
  | none => g

/-- Takes a piece. A blank separates fields, and so does any other separator, which also ends a
field that has nothing in it. -/
def take (separators : Octets) (g : Gathering) : Piece → Gathering
  | .gap => g.close
  | .mark => { g with current := some (g.current.getD []), afterBlank := false }
  | .char c quoted separates =>
    if separates && separators.contains c then
      if c == ' ' || c == '\t' || c == '\n' then
        if g.current.isSome then { g.close with afterBlank := true } else g
      else if g.current.isSome then g.close
      else if g.afterBlank then { g with afterBlank := false }
      else { g with fields := [] :: g.fields }
    else g.add ⟨c, quoted⟩

end Gathering

/-- The fields that pieces make. -/
def fieldsOf (separators : Octets) (pieces : List Piece) : List (List Marked) :=
  ((pieces.foldl (Gathering.take separators) ⟨[], none, false⟩).close).fields.reverse

/-! ## Words -/

/-- The fields that words become. -/
def expandFields (substitute : Substitute) : List Word → Eval (List Octets)
  | [] => return []
  | word :: rest => do
    let scope ← getScope
    let pieces ← (braceWords scope.dialect word).mapM (expandWord substitute)
    let separators := (← getScope).separators
    let fields ← (pieces.flatMap (fieldsOf separators)).mapM fieldTexts
    return fields.flatten ++ (← expandFields substitute rest)

/-- The text that a word becomes. -/
def expandText (substitute : Substitute) (word : Word) : Eval Octets := do
  return pieceText (← expandWord substitute word)

/-- The text that the value of an assignment becomes. -/
def expandValue (substitute : Substitute) (word : Word) : Eval Octets := do
  return pieceText (← expandParts substitute (expandTildes (← getScope) word))

/-- The marked characters that a word becomes. -/
def expandMarks (substitute : Substitute) (word : Word) : Eval (List Marked) := do
  return pieceMarks (← expandWord substitute word)

/-- The pattern that a word becomes, with groups or without. -/
def expandPattern (substitute : Substitute) (groups : Bool) (word : Word) : Eval Pattern := do
  return Pattern.ofMarked groups (← expandMarks substitute word)

/-! ## Assignments -/

/-- The key that the text of an index is for a variable. -/
def keyOf (name : String) (text : Octets) : Eval Key := do
  if (← getScope).isNamed name then return .name text
  else return .number (← compute text)

/-- Gives a variable elements, behind the old ones if it `appends`. Elements without an index take
the next number; where elements have names, they are names and values in turn. -/
def assignItems (substitute : Substitute) (name : String) (appends : Bool)
    (items : List (Word × Word)) : Eval Unit := do
  let scope ← getScope
  let v := scope.bindingOrEmpty (scope.meant name)
  if v.fixed then refuseFixed v.name
  let start : Content := match appends, v.content with
    | true, .nothing => .numbered []
    | true, .text cs => .numbered [(0, cs)]
    | true, c => c
    | false, .named _ => .named []
    | false, _ => .numbered []
  modifyScope fun s => s.putVariable { v with content := start }
  let texts ← items.mapM fun (index, word) => do
    match index with
    | [] => return (none, ← expandFields substitute [word])
    | _ =>
      let key ← expandText substitute index
      return (some key, [← expandValue substitute word])
  if v.isNamed then
    let loose := (texts.filter (·.1.isNone)).flatMap (·.2)
    (pairs loose).forM fun (k, value) => assignPlace ⟨name, some (.name k)⟩ false value
    texts.forM fun (key, values) => do
      match key with
      | some k => assignPlace ⟨name, some (.name k)⟩ false (values.head?.getD [])
      | none => pure ()
  else
    let next := Content.nextNumber start.asNumbered
    let _ ← texts.foldlM (fun (next : Int) (key, values) => do
      match key with
      | some k =>
        let n ← compute k
        assignPlace ⟨name, some (.number n)⟩ false (values.head?.getD [])
        return n + 1
      | none =>
        values.zipIdx.forM fun (value, i) =>
          assignPlace ⟨name, some (.number (next + i))⟩ false value
        return next + values.length) (next : Int)
where
  /-- Names and values that take turns. -/
  pairs : List Octets → List (Octets × Octets)
    | k :: v :: rest => (k, v) :: pairs rest
    | [k] => [(k, [])]
    | [] => []

/-- Carries out an assignment. -/
def assign (substitute : Substitute) (a : Assignment) : Eval Unit := do
  match a.value, a.index with
  | [.elements _ _ items], [] => assignItems substitute a.name a.appends items
  | [.elements ..], index =>
    let key ← expandText substitute index
    fault 1 (octets a.name ++ '[' :: key ++ octets "]: cannot assign list to array member")
  | _, [] => assignPlace ⟨a.name, none⟩ a.appends (← expandValue substitute a.value)
  | _, _ =>
    let key ← keyOf a.name (← expandText substitute a.index)
    assignPlace ⟨a.name, some key⟩ a.appends (← expandValue substitute a.value)

end MatrixFlow.Script
