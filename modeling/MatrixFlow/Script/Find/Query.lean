import MatrixFlow.Script.Regex
import MatrixFlow.Script.Tool.Listing

/-!
# Questions about files

A question about a file is made of tests and actions, with words between them.

* `FileQuery`: a question.
* `FileTest`, `FileAction`: what is asked and what is done.
* `readQuery`: the question that words are.
* `QueryFault`: why words are no question.
-/

namespace MatrixFlow.Script

/-- How a number compares with another one. -/
inductive SizeRule where
  | exactly
  | above
  | below
deriving DecidableEq, Repr

/-- The number is as the rule says. -/
def SizeRule.holds (r : SizeRule) (n limit : Nat) : Bool :=
  match r with
  | exactly => n = limit
  | above => n > limit
  | below => n < limit

/-- What is asked about a file. -/
inductive FileTest where
  | answer (b : Bool)
  | name (pattern : Pattern) (ignoreCase : Bool)
  | path (pattern : Pattern) (ignoreCase : Bool)
  | target (pattern : Pattern) (ignoreCase : Bool)
  | regex (r : Regex) (ignoreCase : Bool)
  | kind (letters : List Char)
  /-- The kind where links are taken the other way. -/
  | otherKind (letters : List Char)
  | empty
  | executable
  /-- The size in units, rounded up. -/
  | size (rule : SizeRule) (limit unit : Nat)
  | links (rule : SizeRule) (limit : Nat)
  /-- How many minutes or days ago it was changed. -/
  | age (rule : SizeRule) (limit : Nat)
  | owner (id : Nat)
  | rightsAre (rights : Nat)
  | rightsHave (rights : Nat)
  | rightsMeet (rights : Nat)
  | same (path : Octets)

/-- What is done with a file. -/
inductive FileAction where
  | print (ending : Octets)
  | format (text : Octets)
  | printTo (file : Octets) (ending : Octets)
  | delete
  | prune
  | quit
  /-- Runs a command for each file; in its directory if it is `inside`. -/
  | run (inside asks : Bool) (words : List Octets)
  /-- Runs a command once for all files; commands have numbers. -/
  | runOnce (number : Nat) (words : List Octets)

/-- A question about a file. -/
inductive FileQuery where
  | test (t : FileTest)
  | act (a : FileAction)
  | both (a b : FileQuery)
  | either (a b : FileQuery)
  | negated (a : FileQuery)
  /-- The answer to the second question; the first is asked too. -/
  | series (a b : FileQuery)

/-- Why words are no question. -/
inductive QueryFault where
  | unknown (word : Octets)
  | missingArgument (word : Octets)
  /-- A path comes too late; `named` tells the test in front of it if there is a file there. -/
  | latePath (path : Octets) (named : Option Octets)
  | nothingBefore (word : Octets)
  | nothingBehind (word : Octets)
  | openGroup
  | closedGroup
  | emptyGroup
  | kindUnknown (word text : Octets)
  | kindMissing (word : Octets)
  | kindsJoined (word : Octets)
  | kindLast (word : Octets)
  | badDepth (word text : Octets)
  | badSize (text : Octets)
  | sizeMissing
  | badRights (text : Octets)
  | badNumber (word text : Octets)
  | unknownUser (name : Octets)
  | unknownGroup (name : Octets)
  | badDate (text : Octets)
  | missingFile (path : Octets) (e : FileFault)
  | badRegex (f : RegexFault)
  | unknownForm (name : Octets)
deriving DecidableEq, Repr

/-- A word between a grave accent and an apostrophe. -/
def oldQuoted (cs : Octets) : Octets := '\x60' :: cs ++ ['\x27']

/-- The fault in words. -/
def QueryFault.text : QueryFault → Octets
  | unknown word => octets "unknown predicate " ++ oldQuoted word
  | missingArgument word => octets "missing argument to " ++ oldQuoted word
  | latePath path _ => octets "paths must precede expression: " ++ oldQuoted path
  | nothingBefore word =>
    octets "invalid expression; you have used a binary operator " ++ quotedPath word ++
      octets " with nothing before it."
  | nothingBehind word => octets "expected an expression after " ++ quotedPath word
  | openGroup => octets
      "invalid expression; I was expecting to find a \x27)\x27 somewhere but did not see one."
  | closedGroup => octets "you have too many \x27)\x27"
  | emptyGroup => octets "invalid expression; empty parentheses are not allowed."
  | kindUnknown word text => octets "Unknown argument to " ++ word ++ octets ": " ++ text
  | kindMissing word =>
    octets "Arguments to " ++ word ++ octets " should contain at least one letter"
  | kindsJoined word =>
    octets "Must separate multiple arguments to " ++ word ++ octets " using: \x27,\x27"
  | kindLast word =>
    octets "Last file type in list argument to " ++ word ++
      octets " is missing, i.e., list is ending on: \x27,\x27"
  | badDepth word text =>
    octets "Expected a positive decimal integer argument to " ++ word ++ octets ", but got " ++
      quotedPath text
  | badSize text => octets "invalid -size type " ++ oldQuoted text
  | sizeMissing => octets "invalid null argument to -size"
  | badRights text => octets "invalid mode " ++ quotedPath text
  | badNumber word text =>
    octets "invalid argument " ++ oldQuoted text ++ octets " to " ++ oldQuoted word
  | unknownUser name => quotedPath name ++ octets " is not the name of a known user"
  | unknownGroup name => quotedPath name ++ octets " is not the name of an existing group"
  | badDate text =>
    octets "I cannot figure out how to interpret " ++ quotedPath text ++
      octets " as a date or time"
  | missingFile path e => quotedPath path ++ octets (": " ++ e.text)
  | badRegex f => octets f.text
  | unknownForm name => octets "Unknown regular expression type " ++ quotedPath name

/-! ## Reading -/

/-- A pattern in which a backslash takes away the meaning of the next character. -/
def escapedPattern (cs : Octets) : Pattern :=
  Pattern.ofMarked false (marks cs)
where
  /-- The characters of a pattern. -/
  marks : Octets → List Marked
    | '\\' :: c :: r => ⟨c, true⟩ :: marks r
    | c :: r => ⟨c, false⟩ :: marks r
    | [] => []

/-- The forms of expressions that have names. -/
def expressionForm? (name : Octets) : Option RegexForm :=
  match plainString name with
  | "posix-extended" | "egrep" | "posix-egrep" | "awk" | "gnu-awk" | "posix-awk" =>
    some RegexForm.edit
  | "posix-basic" | "grep" | "sed" | "ed" | "posix-minimal-basic" => some RegexForm.basic
  | _ => none

/-- An expression whose groups and alternatives stand behind backslashes, and whose repetitions do
not, as an extended one. -/
def extendedExpression : Octets → Octets
  | '\\' :: c :: r =>
    if c == '(' || c == ')' || c == '|' then c :: extendedExpression r
    else '\\' :: c :: extendedExpression r
  | c :: r =>
    if c == '(' || c == ')' || c == '|' || c == '\x7b' || c == '\x7d' then
      '\\' :: c :: extendedExpression r
    else c :: extendedExpression r
  | [] => []

/-- A number with a sign that tells how to compare. -/
def ruledNumber (cs : Octets) : SizeRule × Octets :=
  match cs with
  | '+' :: r => (.above, r)
  | '-' :: r => (.below, r)
  | r => (.exactly, r)

/-- How many bytes a unit of sizes has. -/
def sizeUnit? : Octets → Option Nat
  | [] | ['b'] => some 512
  | ['c'] => some 1
  | ['w'] => some 2
  | ['k'] => some 1024
  | ['M'] => some 1048576
  | ['G'] => some 1073741824
  | _ => none

/-- The rights that letters name, one clause for each comma. -/
def rightsOf? (cs : Octets) : Option Nat :=
  if !cs.isEmpty && cs.all (digitValue? 8 · |>.isSome) then some (leadingNumber 8 cs.length cs).1
  else (Text.splitOn ',' cs).foldlM (fun rights clause =>
    let who := clause.takeWhile fun c => "ugoa".toList.contains c
    match clause.drop who.length with
    | sign :: letters =>
      if (sign == '+' || sign == '=') && letters.all "rwx".toList.contains then
        let places := [('u', 64), ('g', 8), ('o', 1)].filterMap fun (c, n) =>
          if who.isEmpty || who.contains c || who.contains 'a' then some n else none
        let bits := total ([('r', 4), ('w', 2), ('x', 1)].filterMap fun (c, n) =>
          if letters.contains c then some n else none)
        some (places.foldl (fun r p => Nat.lor r (bits * p)) rights)
      else none
    | [] => none) 0

/-- A part of a question. -/
inductive QueryToken where
  | leaf (q : FileQuery)
  | opens
  | close
  | not (word : Octets)
  | and (word : Octets)
  | or (word : Octets)
  | comma (word : Octets)

/-- What holds for the whole walk, as far as it has been read. -/
structure WalkPlan where
  tokens : List QueryToken
  /-- What is in a directory comes before it. -/
  depthFirst : Bool
  least : Nat
  most : Option Nat
  /-- Links are followed everywhere. -/
  follows : Bool
  /-- Links among the paths are followed. -/
  followsFirst : Bool
  /-- An action shows what is found. -/
  acts : Bool
  /-- How many commands run once for all files. -/
  batches : Nat
  form : Option RegexForm

/-- The letters of kinds of files. -/
def kindLetters (word text : Octets) : Except QueryFault (List Char) :=
  if text.isEmpty then .error (.kindMissing word)
  else letters text
where
  /-- Letters with commas between them. -/
  letters : Octets → Except QueryFault (List Char)
    | [] => .error (.kindLast word)
    | c :: r =>
      if !"bcdpfls".toList.contains c then .error (.kindUnknown word [c])
      else match r with
        | [] => .ok [c]
        | ',' :: more => (letters more).map (c :: ·)
        | _ => .error (.kindsJoined word)

/-- The words of a command up to its end, whether it runs once for all files, and what follows. -/
def commandWords : List Octets → Option (List Octets × Bool × List Octets)
  | [] => none
  | [';'] :: rest => some ([], false, rest)
  | ['\x7b', '\x7d'] :: ['+'] :: rest => some ([], true, rest)
  | word :: rest => (commandWords rest).map fun (words, once, rest) => (word :: words, once, rest)

/-- A word begins a question. -/
def beginsQuery (word : Octets) : Bool :=
  match word with
  | ['-'] => false
  | '-' :: _ | ['('] | [')'] | ['!'] => true
  | _ => false

/-- A test that takes an argument. -/
def argumentTest (plan : WalkPlan) (files : FileTree) (place : Octets → List String)
    (word text : Octets) : Except QueryFault (Option FileTest) := do
  let number (cs : Octets) : Except QueryFault (SizeRule × Nat) :=
    let (rule, digits) := ruledNumber cs
    match natural? digits with
    | some n => .ok (rule, n)
    | none => .error (.badNumber word text)
  match plainString (word.drop 1) with
  | "name" => return some (.name (escapedPattern text) false)
  | "iname" => return some (.name (escapedPattern text) true)
  | "path" | "wholename" => return some (.path (escapedPattern text) false)
  | "ipath" | "iwholename" => return some (.path (escapedPattern text) true)
  | "lname" => return some (.target (escapedPattern text) false)
  | "ilname" => return some (.target (escapedPattern text) true)
  | "regex" | "iregex" =>
    let read := match plan.form with
      | some form => Regex.ofText form text
      | none => Regex.ofText .edit (extendedExpression text)
    match read with
    | .ok r => return some (.regex r (word.take 2 == ['-', 'i']))
    | .error f => throw (.badRegex f)
  | "type" => return some (.kind (← kindLetters word text))
  | "xtype" => return some (.otherKind (← kindLetters word text))
  | "size" =>
    if text.isEmpty then throw .sizeMissing
    let (rule, body) := ruledNumber text
    let digits := body.takeWhile Char.isDigit
    match natural? digits, sizeUnit? (body.drop digits.length) with
    | some n, some unit => return some (.size rule n unit)
    | _, _ => throw (.badSize (text.drop (text.length - 1)))
  | "links" =>
    let (rule, n) ← number text
    return some (.links rule n)
  | "mmin" | "amin" | "cmin" | "mtime" | "atime" | "ctime" | "used" =>
    let (rule, n) ← number text
    return some (.age rule n)
  | "uid" | "gid" =>
    let (rule, n) ← number text
    return some (.answer (rule.holds 0 n))
  | "inum" =>
    let _ ← number text
    return some (.answer false)
  | "user" =>
    match natural? text with
    | some n => return some (.owner n)
    | none => if text == octets "root" then return some (.owner 0) else throw (.unknownUser text)
  | "group" =>
    match natural? text with
    | some n => return some (.owner n)
    | none => if text == octets "root" then return some (.owner 0) else throw (.unknownGroup text)
  | "perm" =>
    let (build, body) : (Nat → FileTest) × Octets := match text with
      | '-' :: r => (.rightsHave, r)
      | '/' :: r => (.rightsMeet, r)
      | r => (.rightsAre, r)
    match rightsOf? body with
    | some rights => return some (build rights)
    | none => throw (.badRights text)
  | "newer" | "anewer" | "cnewer" | "samefile" =>
    match files.find (place text) with
    | .ok _ =>
      return some (if word == octets "-samefile" then .same text else .answer false)
    | .error e => throw (.missingFile text e)
  | "newermt" =>
    if text.any Char.isDigit then return some (.answer true) else throw (.badDate text)
  | _ => return none

/-- A test without an argument. -/
def plainFileTest? : String → Option FileTest
  | "true" | "readable" | "writable" => some (.answer true)
  | "false" | "nouser" | "nogroup" => some (.answer false)
  | "empty" => some .empty
  | "executable" => some .executable
  | _ => none

/-- Words that change nothing here. -/
def idleWords : List String :=
  ["warn", "nowarn", "noleaf", "daystart", "xdev", "mount", "ignore_readdir_race",
    "noignore_readdir_race"]

/-- Words that take an argument. -/
def argumentWords : List String :=
  ["name", "iname", "path", "wholename", "ipath", "iwholename", "lname", "ilname", "regex",
    "iregex", "type", "xtype", "size", "links", "mmin", "amin", "cmin", "mtime", "atime", "ctime",
    "used", "uid", "gid", "inum", "user", "group", "perm", "newer", "anewer", "cnewer",
    "samefile", "newermt", "maxdepth", "mindepth", "regextype", "printf", "fprint", "fprint0"]

/-- Reads the words of a question one after the other. -/
def readTokens (files : FileTree) (place : Octets → List String) :
    (fuel : Nat) → (last : Option Octets) → WalkPlan → List Octets → Except QueryFault WalkPlan
  | 0, _, plan, _ => .ok plan
  | _, _, plan, [] => .ok { plan with tokens := plan.tokens.reverse }
  | fuel + 1, last, plan, word :: rest => do
    let goOn (plan : WalkPlan) (rest : List Octets) : Except QueryFault WalkPlan :=
      readTokens files place fuel (some word) plan rest
    let add (t : QueryToken) : WalkPlan := { plan with tokens := t :: plan.tokens }
    let always := add (.leaf (.test (.answer true)))
    let act (a : FileAction) : WalkPlan :=
      { plan with tokens := .leaf (.act a) :: plan.tokens, acts := true }
    match word with
    | ['('] => goOn (add .opens) rest
    | [')'] => goOn (add .close) rest
    | ['!'] => goOn (add (.not word)) rest
    | [','] => goOn (add (.comma word)) rest
    | ['-'] => throw (.unknown word)
    | '-' :: name =>
      let name := plainString name
      if name = "not" then goOn (add (.not word)) rest
      else if name = "a" || name = "and" then goOn (add (.and word)) rest
      else if name = "o" || name = "or" then goOn (add (.or word)) rest
      else if idleWords.contains name then goOn always rest
      else if name = "depth" || name = "d" then goOn { always with depthFirst := true } rest
      else if name = "follow" then goOn { always with follows := true } rest
      else if ["exec", "ok", "execdir", "okdir"].contains name then
        match commandWords rest with
        | none => throw (.missingArgument word)
        | some ([], false, _) => throw (.missingArgument word)
        | some (words, once, rest) =>
          if once then
            goOn { act (.runOnce plan.batches words) with batches := plan.batches + 1 } rest
          else goOn (act (.run (name.endsWith "dir") (name.startsWith "ok") words)) rest
      else if argumentWords.contains name then
        match rest with
        | [] => throw (.missingArgument word)
        | text :: rest =>
          match name, natural? text with
          | "maxdepth", some n => goOn { always with most := some n } rest
          | "mindepth", some n => goOn { always with least := n } rest
          | "maxdepth", none | "mindepth", none => throw (.badDepth word text)
          | "regextype", _ =>
            match expressionForm? text with
            | some form => goOn { always with form := some form } rest
            | none =>
              if ["emacs", "findutils-default"].contains (plainString text) then
                goOn { always with form := none } rest
              else throw (.unknownForm text)
          | "printf", _ => goOn (act (.format text)) rest
          | "fprint", _ => goOn (act (.printTo text ['\n'])) rest
          | "fprint0", _ => goOn (act (.printTo text ['\x00'])) rest
          | _, _ =>
            match ← argumentTest plan files place word text with
            | some t => goOn (add (.leaf (.test t))) rest
            | none => throw (.unknown word)
      else match name with
        | "print" | "ls" => goOn (act (.print ['\n'])) rest
        | "print0" => goOn (act (.print ['\x00'])) rest
        | "delete" => goOn { act .delete with depthFirst := true } rest
        | "prune" => goOn (add (.leaf (.act .prune))) rest
        | "quit" => goOn (add (.leaf (.act .quit))) rest
        | _ =>
          match plainFileTest? name with
          | some t => goOn (add (.leaf (.test t))) rest
          | none => throw (.unknown word)
    | path =>
      let there := match files.find (place path) with
        | .ok _ => true
        | .error _ => false
      throw (.latePath path (if there then last else none))

/-- A reader of tokens. -/
abbrev QueryReader := StateT (List QueryToken) (Except QueryFault)

namespace QueryReader

mutual

/-- Questions with commas between them. -/
def series (fuel : Nat) (before : Option Octets) : QueryReader FileQuery :=
  match fuel with
  | 0 => throw .openGroup
  | fuel + 1 => do
    let first ← either fuel before
    match ← get with
    | .comma word :: rest =>
      set rest
      return .series first (← series fuel (some word))
    | _ => return first

/-- Questions of which one counts. -/
def either (fuel : Nat) (before : Option Octets) : QueryReader FileQuery :=
  match fuel with
  | 0 => throw .openGroup
  | fuel + 1 => do
    let first ← both fuel before
    match ← get with
    | .or word :: rest =>
      set rest
      return .either first (← either fuel (some word))
    | _ => return first

/-- Questions that all count. -/
def both (fuel : Nat) (before : Option Octets) : QueryReader FileQuery :=
  match fuel with
  | 0 => throw .openGroup
  | fuel + 1 => do
    let first ← single fuel before
    match ← get with
    | .and word :: rest =>
      set rest
      return .both first (← both fuel (some word))
    | .leaf _ :: _ | .opens :: _ | .not _ :: _ => return .both first (← both fuel none)
    | _ => return first

/-- One question; `before` is the word in front of it. -/
def single (fuel : Nat) (before : Option Octets) : QueryReader FileQuery :=
  match fuel with
  | 0 => throw .openGroup
  | fuel + 1 => do
    match ← get with
    | [] => throw (match before with
        | some word => .nothingBehind word
        | none => .openGroup)
    | .leaf q :: rest =>
      set rest
      return q
    | .not word :: rest =>
      set rest
      return .negated (← single fuel (some word))
    | .and word :: _ | .or word :: _ | .comma word :: _ => throw (.nothingBefore word)
    | .close :: _ => throw .closedGroup
    | .opens :: .close :: _ => throw .emptyGroup
    | .opens :: rest =>
      set rest
      let q ← series fuel none
      match ← get with
      | .close :: rest =>
        set rest
        return q
      | _ => throw .openGroup

end

end QueryReader

/-- The question that words are, with what holds for the whole walk. Without an action, what is
found is shown. -/
def readQuery (files : FileTree) (place : Octets → List String) (start : WalkPlan)
    (words : List Octets) : Except QueryFault (WalkPlan × FileQuery) := do
  let plan ← readTokens files place (words.length + 1) none start words
  let print : FileQuery := .act (.print ['\n'])
  if plan.tokens.isEmpty then return (plan, print)
  let (q, rest) ← (QueryReader.series (4 * plan.tokens.length + 4) none).run plan.tokens
  if !rest.isEmpty then throw .closedGroup
  return (plan, if plan.acts then q else .both q print)

end MatrixFlow.Script
