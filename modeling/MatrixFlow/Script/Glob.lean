import MatrixFlow.Script.Assign
import MatrixFlow.Script.Pattern

/-!
# Paths that match

`fieldPaths`: the paths among the files that a pattern matches, in order of their texts.
-/

namespace MatrixFlow.Script

/-- Marked characters between slashes. -/
def splitMarked : List Marked → List (List Marked)
  | [] => [[]]
  | m :: r =>
    if m.char == '/' then [] :: splitMarked r
    else match splitMarked r with
      | [] => [[m]]
      | piece :: pieces => (m :: piece) :: pieces

/-- A path that has been found: the text that names it, and the names on the way to it. -/
abbrev FoundPath := Octets × List String

/-- The directories below a path, with the path itself in front; those with a point in front only
on request. -/
def directoriesBelow (files : FileTree) (hidden : Bool) : (fuel : Nat) → FoundPath →
    List FoundPath
  | 0, found => [found]
  | fuel + 1, (text, path) =>
    let names := (files.list path).filter fun n =>
      files.isDirectory (path ++ [n]) && (hidden || !n.startsWith ".")
    (text, path) :: names.flatMap fun n =>
      directoriesBelow files hidden fuel (text ++ octets n ++ ['/'], path ++ [n])

/-- The paths that match patterns one below the other. Every directory also holds the names
`itself`. -/
def matchingPaths (options : Options) (files : FileTree) (itself : List String)
    (found : List FoundPath) : List (List Marked) → List FoundPath
  | [] => found
  | piece :: rest =>
    let isLast := rest.isEmpty
    let slash : Octets := if isLast then [] else ['/']
    let isDeep := options.deepStars && piece == [⟨'*', false⟩, ⟨'*', false⟩]
    let hidden := options.seesHidden || (piece.head?.map (·.char)) == some '.'
    let pattern := Pattern.ofMarked options.groups piece
    let namesIn (path : List String) : List String :=
      (itself ++ files.list path).filter fun name =>
        let cs := octets name
        pattern.matchesIn options.pathsIgnoreCase cs && (hidden || cs.head? != some '.')
    let next := if isDeep then
        let below := found.flatMap (directoriesBelow files options.seesHidden 64)
        if isLast then
          below.flatMap fun (text, path) =>
            let own := if text.isEmpty then [] else if found.any (·.1 == text) then [(text, path)]
              else []
            own ++ (namesIn path).map fun n => (text ++ octets n, path ++ [n])
        else below
      else found.flatMap fun (text, path) =>
        if Pattern.isOpen options.groups piece then
          let below := (namesIn path).map fun name =>
            (text ++ octets name ++ slash, Path.partsFrom path.reverse [name])
          below.filter fun (_, path) => isLast || files.isDirectory path
        else
          let name := piece.map (·.char)
          let path := Path.partsFrom path.reverse [plainString name]
          if (files.get? path).isSome then [(text ++ name ++ slash, path)] else []
    matchingPaths options files itself next rest

/-- A text stands in front of another one, or is the same. -/
def octetsUpTo : Octets → Octets → Bool
  | [], _ => true
  | _ :: _, [] => false
  | a :: r, b :: s => if a = b then octetsUpTo r s else a < b

/-- The paths that a pattern matches, in order. -/
def fieldPaths (scope : Scope) (files : FileTree) (field : List Marked) : List Octets :=
  let pieces := splitMarked field
  let absolute := (field.head?.map (·.char)) == some '/'
  let itself := match scope.dialect with
    | .plain => [".", ".."]
    | .extended => []
  let found := if absolute then
      matchingPaths scope.options files itself [(['/'], [])] (pieces.drop 1)
    else matchingPaths scope.options files itself [([], scope.directory)] pieces
  (found.map (·.1)).mergeSort octetsUpTo

/-- The texts that a field stands for: the paths that it matches, or itself. -/
def fieldTexts (field : List Marked) : Eval (List Octets) := do
  let s ← get
  let own := field.map (·.char)
  let options := s.scope.options
  if options.keepsPatterns || !Pattern.isOpen options.groups field then return [own]
  match fieldPaths s.scope s.files field with
  | [] =>
    if options.demandsPaths then
      complain (octets "no match: " ++ own)
      setStatus 1
      throw .exit
    return if options.dropsPatterns then [] else [own]
  | paths => return paths

end MatrixFlow.Script
