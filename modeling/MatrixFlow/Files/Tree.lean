import MatrixFlow.Text.Lines
import MatrixFlow.Text.Utf8

/-!
# Paths and trees of files

* `Path.join`: a path below another one, or by itself if it is absolute.
* `Path.parts`: the names that a path goes through, with the parent directories resolved.
* `FileTree`: files and directories by their paths from the root.
* `FileFault`: why a file cannot be used.
* `FileTree.read`, `FileTree.write`, `FileTree.append`: the contents of files.
* `FileTree.list`: the names in a directory.
-/

namespace MatrixFlow.Path

/-- A path starts at the root. -/
def isAbsolute (path : String) : Bool :=
  path.toList.head? == some '/'

/-- A path below another one. An absolute path stands by itself. -/
def join (base path : String) : String :=
  if isAbsolute path || base.isEmpty then path
  else if base.toList.getLast? = some '/' then base ++ path
  else base ++ "/" ++ path

/-- The names on the way, when the names `above`, the last one first, have been passed. -/
def partsFrom (above : List String) : List String → List String
  | [] => above.reverse
  | name :: rest =>
    if name = "" ∨ name = "." then partsFrom above rest
    else if name = ".." then partsFrom (above.drop 1) rest
    else partsFrom (name :: above) rest

/-- The names that a path goes through. -/
def parts (path : String) : List String :=
  partsFrom [] (path.piecesBy '/')

end MatrixFlow.Path

namespace MatrixFlow

/-- What stands at a path. -/
inductive FileEntry where
  | directory
  | file (bytes : List UInt8) (executable : Bool)
  /-- A device that holds so many zero bytes, and swallows what is written to it. -/
  | zeros (count : Nat)
  /-- A program of the system, which goes by the last name on the way to it. -/
  | program
  /-- A link to what stands at another path. -/
  | link (target : String)
deriving BEq, Repr, Inhabited

/-- What stands there is a directory. -/
def FileEntry.isDirectory : FileEntry → Bool
  | .directory => true
  | _ => false

/-- What stands there is a link. -/
def FileEntry.isLink : FileEntry → Bool
  | .link _ => true
  | _ => false

/-- Why a file cannot be used. -/
inductive FileFault where
  | missing
  | denied
  | present
  | notDirectory
  | isDirectory
  | notEmpty
  /-- Links lead in a circle. -/
  | endless
  /-- The file holds no text. -/
  | notText
  /-- The path cannot be passed on, because it holds a zero byte. -/
  | zeroByte
deriving DecidableEq, Repr

namespace FileFault

/-- The fault in words. -/
def text : FileFault → String
  | missing => "No such file or directory"
  | denied => "Permission denied"
  | present => "File exists"
  | notDirectory => "Not a directory"
  | isDirectory => "Is a directory"
  | notEmpty => "Directory not empty"
  | endless => "Too many levels of symbolic links"
  | notText => "stream did not contain valid UTF-8"
  | zeroByte => "file name contained an unexpected NUL byte"

/-- The number of the fault, if it comes from the system. -/
def code? : FileFault → Option Nat
  | missing => some 2
  | denied => some 13
  | present => some 17
  | notDirectory => some 20
  | isDirectory => some 21
  | notEmpty => some 39
  | endless => some 40
  | notText | zeroByte => none

/-- The fault in words, with its number. -/
def numberedText (f : FileFault) : String :=
  match f.code? with
  | some code => f.text ++ " (os error " ++ toString code ++ ")"
  | none => f.text

end FileFault

/-- Files and directories by the names on the way to them. The root is always there. -/
structure FileTree where
  entries : List (List String × FileEntry)
deriving BEq, Repr, Inhabited

namespace FileTree

/-- Only the root. -/
def empty : FileTree := ⟨[]⟩

/-- What stands at a path itself. -/
def entry? (tree : FileTree) (path : List String) : Option FileEntry :=
  if path.isEmpty then some .directory
  else (tree.entries.find? fun (p, _) => p == path).map (·.2)

/-- How many links are followed on one way. -/
def linkLimit : Nat := 40

/-- Where names lead when `done` has been reached, with links followed; none if that takes more
links than the fuel. -/
def settleFrom (tree : FileTree) : (links : Nat) → (done : List String) → List String →
    Option (List String)
  | _, done, [] => some done
  | links, done, name :: rest =>
    match tree.entry? (done ++ [name]) with
    | some (.link target) =>
      match links with
      | 0 => none
      | links + 1 =>
        let start := if Path.isAbsolute target then [] else done.reverse
        settleFrom tree links [] (Path.partsFrom start (target.piecesBy '/') ++ rest)
    | _ => settleFrom tree links (done ++ [name]) rest
termination_by links _ names => (links, names.length)

/-- Where a path leads when links are followed. -/
def settle? (tree : FileTree) (path : List String) : Option (List String) :=
  if tree.entries.any fun (_, e) => e.isLink then settleFrom tree linkLimit [] path else some path

/-- The same; a path whose links lead in a circle stays as it is. -/
def settle (tree : FileTree) (path : List String) : List String :=
  (tree.settle? path).getD path

/-- The place of a path itself: links on the way are followed, but not one at its end. -/
def place (tree : FileTree) (path : List String) : List String :=
  match path.getLast? with
  | some name => tree.settle path.dropLast ++ [name]
  | none => []

/-- What stands at a path, with links followed. -/
def get? (tree : FileTree) (path : List String) : Option FileEntry :=
  match tree.entry? (tree.settle path) with
  | some (.link _) => none
  | found => found

/-- There is a directory at a path. -/
def isDirectory (tree : FileTree) (path : List String) : Bool :=
  match tree.get? path with
  | some .directory => true
  | _ => false

/-- What stands at a path, or the fault: a missing name, or a file in the place of a directory. -/
def find (tree : FileTree) (path : List String) : Except FileFault FileEntry :=
  match tree.settle? path with
  | none => .error .endless
  | some path =>
    match tree.entry? path with
    | some entry => .ok entry
    | none =>
      let above := (List.range path.length).filterMap fun n => tree.entry? (path.take n)
      if above.all (·.isDirectory) then .error .missing else .error .notDirectory

/-- What stands at a path itself, or the fault. -/
def findOwn (tree : FileTree) (path : List String) : Except FileFault FileEntry :=
  match tree.entry? (tree.place path) with
  | some entry => .ok entry
  | none => tree.find path

/-- Puts an entry at a path itself. -/
def put (tree : FileTree) (path : List String) (entry : FileEntry) : FileTree :=
  if (tree.entry? path).isSome then
    ⟨tree.entries.map fun (p, e) => if p == path then (p, entry) else (p, e)⟩
  else ⟨tree.entries ++ [(path, entry)]⟩

/-- Puts a file at a path, with the directories on the way. -/
def putFile (tree : FileTree) (path : List String) (bytes : List UInt8) (executable : Bool) :
    FileTree :=
  let above := (List.range path.length).map path.take
  let tree := above.foldl (fun t p => if (t.get? p).isSome then t else t.put p .directory) tree
  tree.put path (.file bytes executable)

/-- Takes away what stands at a path and below. -/
def remove (tree : FileTree) (path : List String) : FileTree :=
  ⟨tree.entries.filter fun (p, _) => p.take path.length != path⟩

/-- The contents of a file. -/
def read (tree : FileTree) (path : List String) : Except FileFault (List UInt8) := do
  match ← tree.find path with
  | .directory => .error .isDirectory
  | .file bytes _ => .ok bytes
  | .zeros count => .ok (List.replicate count 0)
  | .program | .link _ => .ok []

/-- The text of a file. -/
def readText (tree : FileTree) (path : List String) : Except FileFault String := do
  match Text.decode? (← tree.read path) with
  | some cs => .ok (String.ofList cs)
  | none => .error .notText

/-- Where the names of a path lead from a directory on. A name leads on only from a directory that
is there. -/
def walk (tree : FileTree) (here : List String) : List String → Except FileFault (List String)
  | [] => .ok here
  | name :: rest =>
    match tree.get? here with
    | some .directory =>
      if name = "" ∨ name = "." then walk tree here rest
      else if name = ".." then walk tree here.dropLast rest
      else walk tree (here ++ [name]) rest
    | some _ => .error .notDirectory
    | none => .error .missing

/-- Where a path leads from a directory on. -/
def follow (tree : FileTree) (directory : List String) (path : String) :
    Except FileFault (List String) :=
  if path.toList.contains '\x00' then .error .zeroByte
  else if path.isEmpty then .error .missing
  else tree.walk (if Path.isAbsolute path then [] else directory) (path.piecesBy '/')

/-- Puts contents in the place of those of a file, which need not be there before. -/
def write (tree : FileTree) (path : List String) (bytes : List UInt8) :
    Except FileFault FileTree :=
  let path := tree.settle path
  match tree.find path with
  | .ok .directory => .error .isDirectory
  | .ok (.zeros _) => .ok tree
  | .ok .program | .ok (.link _) => .error .denied
  | .ok (.file _ executable) => .ok (tree.put path (.file bytes executable))
  | .error .missing =>
    if tree.isDirectory path.dropLast then .ok (tree.put path (.file bytes false))
    else .error .missing
  | .error e => .error e

/-- Puts contents behind those of a file, which need not be there before. -/
def append (tree : FileTree) (path : List String) (bytes : List UInt8) :
    Except FileFault FileTree :=
  match tree.get? path with
  | some (.file old _) => tree.write path (old ++ bytes)
  | _ => tree.write path bytes

/-- The names in a directory, in order. -/
def list (tree : FileTree) (path : List String) : List String :=
  let path := tree.settle path
  let inside := tree.entries.filter fun (p, _) => p.length = path.length + 1 && p.dropLast == path
  (inside.filterMap fun (p, _) => p.getLast?).mergeSort (· ≤ ·)

end FileTree

end MatrixFlow
