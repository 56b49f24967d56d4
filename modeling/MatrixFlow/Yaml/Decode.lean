import MatrixFlow.Yaml.Node

/-!
# From a tree to data

* `Reader`: reads data from nodes; its state counts the aliases that were followed.
* `Tree.readValue`: any node, as a value.
* `Tree.readText`, `Tree.readEntries`, `Tree.ignore`: the building blocks for readers of data of a
  known shape.
* `Tree.load`: runs a reader on the root. An error that a reader meets comes before a fault of
  form further on in the text.

Collections may be nested 128 deep, and aliases may be followed a hundred times as often as the
document has events.
-/

namespace MatrixFlow.Yaml

/-- Reads data from nodes, counting the aliases that are followed. -/
abbrev Reader := StateT Nat (Except LoadError)

/-- How deep collections may be nested. -/
def depthLimit : Nat := 128

/-- What a reader of any node accepts. -/
structure ValueRule where
  /-- What is expected, in words. -/
  expected : String
  /-- Local tags are kept; otherwise they are errors. -/
  tags : Bool
  /-- A key that comes twice in a mapping is an error. -/
  uniqueKeys : Bool

/-- Values as they are. -/
def ValueRule.full : ValueRule := ⟨"any YAML value", true, true⟩

/-- Values that are to be matched against several shapes. -/
def ValueRule.untagged : ValueRule := ⟨"any value", false, false⟩

namespace Tree

/-- The error where the document breaks off. -/
def breakError (t : Tree) : LoadError :=
  t.error.getD .noDocument

/-- The node that an alias stands for, and the way to it; other nodes stand for themselves. -/
def follow (t : Tree) (path : Path) (n : Node) : Reader (Path × Node) :=
  match n with
  | .alias _ anchor => do
    let count ← get
    if t.size * 100 < count + 1 then throw .tooManyAliases
    set (count + 1)
    match t.anchor? anchor with
    | some n => pure (.jump :: path, n)
    | none => throw t.breakError
  | n => pure (path, n)

/-- An error of shape at a place. -/
def fail {α : Type} (cause : ShapeError) (m : Mark) (path : Path) : Reader α :=
  throw (.shape cause (some (m, path)))

/-- The step from a mapping to the value of a key. -/
def stepOf (key : Node) : PathStep :=
  match key with
  | .scalar _ _ text _ => .entry text
  | _ => .unnamed

/-- Reads the items of a sequence. -/
def readItems (read : Path → Node → Reader Value) (path : Path) :
    Nat → List Node → Reader (List Value)
  | _, [] => pure []
  | i, n :: rest => do
    let v ← read (.item i :: path) n
    let vs ← readItems read path (i + 1) rest
    pure (v :: vs)

/-- Reads the entries of a mapping that begins at `m`; `seen`, in reverse, are those before. -/
def readPairs (read : Path → Node → Reader Value) (unique : Bool) (m : Mark) (path : Path)
    (seen : List (Value × Value)) : List (Node × Node) → Reader (List (Value × Value))
  | [] => pure seen.reverse
  | (k, v) :: rest => do
    let key ← read path k
    if unique && Value.hasKey key seen then fail (.duplicateKey key) m path
    else
      let value ← read (stepOf k :: path) v
      readPairs read unique m path ((key, value) :: seen) rest

/-- Reads a node that is no alias and whose tag has been dealt with. `read` reads the nodes
inside it, unless they are nested too deep. -/
def readBare (t : Tree) (rule : ValueRule) (read : Option (Path → Node → Reader Value))
    (path : Path) (tagged : Bool) (n : Node) : Reader Value :=
  match n with
  | .missing => throw t.breakError
  | .void _ => pure .null
  | .alias .. => throw t.breakError
  | .scalar m tag text style =>
    match resolve (if tagged then none else tag) style text with
    | .error demand => fail (.invalidValue (.text text) demand.text) m path
    | .ok .null => pure .null
    | .ok (.bool b) => pure (.bool b)
    | .ok (.int i) => pure (.num (.int i))
    | .ok (.wide i) => fail (.invalidType (.wide i) rule.expected) m path
    | .ok (.float x) => pure (.num (.float x))
    | .ok .text => pure (.str text)
  | .sequence m _ items =>
    match read with
    | none => throw (.tooDeep m)
    | some read => do
      let vs ← readItems read path 0 items
      pure (.seq vs)
  | .mapping m _ entries =>
    match read with
    | none => throw (.tooDeep m)
    | some read => do
      let vs ← readPairs read rule.uniqueKeys m path [] entries
      pure (.map vs)

/-- The local tag of a node and the node's place. -/
def localTag? (n : Node) : Option (String × Mark) :=
  match n with
  | .scalar m (some tag) .. | .sequence m (some tag) _ | .mapping m (some tag) _ =>
    tag.localName?.map (·, m)
  | _ => none

/-- Reads any node; `depth` collections may be nested in one another. -/
def readValue (t : Tree) (rule : ValueRule) : (depth : Nat) → Path → Node → Reader Value
  | depth, path, n => do
    let (path, n) ← t.follow path n
    let read := match depth with
      | 0 => none
      | depth + 1 => some (t.readValue rule depth)
    match localTag? n with
    | none => t.readBare rule read path false n
    | some (tag, m) =>
      if !rule.tags then fail .taggedVariant m path
      else
        let v ← t.readBare rule read path true n
        pure (.tagged tag v)

/-- The error for a node that is not of the expected kind. -/
def wrongKind {α : Type} (t : Tree) (expected : String) (path : Path) (n : Node) : Reader α :=
  match n with
  | .missing | .alias .. => throw t.breakError
  | .void _ => throw .noDocument
  | .scalar m tag text style =>
    match resolve tag style text with
    | .error demand => fail (.invalidValue (.text text) demand.text) m path
    | .ok r => fail (.invalidType (r.found text) expected) m path
  | .sequence m .. => fail (.invalidType .sequence expected) m path
  | .mapping m .. => fail (.invalidType .map expected) m path

/-- Reads a scalar as its text, whatever it means. -/
def readText (t : Tree) (expected : String) (path : Path) (n : Node) : Reader String := do
  let (path, n) ← t.follow path n
  match n with
  | .scalar _ _ text _ => pure text
  | n => t.wrongKind expected path n

/-- Reads a scalar as its text unless it means null. -/
def readText? (t : Tree) (path : Path) (n : Node) : Reader (Option String) := do
  let (path, n) ← t.follow path n
  match n with
  | .missing | .alias .. => throw t.breakError
  | .void _ => pure none
  | .scalar _ tag text style =>
    let some? := some <$> t.readText "a string" path n
    if style ≠ .plain then some?
    else match tag with
      | some tag =>
        if tag.text ≠ "tag:yaml.org,2002:null" then some?
        else if isNullWord text then pure none
        else throw (.shape (.invalidValue (.text text) "null") none)
      | none => if text.isEmpty || isNullWord text then pure none else some?
  | _ => some <$> t.readText "a string" path n

/-- The entries of a mapping with its place. A scalar without any text is an empty mapping. -/
def readEntries (t : Tree) (expected : String) (path : Path) (n : Node) :
    Reader (Mark × List (Node × Node)) := do
  let (path, n) ← t.follow path n
  match n with
  | .mapping m _ entries => pure (m, entries)
  | .void m => pure (m, [])
  | .scalar m _ text style =>
    if text.isEmpty && style == .plain then pure (m, []) else t.wrongKind expected path n
  | n => t.wrongKind expected path n

/-- Reads the keys of a mapping as texts and its values as they are. -/
def readNamed (t : Tree) (depth : Nat) (path : Path) :
    List (Node × Node) → Reader (List (String × Value))
  | [] => pure []
  | (k, v) :: rest => do
    let name ← t.readText "a string" path k
    let value ← t.readValue .full depth (stepOf k :: path) v
    let more ← t.readNamed depth path rest
    pure ((name, value) :: more)

end Tree

mutual

/-- No node inside is missing. -/
def Node.isWhole : Node → Bool
  | .missing => false
  | .sequence _ _ items => Node.areWhole items
  | .mapping _ _ entries => Node.arePairsWhole entries
  | _ => true

/-- The same for nodes in a row. -/
def Node.areWhole : List Node → Bool
  | [] => true
  | n :: rest => n.isWhole && Node.areWhole rest

/-- The same for entries. -/
def Node.arePairsWhole : List (Node × Node) → Bool
  | [] => true
  | (k, v) :: rest => k.isWhole && v.isWhole && Node.arePairsWhole rest

end

namespace Tree

/-- Passes over a node of no interest. -/
def ignore (t : Tree) (n : Node) : Reader Unit :=
  if n.isWhole then pure () else throw t.breakError

/-- Runs a reader on the root of a document, which must be the only one. -/
def load {α : Type} (t : Tree) (read : Tree → Node → Reader α) : Except LoadError α := do
  let (a, _) ← (read t t.root).run 0
  match t.error with
  | some e => .error e
  | none => if t.more then .error .severalDocuments else .ok a

/-- The document of a text as a value. -/
def loadValue (cs : List Char) : Except LoadError Value :=
  (Tree.ofText cs).load fun t n => t.readValue .full depthLimit [] n

end Tree

end MatrixFlow.Yaml
