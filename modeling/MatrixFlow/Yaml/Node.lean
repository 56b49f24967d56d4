import MatrixFlow.Yaml.Event
import MatrixFlow.Yaml.LoadError

/-!
# From events to a tree

* `Node`: a node of a document. Where a fault breaks the document off, the tree ends in
  `Node.missing`.
* `Tree`: the root of a document, the nodes that bear anchors, and the error at its end.
* `Tree.ofDocument`: builds the tree with a stack of the collections that are open.
-/

namespace MatrixFlow.Yaml

/-- A node of a document. -/
inductive Node where
  /-- The document breaks off in front of this node. -/
  | missing
  /-- The stream ends without a document. -/
  | void (mark : Mark)
  | alias (mark : Mark) (anchor : Nat)
  | scalar (mark : Mark) (tag : Option TagText) (text : String) (style : Style)
  | sequence (mark : Mark) (tag : Option TagText) (items : List Node)
  | mapping (mark : Mark) (tag : Option TagText) (entries : List (Node × Node))
deriving Repr, Inhabited

/-- An anchored node: the number of its anchor, the count of events before it, and the node. -/
structure Anchored where
  anchor : Nat
  position : Nat
  node : Node

/-- A document as a tree. -/
structure Tree where
  root : Node
  anchored : List Anchored
  /-- The error that breaks the document off. -/
  error : Option LoadError
  /-- Something other than the end of the stream follows the document. -/
  more : Bool
  /-- The count of the document's events. -/
  size : Nat

/-- A collection that is open: its children so far, in reverse. -/
structure Frame where
  isMapping : Bool
  mark : Mark
  tag : Option TagText
  anchor : Option (Nat × Nat)
  children : List Node

/-- Keys and values that take turns, as entries. -/
def pairUp : List Node → List (Node × Node)
  | [] => []
  | [k] => [(k, .missing)]
  | k :: v :: rest => (k, v) :: pairUp rest

/-- The node of a collection. -/
def Frame.node (f : Frame) : Node :=
  if f.isMapping then .mapping f.mark f.tag (pairUp f.children.reverse)
  else .sequence f.mark f.tag f.children.reverse

/-- The state of the builder. -/
structure TreeState where
  frames : List Frame
  root : Option Node
  /-- The numbers of the anchors by name. -/
  names : List (String × Nat)
  anchored : List Anchored
  /-- The count of events. -/
  size : Nat

namespace TreeState

/-- Adds a complete node to the innermost open collection. -/
def add (s : TreeState) (n : Node) : TreeState :=
  match s.frames with
  | [] => { s with root := some n }
  | f :: rest => { s with frames := { f with children := n :: f.children } :: rest }

/-- Notes the anchor of a node, if it has one. -/
def note (s : TreeState) (anchor : Option (Nat × Nat)) (n : Node) : TreeState :=
  match anchor with
  | some (number, position) => { s with anchored := ⟨number, position, n⟩ :: s.anchored }
  | none => s

/-- Gives a number to an anchor's name: the count of the names before it. -/
def number (s : TreeState) (name : Option String) : Option (Nat × Nat) × TreeState :=
  match name with
  | none => (none, s)
  | some name =>
    let n := s.names.length
    (some (n, s.size), { s with names := (name, n) :: s.names.filter (·.1 != name) })

/-- Closes the innermost collection. -/
def close (s : TreeState) : TreeState :=
  match s.frames with
  | [] => s
  | f :: rest => ({ s with frames := rest }.note f.anchor f.node).add f.node

/-- Takes one event. -/
def step (s : TreeState) (e : Event) : Except LoadError TreeState :=
  let counted (s : TreeState) : TreeState := { s with size := s.size + 1 }
  match e.kind with
  | .alias name =>
    match s.names.find? (·.1 == name) with
    | some (_, n) => .ok (counted (s.add (.alias e.mark n)))
    | none => .error (.unknownAnchor e.mark)
  | .scalar anchor tag text style =>
    let (anchor, s) := s.number anchor
    let n := Node.scalar e.mark tag text style
    .ok (counted ((s.note anchor n).add n))
  | .sequenceStart anchor tag =>
    let (anchor, s) := s.number anchor
    .ok (counted { s with frames := ⟨false, e.mark, tag, anchor, []⟩ :: s.frames })
  | .mappingStart anchor tag =>
    let (anchor, s) := s.number anchor
    .ok (counted { s with frames := ⟨true, e.mark, tag, anchor, []⟩ :: s.frames })
  | .sequenceEnd | .mappingEnd => .ok (counted s.close)
  | _ => .ok s

/-- Takes the events up to the first that is in error. -/
def run (s : TreeState) : List Event → TreeState × Option LoadError
  | [] => (s, none)
  | e :: rest =>
    match s.step e with
    | .ok s => s.run rest
    | .error err => (s, some err)

/-- Closes the collections that a broken document leaves open. Each ends in a missing node. -/
def closeAll : (fuel : Nat) → TreeState → TreeState
  | 0, s => s
  | fuel + 1, s =>
    match s.frames with
    | [] => s
    | f :: rest =>
      let children := if f.isMapping && f.children.length % 2 == 1 then .missing :: f.children
        else if f.isMapping then .missing :: .missing :: f.children
        else .missing :: f.children
      closeAll fuel { s with frames := { f with children := children } :: rest }.close

end TreeState

/-- The tree of a document. -/
def Tree.ofDocument (d : Document) : Tree :=
  let (s, error) := TreeState.run ⟨[], none, [], [], 0⟩ d.events
  let error := match error with
    | some e => some e
    | none => d.fault.map LoadError.form
  match d.void with
  | some m =>
    if d.events.isEmpty then ⟨.void m, [], error, false, 1⟩
    else ⟨s.root.getD .missing, s.anchored, error, d.more, s.size⟩
  | none =>
    let s := s.closeAll s.frames.length
    ⟨s.root.getD .missing, s.anchored, error, d.more, s.size⟩

/-- The tree of the first document of a text. -/
def Tree.ofText (cs : List Char) : Tree :=
  .ofDocument (documentOf cs)

/-- The node of an anchor; where a number was given twice, the later one. -/
def Tree.anchor? (t : Tree) (anchor : Nat) : Option Node :=
  let named := t.anchored.filter (·.anchor == anchor)
  let last := named.foldl (fun (best : Option Anchored) a => match best with
    | some b => if b.position < a.position then some a else some b
    | none => some a) none
  last.map (·.node)

end MatrixFlow.Yaml
