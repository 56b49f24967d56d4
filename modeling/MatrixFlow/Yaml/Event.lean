import MatrixFlow.Yaml.Token.Stream

/-!
# From tokens to events

* `Event`: the start or end of a collection, a scalar, an alias, or a boundary of the stream.
* `EventState.step`: the grammar. It is a machine with a stack of what is expected next.
* `documentOf`: the events of the first document of a text, the fault that breaks them off if
  there is one, and whether anything follows the document.
-/

namespace MatrixFlow.Yaml

/-- What an event says. -/
inductive EventKind where
  | streamStart
  | streamEnd
  | documentStart
  | documentEnd
  | alias (name : String)
  | scalar (anchor : Option String) (tag : Option TagText) (text : String) (style : Style)
  | sequenceStart (anchor : Option String) (tag : Option TagText)
  | sequenceEnd
  | mappingStart (anchor : Option String) (tag : Option TagText)
  | mappingEnd
deriving DecidableEq, Repr

/-- An event and where it begins. -/
structure Event where
  kind : EventKind
  mark : Mark
deriving DecidableEq, Repr

/-- What may come next. -/
inductive Expectation where
  | streamStart
  | firstDocument
  | document
  | content
  | documentEnd
  | blockNode
  | blockEntryFirst
  | blockEntry
  | compactEntry
  | blockKeyFirst
  | blockKey
  | blockValue
  | flowEntryFirst
  | flowEntry
  | pairKey
  | pairValue
  | pairEnd
  | flowKeyFirst
  | flowKey
  | flowValue
  | flowNoValue
  | nothing
deriving DecidableEq, Repr

/-- The state of the grammar. -/
structure EventState where
  tokens : List Token
  /-- The fault behind the last token. -/
  fault : Option Fault
  expect : Expectation
  /-- What is expected once the current node is complete, innermost first. -/
  stack : List Expectation
  /-- What the tag handles of the document stand for. -/
  handles : List (String × TagText)

namespace EventState

/-- The next token; where there is none, the fault that ended the tokens. -/
def peek (s : EventState) : Except Fault Token :=
  match s.tokens with
  | t :: _ => .ok t
  | [] => .error (s.fault.getD ⟨.endOfText, .start, 0, none⟩)

/-- The state after the next token. -/
def drop (s : EventState) : EventState :=
  { s with tokens := s.tokens.tail }

/-- Expects `e` next. -/
def expecting (s : EventState) (e : Expectation) : EventState :=
  { s with expect := e }

/-- Expects `e` once the coming node is complete. -/
def later (s : EventState) (e : Expectation) : EventState :=
  { s with stack := e :: s.stack }

/-- Goes on with what was expected after the current node. -/
def resume (s : EventState) : EventState :=
  { s with expect := s.stack.headD .nothing, stack := s.stack.tail }

/-- An event of the step, with the state after it. -/
abbrev Step := Except Fault (Event × EventState)

/-- An empty scalar at `m`. -/
def emptyScalar (s : EventState) (m : Mark) : Step :=
  .ok (⟨.scalar none none "" .plain, m⟩, s)

/-- What `!` and `!!` stand for unless a document says otherwise. -/
def defaultHandles : List (String × TagText) :=
  [("!", ⟨"!", true⟩), ("!!", ⟨"tag:yaml.org,2002:", true⟩)]

/-- The tag that a handle and a suffix name. -/
def tagOf? (s : EventState) (handle : String) (suffix : TagText) : Option TagText :=
  if handle = "" then some suffix
  else (s.handles.find? (·.1 == handle)).map fun (_, start) =>
    ⟨start.text ++ suffix.text, start.legible && suffix.legible⟩

/-- An anchor and a tag in front of a node, in either order, with where they and the tag begin. -/
structure Properties where
  anchor : Option String
  tag : Option (String × TagText × Mark)
  mark : Mark

/-- Reads the properties of a node. -/
def readProperties (s : EventState) : Except Fault (Properties × EventState) := do
  let t ← s.peek
  match t.kind with
  | .anchor name =>
    let s := s.drop
    let u ← s.peek
    match u.kind with
    | .tag handle suffix => .ok (⟨some name, some (handle, suffix, u.start), t.start⟩, s.drop)
    | _ => .ok (⟨some name, none, t.start⟩, s)
  | .tag handle suffix =>
    let s := s.drop
    let u ← s.peek
    match u.kind with
    | .anchor name => .ok (⟨some name, some (handle, suffix, t.start), t.start⟩, s.drop)
    | _ => .ok (⟨none, some (handle, suffix, t.start), t.start⟩, s)
  | _ => .ok (⟨none, none, t.start⟩, s)

/-- Where no node follows: properties alone make an empty scalar, nothing at all is a fault. -/
def emptyOrFault (s : EventState) (p : Properties) (tag : Option TagText) (inBlock : Bool)
    (t : Token) : Step :=
  if p.anchor.isSome || tag.isSome then .ok (⟨.scalar p.anchor tag "" .plain, p.mark⟩, s.resume)
  else .error ⟨.nodeContent, t.start, 0, some (if inBlock then .blockNode else .flowNode)⟩

/-- A node. Block collections are allowed where `inBlock` holds, and a sequence without an
indentation of its own where `compact` does. -/
def node (s : EventState) (inBlock compact : Bool) : Step := do
  let t ← s.peek
  match t.kind with
  | .alias name => .ok (⟨.alias name, t.start⟩, s.drop.resume)
  | _ =>
    let (p, s) ← s.readProperties
    let tag ← match p.tag with
      | none => .ok none
      | some (handle, suffix, m) =>
        match s.tagOf? handle suffix with
        | some tag => .ok (some tag)
        | none => .error ⟨.tagHandle, m, 0, some .node⟩
    let t ← s.peek
    match t.kind with
    | .blockEntry =>
      if compact then .ok (⟨.sequenceStart p.anchor tag, p.mark⟩, s.expecting .compactEntry)
      else s.emptyOrFault p tag inBlock t
    | .scalar text style =>
      .ok (⟨.scalar p.anchor tag text style, p.mark⟩, s.drop.resume)
    | .flowSequenceStart =>
      .ok (⟨.sequenceStart p.anchor tag, p.mark⟩, s.expecting .flowEntryFirst)
    | .flowMappingStart => .ok (⟨.mappingStart p.anchor tag, p.mark⟩, s.expecting .flowKeyFirst)
    | .blockSequenceStart =>
      if inBlock then .ok (⟨.sequenceStart p.anchor tag, p.mark⟩, s.expecting .blockEntryFirst)
      else s.emptyOrFault p tag inBlock t
    | .blockMappingStart =>
      if inBlock then .ok (⟨.mappingStart p.anchor tag, p.mark⟩, s.expecting .blockKeyFirst)
      else s.emptyOrFault p tag inBlock t
    | _ => s.emptyOrFault p tag inBlock t

/-- Directives in front of a document, up to the first other token. -/
def readDirectives (version : Bool) (handles : List (String × TagText)) :
    List Token → Except Fault (List (String × TagText) × List Token)
  | [] => .ok (handles, [])
  | t :: rest =>
    match t.kind with
    | .version major minor =>
      if version then .error ⟨.duplicateVersion, t.start, 0, none⟩
      else if major ≠ 1 ∨ (minor ≠ 1 ∧ minor ≠ 2) then
        .error ⟨.versionUnsupported, t.start, 0, none⟩
      else readDirectives true handles rest
    | .tagDirective handle start =>
      if handles.any (·.1 == handle) then .error ⟨.duplicateTagHandle, t.start, 0, none⟩
      else readDirectives version (handles ++ [(handle, start)]) rest
    | _ => .ok (handles, t :: rest)

/-- The start of a document, or the end of the stream. A document that is not the first needs
its indicator. -/
def documentStart (s : EventState) (first : Bool) : Step := do
  let s := if first then s
    else { s with tokens := s.tokens.dropWhile fun t => t.kind == .documentEnd }
  let t ← s.peek
  match t.kind with
  | .streamEnd => .ok (⟨.streamEnd, t.start⟩, s.drop.expecting .nothing)
  | kind =>
    let explicit := match kind with
      | .version .. | .tagDirective .. | .documentStart => true
      | _ => false
    if first && !explicit then
      .ok (⟨.documentStart, t.start⟩,
        { s with handles := defaultHandles, expect := .blockNode }.later .documentEnd)
    else
      let (handles, tokens) ← readDirectives false [] s.tokens
      let s := { s with tokens := tokens, handles := handles ++ defaultHandles }
      let u ← s.peek
      if u.kind = .documentStart then
        .ok (⟨.documentStart, t.start⟩, (s.drop.expecting .content).later .documentEnd)
      else .error ⟨.documentStart, u.start, 0, none⟩

/-- The node of a document whose indicator has been read. -/
def documentContent (s : EventState) : Step := do
  let t ← s.peek
  match t.kind with
  | .version .. | .tagDirective .. | .documentStart | .documentEnd | .streamEnd =>
    s.resume.emptyScalar t.start
  | _ => s.node true false

/-- The end of a document, with its indicator if there is one. -/
def documentEnd (s : EventState) : Step := do
  let t ← s.peek
  let s := if t.kind = .documentEnd then s.drop else s
  .ok (⟨.documentEnd, t.start⟩, s.expecting .document)

/-- An entry of a block sequence, or its end. -/
def blockEntry (s : EventState) : Step := do
  let t ← s.peek
  match t.kind with
  | .blockEntry =>
    let s := s.drop
    let u ← s.peek
    match u.kind with
    | .blockEntry | .blockEnd => (s.expecting .blockEntry).emptyScalar t.stop
    | _ => (s.later .blockEntry).node true false
  | .blockEnd => .ok (⟨.sequenceEnd, t.start⟩, s.drop.resume)
  | _ => .error ⟨.entryIndicator, t.start, 0, some .blockSequence⟩

/-- An entry of a sequence without an indentation of its own, or its end. -/
def compactEntry (s : EventState) : Step := do
  let t ← s.peek
  match t.kind with
  | .blockEntry =>
    let s := s.drop
    let u ← s.peek
    match u.kind with
    | .blockEntry | .key | .value | .blockEnd => (s.expecting .compactEntry).emptyScalar t.stop
    | _ => (s.later .compactEntry).node true false
  | _ => .ok (⟨.sequenceEnd, t.start⟩, s.resume)

/-- A key of a block mapping, or its end. -/
def blockKey (s : EventState) : Step := do
  let t ← s.peek
  match t.kind with
  | .key =>
    let s := s.drop
    let u ← s.peek
    match u.kind with
    | .key | .value | .blockEnd => (s.expecting .blockValue).emptyScalar t.stop
    | _ => (s.later .blockValue).node true true
  | .blockEnd => .ok (⟨.mappingEnd, t.start⟩, s.drop.resume)
  | _ => .error ⟨.mappingKey, t.start, 0, some .blockMapping⟩

/-- A value of a block mapping. -/
def blockValue (s : EventState) : Step := do
  let t ← s.peek
  match t.kind with
  | .value =>
    let s := s.drop
    let u ← s.peek
    match u.kind with
    | .key | .value | .blockEnd => (s.expecting .blockKey).emptyScalar t.stop
    | _ => (s.later .blockKey).node true true
  | _ => (s.expecting .blockKey).emptyScalar t.start

/-- The state at an entry of a flow collection: behind the comma, unless the entry is the first.
-/
def behindComma (s : EventState) (first : Bool) (close : TokenKind) (problem : Problem)
    (activity : Activity) : Except Fault EventState := do
  let t ← s.peek
  if t.kind = close || first then .ok s
  else if t.kind = .flowEntry then .ok s.drop
  else .error ⟨problem, t.start, 0, some activity⟩

/-- An entry of a flow sequence, or its end. An entry may be a single pair of a mapping. -/
def flowEntry (s : EventState) (first : Bool) : Step := do
  let s ← s.behindComma first .flowSequenceEnd .flowSequenceEnd .flowSequence
  let t ← s.peek
  match t.kind with
  | .flowSequenceEnd => .ok (⟨.sequenceEnd, t.start⟩, s.drop.resume)
  | .key => .ok (⟨.mappingStart none none, t.start⟩, s.drop.expecting .pairKey)
  | _ => (s.later .flowEntry).node false false

/-- The key of a single pair. -/
def pairKey (s : EventState) : Step := do
  let t ← s.peek
  match t.kind with
  | .value | .flowEntry | .flowSequenceEnd => (s.drop.expecting .pairValue).emptyScalar t.stop
  | _ => (s.later .pairValue).node false false

/-- The value of a single pair. -/
def pairValue (s : EventState) : Step := do
  let t ← s.peek
  match t.kind with
  | .value =>
    let s := s.drop
    let u ← s.peek
    match u.kind with
    | .flowEntry | .flowSequenceEnd => (s.expecting .pairEnd).emptyScalar u.start
    | _ => (s.later .pairEnd).node false false
  | _ => (s.expecting .pairEnd).emptyScalar t.start

/-- The end of a single pair. -/
def pairEnd (s : EventState) : Step := do
  let t ← s.peek
  .ok (⟨.mappingEnd, t.start⟩, s.expecting .flowEntry)

/-- A key of a flow mapping, or its end. -/
def flowKey (s : EventState) (first : Bool) : Step := do
  let s ← s.behindComma first .flowMappingEnd .flowMappingEnd .flowMapping
  let t ← s.peek
  match t.kind with
  | .flowMappingEnd => .ok (⟨.mappingEnd, t.start⟩, s.drop.resume)
  | .key =>
    let s := s.drop
    let u ← s.peek
    match u.kind with
    | .value | .flowEntry | .flowMappingEnd => (s.expecting .flowValue).emptyScalar u.start
    | _ => (s.later .flowValue).node false false
  | _ => (s.later .flowNoValue).node false false

/-- A value of a flow mapping. -/
def flowValue (s : EventState) : Step := do
  let t ← s.peek
  match t.kind with
  | .value =>
    let s := s.drop
    let u ← s.peek
    match u.kind with
    | .flowEntry | .flowMappingEnd => (s.expecting .flowKey).emptyScalar u.start
    | _ => (s.later .flowKey).node false false
  | _ => (s.expecting .flowKey).emptyScalar t.start

/-- The next event. -/
def step (s : EventState) : Step :=
  match s.expect with
  | .streamStart => do
    let t ← s.peek
    .ok (⟨.streamStart, t.start⟩, s.drop.expecting .firstDocument)
  | .firstDocument => s.documentStart true
  | .document => s.documentStart false
  | .content => s.documentContent
  | .documentEnd => s.documentEnd
  | .blockNode => s.node true false
  | .blockEntryFirst => s.drop.blockEntry
  | .blockEntry => s.blockEntry
  | .compactEntry => s.compactEntry
  | .blockKeyFirst => s.drop.blockKey
  | .blockKey => s.blockKey
  | .blockValue => s.blockValue
  | .flowEntryFirst => s.drop.flowEntry true
  | .flowEntry => s.flowEntry false
  | .pairKey => s.pairKey
  | .pairValue => s.pairValue
  | .pairEnd => s.pairEnd
  | .flowKeyFirst => s.drop.flowKey true
  | .flowKey => s.flowKey false
  | .flowValue => s.flowValue
  | .flowNoValue => do
    let t ← s.peek
    (s.expecting .flowKey).emptyScalar t.start
  | .nothing => do
    let t ← s.peek
    .ok (⟨.streamEnd, t.start⟩, s)

end EventState

/-- The events of one document. -/
structure Document where
  events : List Event
  /-- The fault that breaks the document off. -/
  fault : Option Fault
  /-- Where the stream ends, if it ends without a document. -/
  void : Option Mark
  /-- Something other than the end of the stream follows the document. -/
  more : Bool

/-- The events up to the end of the first document; `events` are those before, in reverse. -/
def documentFrom : (fuel : Nat) → EventState → List Event → Document
  | 0, _, events => ⟨events.reverse, none, none, false⟩
  | fuel + 1, s, events =>
    match s.step with
    | .error f => ⟨events.reverse, some f, none, false⟩
    | .ok (e, s) =>
      match e.kind with
      | .streamEnd => ⟨events.reverse, none, some e.mark, false⟩
      | .documentEnd =>
        let more := match s.step with
          | .ok (⟨.streamEnd, _⟩, _) => false
          | _ => true
        ⟨events.reverse, none, none, more⟩
      | .streamStart | .documentStart => documentFrom fuel s events
      | _ => documentFrom fuel s (e :: events)

/-- The first document of a text. Each token gives rise to at most four events. -/
def documentOf (cs : List Char) : Document :=
  let (tokens, fault) := tokensOf cs
  documentFrom (4 * (tokens.length + 4)) ⟨tokens, fault, .streamStart, [], []⟩ []

end MatrixFlow.Yaml
