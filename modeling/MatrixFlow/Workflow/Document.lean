import MatrixFlow.Json.Value
import MatrixFlow.Yaml.Decode

/-!
# Shapes of workflow documents

* `WorkflowDocument`, `JobDocument`, `StrategyDocument`, `StepDocument`: what the text of a
  workflow says, before it is checked. Jobs stay values at first, so that an error in one of them
  can be told with its id.
* `WorkflowDocument.load`, `JobDocument.ofValue`: reading them.
* `scalarText?`, `jsonOf`: values as texts and as matrix values.
-/

namespace MatrixFlow

open Yaml (Value Node Tree Reader ShapeError LoadError Mark Path)

/-- The events that a workflow declares. -/
inductive TriggerDocument where
  | single (event : String)
  | multiple (events : List String)
  /-- Events with filters, which are not looked at. -/
  | detailed (entries : List (Value × Value))

namespace TriggerDocument

/-- The strings among values, if all are strings. -/
def strings? : List Value → Option (List String)
  | [] => some []
  | .str s :: rest => (strings? rest).map (s :: ·)
  | _ :: _ => none

/-- The trigger that a value without tags is. -/
def ofValue? : Value → Option TriggerDocument
  | .str s => some (single s)
  | .seq items => (strings? items).map multiple
  | .map entries => if Value.keysUniqueEntries [] entries then some (detailed entries) else none
  | _ => none

/-- Texts in order, each only where it comes first. -/
def distinct (seen : List String) : List String → List String
  | [] => []
  | s :: rest => if seen.contains s then distinct seen rest else s :: distinct (s :: seen) rest

/-- The names of the events in order, each once. -/
def eventNames : TriggerDocument → List String
  | single event => [event]
  | multiple events => distinct [] events
  | detailed entries => distinct [] (entries.filterMap fun (k, _) => k.asText?)

/-- Reads a trigger. -/
def read (t : Tree) (depth : Nat) (path : Path) (n : Node) : Reader TriggerDocument := do
  let v ← t.readValue .untagged depth path n
  match ofValue? v with
  | some trigger => pure trigger
  | none => throw (.shape (.noVariant "Trigger") none)

/-- Reads a trigger that is a document of its own. -/
def load (cs : List Char) : Except LoadError TriggerDocument :=
  (Tree.ofText cs).load fun t n => read t Yaml.depthLimit [] n

end TriggerDocument

/-- What the text of a workflow says. -/
structure WorkflowDocument where
  name : Option String
  on : TriggerDocument
  env : List (String × Value)
  jobs : List (Value × Value)

/-- Puts a binding into a list, in the place of one of the same name or at the end. -/
def putNamed {α : Type} (name : String) (value : α) : List (String × α) → List (String × α)
  | [] => [(name, value)]
  | (k, v) :: rest => if k = name then (k, value) :: rest else (k, v) :: putNamed name value rest

/-- Bindings without those that a later one of the same name replaces. -/
def lastNamed {α : Type} (pairs : List (String × α)) : List (String × α) :=
  pairs.foldl (fun acc (k, v) => putNamed k v acc) []

namespace WorkflowDocument

/-- The fields that have been read so far. -/
structure Fields where
  name : Option (Option String)
  on : Option TriggerDocument
  env : Option (List (String × Value))
  jobs : Option (List (Value × Value))

/-- No field has been read. -/
def Fields.none : Fields := ⟨Option.none, Option.none, Option.none, Option.none⟩

/-- Takes a field that may come only once. -/
def once {α : Type} (field : String) (old : Option α) : Reader Unit :=
  if old.isSome then throw (.shape (.duplicateField field) none) else pure ()

/-- Reads the fields of a workflow; unknown ones are passed over. -/
def readFields (t : Tree) (depth : Nat) (fields : Fields) :
    List (Node × Node) → Reader Fields
  | [] => pure fields
  | (k, v) :: rest => do
    let key ← t.readText "field identifier" [] k
    let path := [Tree.stepOf k]
    let fields ←
      if key = "name" then do
        once key fields.name
        let name ← t.readText? path v
        pure { fields with name := some name }
      else if key = "on" then do
        once key fields.on
        let on ← TriggerDocument.read t depth path v
        pure { fields with on := some on }
      else if key = "env" then do
        once key fields.env
        let (m, entries) ← t.readEntries "a map" path v
        match depth with
        | 0 => throw (.tooDeep m)
        | depth + 1 =>
          let env ← t.readNamed depth path entries
          pure { fields with env := some (lastNamed env) }
      else if key = "jobs" then do
        once key fields.jobs
        let (m, entries) ← t.readEntries "a YAML mapping" path v
        match depth with
        | 0 => throw (.tooDeep m)
        | depth + 1 =>
          let jobs ← Tree.readPairs (t.readValue .full depth) true m path [] entries
          pure { fields with jobs := some jobs }
      else do
        t.ignore v
        pure fields
    readFields t depth fields rest

/-- Reads a workflow. -/
def read (t : Tree) (n : Node) : Reader WorkflowDocument := do
  let (m, entries) ← t.readEntries "struct WorkflowDocument" [] n
  tryCatch (do
    let fields ← readFields t (Yaml.depthLimit - 1) Fields.none entries
    match fields.on with
    | none => throw (.shape (.missingField "on") none)
    | some on =>
      pure ⟨fields.name.getD none, on, fields.env.getD [], fields.jobs.getD []⟩)
    fun e => throw (e.atPlace m [])

/-- Reads the text of a workflow. -/
def load (cs : List Char) : Except LoadError WorkflowDocument :=
  (Tree.ofText cs).load read

end WorkflowDocument

/-! ## Jobs -/

/-- How a job's instances are spread and run. -/
structure StrategyDocument where
  matrix : Option Value
  failFast : Bool
  maxParallel : Option Nat

/-- A step as it is written. -/
structure StepDocument where
  id : Option String
  name : Option String
  run : Option String
  shell : Option String
  workingDirectory : Option String
  uses : Option String
  inputs : List (String × Value)
  env : List (String × Value)
  timeoutMinutes : Option Nat

/-- The labels of a runner as they are written. -/
inductive RunsOnDocument where
  | label (label : String)
  | labels (labels : List String)

/-- A job as it is written. -/
structure JobDocument where
  name : Option String
  runsOn : Option RunsOnDocument
  env : List (String × Value)
  strategy : Option StrategyDocument
  steps : Option (List StepDocument)
  timeoutMinutes : Option Nat

namespace Yaml.Value

/-- The error for a value that is not of the expected kind. -/
def wrongKind {α : Type} (v : Value) (expected : String) : Except ShapeError α :=
  .error (.invalidType v.untag.found expected)

/-- A string. -/
def toText (v : Value) (expected : String) : Except ShapeError String :=
  match v.untag with
  | .str s => .ok s
  | _ => v.wrongKind expected

/-- A truth value. -/
def toBool (v : Value) : Except ShapeError Bool :=
  match v.untag with
  | .bool b => .ok b
  | _ => v.wrongKind "a boolean"

/-- A natural number of at most 32 bits. -/
def toNat32 (v : Value) : Except ShapeError Nat :=
  match v.untag with
  | .num (.int i) =>
    if 0 ≤ i ∧ i < pow2 32 then .ok i.toNat else .error (.invalidValue (.int i) "u32")
  | _ => v.wrongKind "u32"

/-- Nothing for null, else what `read` makes of the value. -/
def toOption {α : Type} (read : Value → Except ShapeError α) :
    Value → Except ShapeError (Option α)
  | .null => .ok none
  | v => some <$> read v

/-- The items of a sequence; null has none. -/
def toItems (v : Value) : Except ShapeError (List Value) :=
  match v.untag with
  | .seq items => .ok items
  | .null => .ok []
  | _ => v.wrongKind "a sequence"

/-- The entries of a mapping; null has none. -/
def toEntries (v : Value) (expected : String) : Except ShapeError (List (Value × Value)) :=
  match v.untag with
  | .map entries => .ok entries
  | .null => .ok []
  | _ => v.wrongKind expected

/-- The entries of a mapping whose keys are strings. -/
def toNamed (v : Value) : Except ShapeError (List (String × Value)) := do
  let entries ← v.toEntries "a map"
  let named ← entries.mapM fun (k, w) => do
    let name ← k.toText "a string"
    .ok (name, w)
  .ok (lastNamed named)

/-- Reads a mapping with fixed fields one after the other. The names of its fields are strings,
and none of the known ones comes twice. -/
def foldFields {σ : Type} (v : Value) (expected : String) (known : List String) (init : σ)
    (read : σ → String → Value → Except ShapeError σ) : Except ShapeError σ := do
  let entries ← v.toEntries expected
  go known read [] init entries
where
  /-- Reads the fields behind those that were seen. -/
  go {σ : Type} (known : List String) (read : σ → String → Value → Except ShapeError σ)
      (seen : List String) (acc : σ) : List (Value × Value) → Except ShapeError σ
  | [] => .ok acc
  | (k, w) :: rest => do
    let name ← k.toText "field identifier"
    if known.contains name && seen.contains name then .error (.duplicateField name)
    else
      let acc ← read acc name w
      go known read (name :: seen) acc rest

mutual

/-- There is a tag on the value or inside it. -/
def hasTag : Value → Bool
  | tagged .. => true
  | seq items => hasTagItems items
  | map entries => hasTagEntries entries
  | _ => false

/-- The same for the items of a sequence. -/
def hasTagItems : List Value → Bool
  | [] => false
  | v :: rest => v.hasTag || hasTagItems rest

/-- The same for the entries of a mapping. -/
def hasTagEntries : List (Value × Value) → Bool
  | [] => false
  | (k, v) :: rest => k.hasTag || v.hasTag || hasTagEntries rest

end

end Yaml.Value

namespace StrategyDocument

/-- Reads one field. -/
def readField (s : StrategyDocument) (name : String) (v : Value) :
    Except ShapeError StrategyDocument :=
  match name with
  | "matrix" => return { s with matrix := ← v.toOption .ok }
  | "fail-fast" => return { s with failFast := ← v.toBool }
  | "max-parallel" => return { s with maxParallel := ← v.toOption Value.toNat32 }
  | _ => .ok s

/-- Reads a strategy. -/
def ofValue (v : Value) : Except ShapeError StrategyDocument :=
  v.foldFields "struct StrategyDocument" ["matrix", "fail-fast", "max-parallel"]
    ⟨none, true, none⟩ readField

end StrategyDocument

namespace StepDocument

/-- The names of the fields. -/
def fieldNames : List String :=
  ["id", "name", "run", "shell", "working-directory", "uses", "with", "env", "timeout-minutes"]

/-- Reads one field. -/
def readField (s : StepDocument) (name : String) (v : Value) : Except ShapeError StepDocument :=
  let text? := v.toOption fun v => v.toText "a string"
  match name with
  | "id" => return { s with id := ← text? }
  | "name" => return { s with name := ← text? }
  | "run" => return { s with run := ← text? }
  | "shell" => return { s with shell := ← text? }
  | "working-directory" => return { s with workingDirectory := ← text? }
  | "uses" => return { s with uses := ← text? }
  | "with" => return { s with inputs := ← v.toNamed }
  | "env" => return { s with env := ← v.toNamed }
  | "timeout-minutes" => return { s with timeoutMinutes := ← v.toOption Value.toNat32 }
  | _ => .ok s

/-- Reads a step. -/
def ofValue (v : Value) : Except ShapeError StepDocument :=
  v.foldFields "struct StepDocument" fieldNames
    ⟨none, none, none, none, none, none, [], [], none⟩ readField

end StepDocument

/-- Reads the labels of a runner: a string or a list of strings, without any tag. -/
def RunsOnDocument.ofValue (v : Value) : Except ShapeError RunsOnDocument :=
  if v.hasTag then .error .taggedVariant
  else match v with
    | .str s => .ok (.label s)
    | .seq items =>
      match TriggerDocument.strings? items with
      | some texts => .ok (.labels texts)
      | none => .error (.noVariant "RunsOnDocument")
    | _ => .error (.noVariant "RunsOnDocument")

namespace JobDocument

/-- The names of the fields. -/
def fieldNames : List String :=
  ["name", "runs-on", "env", "strategy", "steps", "timeout-minutes"]

/-- Reads one field. -/
def readField (j : JobDocument) (name : String) (v : Value) : Except ShapeError JobDocument :=
  match name with
  | "name" => return { j with name := ← v.toOption fun v => v.toText "a string" }
  | "runs-on" => return { j with runsOn := ← v.toOption RunsOnDocument.ofValue }
  | "env" => return { j with env := ← v.toNamed }
  | "strategy" => return { j with strategy := ← v.toOption StrategyDocument.ofValue }
  | "steps" =>
    return { j with steps := ← v.toOption fun v => do (← v.toItems).mapM StepDocument.ofValue }
  | "timeout-minutes" => return { j with timeoutMinutes := ← v.toOption Value.toNat32 }
  | _ => .ok j

/-- Reads a job. -/
def ofValue (v : Value) : Except ShapeError JobDocument :=
  v.foldFields "struct JobDocument" fieldNames ⟨none, none, [], none, none, none⟩ readField

end JobDocument

/-! ## Values -/

/-- The text of a scalar; null has an empty one. Collections and tagged values have none. -/
def scalarText? : Value → Option String
  | .null => some ""
  | .bool b => some (if b then "true" else "false")
  | .num n => some (Yaml.numberText n)
  | .str s => some s
  | .seq _ | .map _ | .tagged .. => none

/-- An integer as a matrix value. It is taken with a sign if 64 bits hold it so, and else without
one; no document has an integer that needs more. -/
def jsonOfInteger (i : Int) : Json :=
  if Int64.minValue.toInt ≤ i ∧ i ≤ Int64.maxValue.toInt then .num (.int (Int64.ofInt i).toInt)
  else if 0 ≤ i ∧ i < UInt64.size then .num (.int (UInt64.ofNat i.toNat).toNat)
  else .num (.int i)

@[simp] theorem jsonOfInteger_eq (i : Int) : jsonOfInteger i = .num (.int i) := by
  unfold jsonOfInteger
  split
  · rename_i h
    rw [Int64.toInt_minValue, Int64.toInt_maxValue] at h
    rw [Int64.toInt_ofInt_of_le h.1 (Int.lt_of_le_sub_one h.2)]
  · split
    · rename_i h
      have hlt : i.toNat < UInt64.size := by omega
      rw [UInt64.toNat_ofNat_of_lt' hlt, Int.toNat_of_nonneg h.1]
    · rfl

/-- A number as a matrix value; what is no finite number becomes null. -/
def jsonOfNumber : Number → Json
  | .int i => jsonOfInteger i
  | .float x => if x.isFinite then .num (.float x) else .null

mutual

/-- A value as a matrix value. Tags go, and so do entries whose key is no string. -/
def jsonOf : Value → Json
  | .null => .null
  | .bool b => .bool b
  | .num n => jsonOfNumber n
  | .str s => .str s
  | .seq items => .arr (jsonItems items)
  | .map entries => Json.ofFields (jsonFields entries)
  | .tagged _ v => jsonOf v

/-- The items of a sequence as matrix values. -/
def jsonItems : List Value → List Json
  | [] => []
  | v :: rest => jsonOf v :: jsonItems rest

/-- The entries of a mapping as fields. -/
def jsonFields : List (Value × Value) → List (String × Json)
  | [] => []
  | (k, v) :: rest =>
    match k.asText? with
    | some name => (name, jsonOf v) :: jsonFields rest
    | none => jsonFields rest

end

end MatrixFlow
