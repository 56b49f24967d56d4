import MatrixFlow.Script.Clock

/-!
# Ends of pipelines

The parts of a pipeline run one after the other, each with all that the one before has written for
it. When all of them have run it is known how much each has read, and so which of them could not go
on writing: nobody reads any more what such a part wants to write, and that ends it.

* `PartEnd`: how a part of a pipeline has ended.
* `settleParts`: which parts ended early because nobody read on.
-/

namespace MatrixFlow.Script

/-- How much a pipe takes before something is read from it. -/
def pipeRoom : Nat := 65536

/-- The status of a process that has been ended because nobody reads what it writes. -/
def unreadStatus : Nat := 141

/-- A part of a pipeline that has ended. -/
structure PartEnd where
  status : Nat
  endsAt : Duration
  /-- It was stopped, and did not end by itself. -/
  expired : Bool
  /-- When it wrote something for the next part, and how much. -/
  writes : List (Duration × Nat)
  /-- How much of that has not been read. -/
  unread : Nat
  /-- How much of it was read without need. -/
  ahead : Nat
  /-- It writes nothing before it has read everything. -/
  gathers : Bool

namespace PartEnd

/-- How much the part wrote for the next one. -/
def size (p : PartEnd) : Nat := total (p.writes.map (·.2))

/-- The time of each write, with the place at which the text begins that it wrote. -/
def places (start : Nat) : List (Duration × Nat) → List (Duration × Nat × Nat)
  | [] => []
  | (time, n) :: rest => (time, start, start + n) :: places (start + n) rest

/-- When the part could not go on writing, if that happened. The next part read until `readerEnds`,
and was `cut` itself while it read and wrote in turn. -/
def cutAt? (p : PartEnd) (readerEnds : Duration) (cut : Bool) : Option Duration :=
  let read := p.size - p.unread - p.ahead
  let all := places 0 p.writes
  let lastRead := ((all.filter fun (_, start, _) => start < read).map (·.1.nanos)).foldl max 0
  let gone : Duration := ⟨max readerEnds.nanos lastRead⟩
  match all.find? fun (time, _, stop) => read < stop && gone.nanos < time.nanos with
  | some (time, _, _) => some time
  | none => if pipeRoom < p.unread || (cut && 2 * pipeRoom < p.size) then some gone else none

end PartEnd

/-- The parts of a pipeline from the last one on, with the statuses and times that they have where
nobody reads on. What the first of them wrote was read until `readerEnds`. -/
def settleParts (readerEnds : Duration) (cut : Bool) : List PartEnd → List PartEnd
  | [] => []
  | p :: rest =>
    match p.cutAt? readerEnds cut with
    | some time =>
      { p with status := unreadStatus, endsAt := time, expired := false } ::
        settleParts time (!p.gathers) rest
    | none => p :: settleParts p.endsAt false rest

/-- The parts of a pipeline, the last one first, as they end together. -/
def settlePipeline : List PartEnd → List PartEnd
  | [] => []
  | last :: rest => last :: settleParts last.endsAt false rest

/-- Programs that write nothing before they have read everything. -/
def gatheringPrograms : List String := ["sort", "tac", "tail", "shuf", "wc"]

/-- The command begins with the name of such a program. -/
def Node.gathers : Node → Bool
  | .simple _ source .. =>
    gatheringPrograms.contains (String.ofList (source.takeWhile fun c => c != ' ' && c != '\t'))
  | .pipeline _ [only] => only.gathers
  | _ => false

end MatrixFlow.Script
