import MatrixFlow.Script.Cursor
import MatrixFlow.Script.Tool.Basic

/-!
# Tools that arrange what they read

* `tsortTool`: the tool `tsort`, which puts names in an order that pairs of them allow.
* `shufTool`: the tool `shuf`, where any order will do.
-/

namespace MatrixFlow.Script

open ToolM

/-! ## Orders from pairs -/

/-- A name, how many others come before it, and those that come behind it, the last one that was
told first. -/
structure Ranked where
  name : Octets
  before : Nat
  behind : List Nat
  /-- It has been put in order. -/
  done : Bool
  /-- The name that it is chained to while a circle is looked for. -/
  link : Option Nat

/-- The number of a name, which is noted if it is new. -/
def rankedIndex (names : Array Ranked) (name : Octets) : Array Ranked × Nat :=
  match names.findIdx? fun r => r.name == name with
  | some i => (names, i)
  | none => (names.push ⟨name, 0, [], false, none⟩, names.size)

/-- The names of a text, with the pairs that it tells. -/
def rankedPairs (names : Array Ranked) : List Octets → Array Ranked
  | a :: b :: rest =>
    let (names, i) := rankedIndex names a
    let (names, j) := rankedIndex names b
    if i = j then rankedPairs names rest
    else
      let names := names.modify i fun r => { r with behind := j :: r.behind }
      rankedPairs (names.modify j fun r => { r with before := r.before + 1 }) rest
  | _ => names

/-- Puts names in order as long as there are some that nothing comes before. -/
def drainRanked : (fuel : Nat) → Array Ranked → List Nat → List Octets →
    Array Ranked × List Octets
  | 0, names, _, made => (names, made)
  | _, names, [], made => (names, made)
  | fuel + 1, names, i :: queue, made =>
    match names[i]? with
    | none => (names, made)
    | some r =>
      let names := names.modify i fun r => { r with done := true }
      let (names, freed) := r.behind.foldl (fun (found : Array Ranked × List Nat) j =>
        let names := found.1.modify j fun r => { r with before := r.before - 1 }
        if names[j]?.any (·.before = 0) then (names, found.2 ++ [j]) else (names, found.2))
        (names, [])
      drainRanked fuel names (queue ++ freed) (r.name :: made)

/-- Looks at names in order for one that is chained to a circle: the last one of the chain, and the
circle that was found with the pair that is given up. -/
def findCircle (order : List Nat) (names : Array Ranked) (loop : Option Nat) :
    Array Ranked × Option Nat × Option (Nat × Nat) :=
  match order with
  | [] => (names, loop, none)
  | k :: rest =>
    match names[k]? with
    | none => findCircle rest names loop
    | some r =>
      if r.before = 0 || r.done then findCircle rest names loop
      else match loop with
        | none => findCircle rest names (some k)
        | some l =>
          if r.behind.contains l then
            if r.link.isSome then (names, loop, some (k, l))
            else findCircle rest (names.modify k fun r => { r with link := some l }) (some k)
          else findCircle rest names loop

/-- Goes round until a circle has been found. -/
def searchCircle (order : List Nat) : (fuel : Nat) → Array Ranked → Option Nat →
    Array Ranked × Option (Nat × Nat × Nat)
  | 0, names, _ => (names, none)
  | fuel + 1, names, loop =>
    match findCircle order names loop with
    | (names, some l, some (k, s)) => (names, some (l, k, s))
    | (names, loop, _) => searchCircle order fuel names loop

/-- The names of a chain up to one of them. -/
def chain (names : Array Ranked) (last : Nat) : (fuel : Nat) → Nat → List Octets
  | 0, _ => []
  | fuel + 1, i =>
    match names[i]? with
    | none => []
    | some r =>
      if i = last then [r.name]
      else match r.link with
        | some next => r.name :: chain names last fuel next
        | none => [r.name]

/-- All names in order, and the circles that had to be opened. -/
def rankAll (order : List Nat) : (fuel : Nat) → Array Ranked → List Octets × List (List Octets)
  | 0, _ => ([], [])
  | fuel + 1, names =>
    let free := order.filter fun i => names[i]?.any fun r => r.before = 0 && !r.done
    let (names, made) := drainRanked (names.size + 1) names free []
    if names.all (·.done) then (made.reverse, [])
    else match searchCircle order (names.size + 2) names none with
      | (names, some (l, k, s)) =>
        let circle := chain names k (names.size + 1) l
        let names := names.modify k fun r => { r with behind := r.behind.erase s }
        let names := names.modify s fun r => { r with before := r.before - 1 }
        let names := names.map fun r => { r with link := none }
        let (more, circles) := rankAll order fuel names
        (made.reverse ++ more, circle :: circles)
      | (_, none) => (made.reverse, [])

/-- The tool `tsort`. -/
def tsortTool : Tool :=
  withOptions (.of "" "" []) fun o => do
    match o.rest with
    | _ :: extra :: _ =>
      warn (octets "extra operand '" ++ extra ++ octets "'\nTry '" ++ (← read).name ++
        octets " \x2d\x2dhelp' for more information.")
      return 1
    | rest =>
      let path := rest.headD ['-']
      match ← contents path with
      | .error e =>
        warn (fileMessage path e)
        return 1
      | .ok cs =>
        let spaced := cs.map fun c => if c == '\n' || c == '\t' then ' ' else c
        let words := (Text.splitOn ' ' spaced).filter fun w => !w.isEmpty
        if words.length % 2 = 1 then
          warn (path ++ octets ": input contains an odd number of tokens")
          return 1
        else
          let names := rankedPairs #[] words
          let order := (List.range names.size).mergeSort fun i j =>
            match names[i]?, names[j]? with
            | some a, some b => String.ofList a.name ≤ String.ofList b.name
            | _, _ => true
          let (made, circles) := rankAll order (words.length + 2) names
          circles.forM fun circle => do
            warn (path ++ octets ": input contains a loop:")
            circle.forM warn
          made.forM sayLine
          return if circles.isEmpty then 0 else 1

/-! ## Any order -/

/-- The range that a text is. -/
def rangeOf? (text : Octets) : Option (Nat × Nat) :=
  match (Text.splitOn '-' text).map fun p => (String.ofList p).toNat? with
  | [some a, some b] => if a ≤ b + 1 then some (a, b) else none
  | _ => none

/-- The tool `shuf`. -/
def shufTool : Tool :=
  withOptions (.of "erz" "ino" [("echo", "e"), ("input-range", "i"), ("head-count", "n"),
      ("output", "o"), ("repeat", "r"), ("zero-terminated", "z"),
      ("random-source", "source=")]) fun o => do
    let help := octets "\nTry '" ++ (← read).name ++ octets " \x2d\x2dhelp' for more information."
    match o.value? 'i', o.rest with
    | some text, [] =>
      match rangeOf? text with
      | none =>
        warn (octets "invalid input range: '" ++ text ++ ['\x27'])
        return 1
      | some (a, b) =>
        printed o ((List.range (b + 1 - a)).map fun i => numberOctets (a + i))
    | some _, extra :: _ =>
      warn (octets "extra operand '" ++ extra ++ ['\x27'] ++ help)
      return 1
    | none, rest =>
      if o.has 'e' then printed o rest
      else match rest with
        | _ :: extra :: _ =>
          warn (octets "extra operand '" ++ extra ++ ['\x27'] ++ help)
          return 1
        | rest =>
          let path := rest.headD ['-']
          match ← contents path with
          | .error e =>
            warn (fileMessage path e)
            return 1
          | .ok cs => printed o (bareLines cs)
where
  /-- Prints as many lines as are asked for. -/
  printed (o : ToolOptions) (lines : List Octets) : Tool := do
    match o.value? 'n' with
    | none =>
      lines.forM sayLine
      return 0
    | some text =>
      match (String.ofList text).toNat? with
      | some n =>
        (lines.take n).forM sayLine
        return 0
      | none =>
        warn (octets "invalid line count: '" ++ text ++ ['\x27'])
        return 1

end MatrixFlow.Script
