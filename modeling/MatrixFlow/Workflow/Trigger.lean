/-!
# Trigger policies

`TriggerPolicy` is the set of events that a workflow may be started by. Its events are kept in
order, each once. `TriggerPolicy.standard` holds the events that are known without further
settings.
-/

namespace MatrixFlow

/-- The events that a workflow may name, in order. -/
structure TriggerPolicy where
  events : List String
deriving DecidableEq, Repr

namespace TriggerPolicy

/-- Allows no event. -/
def empty : TriggerPolicy := ⟨[]⟩

/-- Puts a text in its place among texts in order. -/
def insertOrdered (event : String) : List String → List String
  | [] => [event]
  | e :: rest =>
    if event = e then e :: rest
    else if event < e then event :: e :: rest
    else e :: insertOrdered event rest

/-- Allows one more event. -/
def insert (policy : TriggerPolicy) (event : String) : TriggerPolicy :=
  ⟨insertOrdered event policy.events⟩

/-- Allows several more events. -/
def insertAll (policy : TriggerPolicy) (events : List String) : TriggerPolicy :=
  events.foldl insert policy

/-- Allows the listed events. -/
def ofList (events : List String) : TriggerPolicy :=
  empty.insertAll events

/-- Allows the events that are commonly used. -/
def standard : TriggerPolicy :=
  ofList ["push", "pull_request", "pull_request_target", "workflow_dispatch", "schedule",
    "release", "merge_group", "workflow_call"]

/-- The policy allows an event. -/
def allows (policy : TriggerPolicy) (event : String) : Bool :=
  policy.events.contains event

end TriggerPolicy

end MatrixFlow
