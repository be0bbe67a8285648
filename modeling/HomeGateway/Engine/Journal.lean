/-
  What the outside gets to see, in its order.

  Everything that happens in a home is told to someone: events go to the sink
  of a session, notices of an endpoint and news of a node may go to a recorder
  instead, and work that had to wait reports how it ended.  The journal keeps
  them in one row.
-/
import HomeGateway.Engine.Endpoint
import HomeGateway.Engine.Report
import HomeGateway.Message.Frame

namespace HomeGateway.Engine

open HomeGateway

/-- What a controller is told of a node. -/
inductive News where
  /-- an attribute has a new value -/
  | attributeChanged (node : Nat) (report : AttributeReport)
  /-- the node emitted an event -/
  | eventTriggered (node : Nat) (report : EventReport)
  /-- the connection to the node changed -/
  | stateChanged (node : Nat) (state : NodeState)
deriving Repr

/-- Name the node in the place of a report. -/
def named (node : Nat) (p : Place) : Place :=
  { p with nodeId := some node }

/-- The event that brings news to a caller; reports then name their node. -/
def News.event : News → Event
  | .attributeChanged node r =>
    .ofKind .attributeChanged (some { r with path := named node r.path }.toJson)
  | .eventTriggered node r =>
    .ofKind .eventTriggered (some { r with path := named node r.path }.toJson)
  | .stateChanged node s =>
    .ofKind .nodeStateInformation (some (.obj [("nodeId", .ofNat node), ("state", s.toJson)]))

/-- One thing that someone is told. -/
inductive Entry where
  /-- an event for the sink of a session -/
  | event (sink : Nat) (e : Event)
  /-- a notice for the recorder of endpoints -/
  | notice (n : Notice)
  /-- news for the recorder of nodes -/
  | news (n : News)
  /-- the response to a request that had to wait -/
  | answered (session : Nat) (r : Response)
  /-- the end of a write, by someone else, that had to wait -/
  | written (who : String) (result : Except EngineError Unit)

/-- What was told, in order. -/
abbrev Journal := List Entry

end HomeGateway.Engine
