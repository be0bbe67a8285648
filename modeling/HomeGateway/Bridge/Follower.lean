/-
  How a caller follows an endpoint.

  A follower turns the notices of an endpoint into bridge events for the caller
  who made it.  A change that the caller's own write caused is hidden by a
  lock; of the other changes those of observed attributes are told; what a
  peer's command sets is always told.

  * `hear`: the event of one notice, if any;
  * `hearAll`: those of several notices, in their order.
-/
import HomeGateway.Bridge.UpdateLocks
import HomeGateway.Engine.Endpoint
import HomeGateway.Message.Frame

namespace HomeGateway.Bridge

open HomeGateway Device Engine

/-- The follower of an endpoint. -/
structure Follower where
  /-- the id of the endpoint -/
  endpointId : String
  /-- its device type -/
  type : DeviceType
  /-- the writes whose echo is expected -/
  locks : UpdateLocks
  /-- where the events go -/
  sink : Nat
deriving Repr

namespace Follower

/-- The event that tells an attribute's value. -/
def event (m : Follower) (cluster attr : String) (value : Json) : BridgeEvent :=
  ⟨m.endpointId, cluster, attr, value⟩

/-- What becomes of a notice: the follower after it, and the event it causes. -/
def hear (now : Nat) (m : Follower) : Notice → Follower × Option BridgeEvent
  | .invoked cluster attr value => (m, some (m.event cluster attr value))
  | .changed cluster attr value =>
    let (expected, locks) := m.locks.consume now (lockKey cluster attr) value
    ({ m with locks := locks },
      if expected then none
      else if m.type.observes cluster attr then some (m.event cluster attr value)
      else none)

/-- What becomes of several notices. -/
def hearAll (now : Nat) : Follower → List Notice → Follower × List BridgeEvent
  | m, [] => (m, [])
  | m, n :: rest =>
    let (m, event) := m.hear now n
    let (m, events) := hearAll now m rest
    (m, event.toList ++ events)

end Follower

end HomeGateway.Bridge
