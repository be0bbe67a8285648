/-
  An endpoint together with its follower.

  The caller's write has two halves.  It starts by locking the value, unless
  the attribute holds it already; the engine may then keep it waiting; it
  finishes by writing the value, and a write that fails gives its lock back.
  Writes of others have no lock, and a peer's command does not wait.

  * `startWrite`, `finishWrite`: the two halves; `write` does both at once;
  * `command`: a command of a peer;
  * `Spec.definition`: what the engine is asked for when an endpoint is made.
-/
import HomeGateway.Bridge.Follower
import HomeGateway.Engine.Journal
import HomeGateway.Settings.Load

namespace HomeGateway.Bridge

open HomeGateway Device Engine

/-! ## Making an endpoint -/

/-- What a caller asks for. -/
structure Spec where
  /-- the name of the device type -/
  typeName : String
  /-- the id of the endpoint -/
  id : String
  /-- its labels -/
  labels : Labels
  /-- the attributes that differ from the defaults -/
  attributes : Fields

/-- The definition that a caller's wishes come to; labels are cut to a length. -/
def Spec.definition (maxLabel : Nat) (s : Spec) : Except Failure Definition := do
  let type ← DeviceType.ofName s.typeName
  let made ← configure type s.attributes (merge type.defaults s.attributes)
  return ⟨s.id, type, s.labels.truncate maxLabel, made.tree, made.features⟩

/-! ## Virtual endpoints -/

/-- An endpoint and its follower. -/
structure VirtualEndpoint where
  /-- the endpoint -/
  endpoint : Endpoint
  /-- its follower -/
  follower : Follower
deriving Repr

/-- An endpoint after something happened to it, and the events this caused. -/
structure Reaction where
  /-- the endpoint afterwards -/
  after : VirtualEndpoint
  /-- the events -/
  events : List BridgeEvent

namespace VirtualEndpoint

/-- The endpoint of a definition, followed from the start. -/
def make (window sink : Nat) (d : Definition) : VirtualEndpoint :=
  ⟨.ofDefinition d, ⟨d.id, d.type, .empty window, sink⟩⟩

/-- Let the follower hear notices. -/
def hear (now : Nat) (v : VirtualEndpoint) (e : Endpoint) (notices : List Notice) : Reaction :=
  let (follower, events) := v.follower.hearAll now notices
  ⟨⟨e, follower⟩, events⟩

/-- Start a caller's write; it is locked unless the attribute holds the value. -/
def startWrite (now : Nat) (cluster attr : String) (value : Json) (v : VirtualEndpoint) :
    VirtualEndpoint × Bool :=
  if v.endpoint.holds cluster attr value then (v, false)
  else
    ({ v with follower := { v.follower with
        locks := v.follower.locks.lock now (lockKey cluster attr) value } },
      true)

/-- Give back the lock of a write. -/
def unlock (now : Nat) (cluster attr : String) (value : Json) (v : VirtualEndpoint) :
    VirtualEndpoint :=
  { v with follower := { v.follower with
      locks := v.follower.locks.release now (lockKey cluster attr) value } }

/-- Finish a write. -/
def finishWrite (now : Nat) (cluster attr : String) (value : Json) (locked : Bool)
    (v : VirtualEndpoint) : Except EngineError Unit × Reaction :=
  match v.endpoint.set cluster attr value with
  | .ok (e, notices) => (.ok (), v.hear now e notices)
  | .error f => (.error f, ⟨if locked then v.unlock now cluster attr value else v, []⟩)

/-- A caller's write that does not wait. -/
def write (now : Nat) (cluster attr : String) (value : Json) (v : VirtualEndpoint) :
    Except EngineError Unit × Reaction :=
  let (v, locked) := v.startWrite now cluster attr value
  v.finishWrite now cluster attr value locked

/-- A write by someone else that does not wait. -/
def writeByOther (now : Nat) (cluster attr : String) (value : Json) (v : VirtualEndpoint) :
    Except EngineError Unit × Reaction :=
  v.finishWrite now cluster attr value false

/-- A command of a peer. -/
def command (now : Nat) (cluster command : String) (args : Json) (v : VirtualEndpoint) :
    Except EngineError Unit × Reaction :=
  match v.endpoint.invoke cluster command args with
  | .ok (e, notices) => (.ok (), v.hear now e notices)
  | .error f => (.error f, ⟨v, []⟩)

/-- Whether a write of the caller to an attribute still expects its echo. -/
def isLocked (now : Nat) (cluster attr : String) (v : VirtualEndpoint) : Bool :=
  v.follower.locks.isLocked now (lockKey cluster attr)

end VirtualEndpoint

/-! ## Endpoints as the engine keeps them -/

/-- A bridged endpoint with whoever is told of its changes. -/
inductive Bridged where
  /-- the recorder is told -/
  | recorded (e : Endpoint)
  /-- a caller is told -/
  | followed (v : VirtualEndpoint)

namespace Bridged

/-- The endpoint itself. -/
def endpoint : Bridged → Endpoint
  | .recorded e => e
  | .followed v => v.endpoint

/-- The entries of a reaction. -/
def journal (r : Reaction) : Journal :=
  r.events.map fun e => .event r.after.follower.sink (.ofBridge e)

/-- Start a write; `own` says that the caller itself writes. -/
def startWrite (now : Nat) (own : Bool) (cluster attr : String) (value : Json) (b : Bridged) :
    Bridged × Bool :=
  match b, own with
  | .followed v, true =>
    let (v, locked) := v.startWrite now cluster attr value
    (.followed v, locked)
  | b, _ => (b, false)

/-- Finish a write. -/
def finishWrite (now : Nat) (cluster attr : String) (value : Json) (locked : Bool) :
    Bridged → Except EngineError Unit × Bridged × Journal
  | .recorded e =>
    match e.set cluster attr value with
    | .ok (e, notices) => (.ok (), .recorded e, notices.map .notice)
    | .error f => (.error f, .recorded e, [])
  | .followed v =>
    let (result, r) := v.finishWrite now cluster attr value locked
    (result, .followed r.after, journal r)

/-- A command of a peer. -/
def command (now : Nat) (cluster command : String) (args : Json) :
    Bridged → Except EngineError Unit × Bridged × Journal
  | .recorded e =>
    match e.invoke cluster command args with
    | .ok (e, notices) => (.ok (), .recorded e, notices.map .notice)
    | .error f => (.error f, .recorded e, [])
  | .followed v =>
    let (result, r) := v.command now cluster command args
    (result, .followed r.after, journal r)

/-- Whether a write of the caller to an attribute still expects its echo. -/
def isLocked (now : Nat) (cluster attr : String) : Bridged → Bool
  | .recorded _ => false
  | .followed v => v.isLocked now cluster attr

end Bridged

end HomeGateway.Bridge
