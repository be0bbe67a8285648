/-
  The session of a caller that controls nodes.

  An initialised session has a controller.  Whatever is done with a node first
  connects it, if it is not connected; the events of the nodes go to the
  session.

  * `init`, `shutdown`: the life of the controller;
  * `pairNode`, `removeNode`, …: what is done with nodes;
  * `locate`: the cluster that something is done with.
-/
import HomeGateway.Client.Snapshot
import HomeGateway.Engine.Controller
import HomeGateway.Engine.Use
import HomeGateway.Identity

namespace HomeGateway.Client

open HomeGateway Engine

/-- What a caller says of its controller when it connects. -/
structure Params where
  /-- the name of the controller -/
  controllerName : String
  /-- where the controller keeps its nodes -/
  storagePath : String
  /-- the id of the controller's own node -/
  nodeId : Nat
deriving DecidableEq, Repr

/-- Who the connection is. -/
def Params.identity (p : Params) : Identity :=
  ⟨.client, p.controllerName⟩

/-- How the controller is made. -/
def Params.controllerConfig (p : Params) : ControllerConfig :=
  ⟨p.controllerName, p.storagePath, p.nodeId⟩

/-- The session of a client. -/
structure Session where
  /-- what the caller said of its controller -/
  params : Params
  /-- where its events go -/
  sink : Nat
  /-- the number of its controller, once it is initialised -/
  controller : Option Nat
deriving Repr

/-- A session before it is initialised. -/
def Session.new (params : Params) (sink : Nat) : Session :=
  ⟨params, sink, none⟩

/-- What a session does. -/
abbrev Doing (α : Type) := Use Session α

/-! ## Life -/

/-- Make the controller, then close an earlier one. -/
def init : Doing Unit := do
  let s ← Use.own
  let c ← Use.engine (createController s.params.controllerConfig (.sink s.sink))
  Use.change fun s => { s with controller := some c }
  if let some old := s.controller then
    Use.engine (closeController old)

/-- Close the controller at the end of a connection; a failure is passed
    over. -/
def shutdown : Doing Unit := do
  let s ← Use.own
  Use.change fun s => { s with controller := none }
  if let some c := s.controller then
    let _ ← Use.engine (Act.attempt (closeController c))

/-- The controller of an initialised session, or the failure that there is
    none. -/
def theController : Doing Nat := do
  match (← Use.own).controller with
  | some c => return c
  | none => Use.fail (.notInitialized "Controller")

/-! ## Nodes -/

/-- A node, connected if it was not. -/
def connected (id : Nat) : Doing NodeRef := do
  Use.engine (connectNode (← theController) id)

/-- Do something with a connected node. -/
def atNode (id : Nat) (f : Node → Except EngineError Node.Step) : Doing Unit := do
  let r ← connected id
  Use.engine (onNode r f)

/-- Ask a connected node something. -/
def ofNode {α : Type} (id : Nat) (f : Node → Except EngineError α) : Doing α := do
  let r ← connected id
  Use.engine (askNode r f)

/-- The ids of the nodes. -/
def listNodes : Doing Json := do
  let ids ← Use.engine (commissionedNodes (← theController))
  return .arr (ids.map .ofNat)

/-- A node as one value. -/
def getNode (id : Nat) : Doing Json :=
  ofNode id snapshot

/-- Pair a device. -/
def pairNode (r : Pairing.Request) : Doing Json := do
  let id ← Use.engine (commissionNode (← theController) r)
  return .ofNat id

/-- End the session of a node. -/
def disconnectNode (id : Nat) : Doing Unit :=
  atNode id (·.disconnect)

/-- Establish the session of a node again. -/
def reconnectNode (id : Nat) : Doing Unit := do
  let c ← theController
  let ids ← Use.engine (commissionedNodes c)
  if !ids.contains id then
    Use.fail (.engine (.nodeNotFound id))
  let r ← Use.engine (connectNode c id)
  Use.engine (onNode r fun n => .ok n.reconnect)

/-- Remove a node. -/
def removeNode (id : Nat) : Doing Unit := do
  Use.engine (Engine.removeNode (← theController) id)

/-- The fabrics of a node. -/
def getFabrics (id : Nat) : Doing Json := do
  let fabrics ← ofNode id (·.fabricTable)
  return .arr (fabrics.map (·.toJson))

/-- Remove a fabric from a node, except the controller's own. -/
def removeFabric (id index : Nat) : Doing Unit := do
  let r ← connected id
  let current ← Use.engine (askNode r (·.currentIndex))
  if current = index then
    Use.fail .cannotRemoveOwnFabric
  Use.engine (onNode r (·.removeFabric index))

/-- The live sessions. -/
def sessionInformation : Doing Json := do
  let all ← Use.engine (sessions (← theController))
  return .arr all

/-- Open a basic window on a node. -/
def basicWindow (id timeout : Nat) : Doing Unit :=
  atNode id (·.openBasicWindow timeout)

/-- Open an enhanced window on a node and give its codes. -/
def enhancedWindow (id timeout : Nat) : Doing Json := do
  let codes ← ofNode id (·.enhancedCodes timeout)
  return codes.toJson

/-! ## Clusters -/

/-- A cluster of a node and the number of its endpoint. -/
def locate (endpoint : Nat) (cluster : String) (n : Node) : Except EngineError Cluster :=
  match n.root.lookup? endpoint with
  | none => .error (.endpointNotFound (Text.showNat endpoint))
  | some e =>
    match e.cluster? cluster with
    | none => .error (.clusterNotFound cluster)
    | some c => .ok c

/-- Give a cluster a command. -/
def invokeCommand (id endpoint : Nat) (cluster command : String) (args : Json) : Doing Json := do
  atNode id fun n => do
    n.invoke endpoint (← locate endpoint cluster n) command args
  return .null

/-- Write an attribute. -/
def writeAttribute (id endpoint : Nat) (cluster attr : String) (value : Json) : Doing Unit :=
  atNode id fun n => do
    n.writeAttribute endpoint (← locate endpoint cluster n) attr value

/-- The value of an attribute, `null` if it has none. -/
def readAttribute (id endpoint : Nat) (cluster attr : String) : Doing Json := do
  let v ← ofNode id fun n => do
    n.readAttribute (← locate endpoint cluster n) attr
  return .ofOption v

end HomeGateway.Client
