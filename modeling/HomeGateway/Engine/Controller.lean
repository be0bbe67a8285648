/-
  Controllers: how nodes are paired and reached.

  A controller keeps its nodes in the storage under its path and id.  A later
  controller of the same key takes them over, with their listener; ids of
  nodes count from one and are never given twice.  A removed node is no longer
  the controller's, but whoever holds it may go on with it.

  * `createController`, `closeController`: the life of a controller;
  * `commissionNode`, `connectNode`, `removeNode`: the life of a node;
  * `onNode`: do something with a node and tell its listener.
-/
import HomeGateway.Engine.State

namespace HomeGateway.Engine

open HomeGateway

/-! ## Stores and nodes -/

/-- What names a node: the store of its controller and its id. -/
structure NodeRef where
  /-- the number of the store -/
  store : Nat
  /-- the id of the node -/
  id : Nat
deriving DecidableEq, Repr

/-- A node, removed or not. -/
def State.held? (r : NodeRef) (s : State) : Option Node :=
  (s.controllerStores[r.store]?).bind fun st => st.nodes.find? (·.id = r.id)

/-- The nodes of a store that were not removed. -/
def ControllerStore.kept (st : ControllerStore) : List Node :=
  st.nodes.filter (!·.removed)

/-- A node that was not removed. -/
def State.node? (r : NodeRef) (s : State) : Option Node :=
  (s.controllerStores[r.store]?).bind fun st => st.kept.find? (·.id = r.id)

/-- Change the store of a controller. -/
def State.changeStore (n : Nat) (f : ControllerStore → ControllerStore) (s : State) : State :=
  { s with controllerStores := s.controllerStores.modify n f }

/-- Put a node in the place of the one with its id. -/
def ControllerStore.put (node : Node) (st : ControllerStore) : ControllerStore :=
  { st with nodes := st.nodes.map fun n => if n.id = node.id then node else n }

/-- Change the nodes that were not removed. -/
def ControllerStore.changeKept (f : Node → Node) (st : ControllerStore) : ControllerStore :=
  { st with nodes := st.nodes.map fun n => if n.removed then n else f n }

/-- A node that must exist, removed or not. -/
def theNode (r : NodeRef) : Act Node := do
  match (← get).held? r with
  | some node => return node
  | none => Act.fail (.nodeNotFound r.id)

/-- Keep a changed node and tell its listener. -/
def settle (r : NodeRef) (step : Node.Step) : Act Unit := do
  modify (·.changeStore r.store (·.put step.1))
  tell (step.2.map step.1.listener.entry)

/-- Do something with a node. -/
def onNode (r : NodeRef) (f : Node → Except EngineError Node.Step) : Act Unit := do
  let node ← theNode r
  let step ← Act.ofExcept (f node)
  settle r step

/-- Ask a node something. -/
def askNode {α : Type} (r : NodeRef) (f : Node → Except EngineError α) : Act α := do
  let node ← theNode r
  Act.ofExcept (f node)

/-- The node of an id that some controller of this id has. -/
def State.commissionedNode? (controller : String) (id : Nat) (s : State) : Option NodeRef :=
  ((List.range s.controllerStores.length).map fun n => NodeRef.mk n id).find? fun r =>
    match s.controllerStores[r.store]? with
    | some st => st.key.id = controller && (s.node? r).isSome
    | none => false

/-! ## Controllers -/

/-- How a controller is made. -/
structure ControllerConfig where
  /-- its id -/
  id : String
  /-- where it keeps its nodes -/
  storagePath : String
  /-- the id of its own node -/
  nodeId : Nat
deriving DecidableEq, Repr

/-- The storage of a controller. -/
def ControllerConfig.key (c : ControllerConfig) : StoreKey :=
  ⟨.ofString c.storagePath, c.id⟩

/-- The number of the store of a key, made if there is none. -/
def openControllerStore (key : StoreKey) : Act Nat := do
  let s ← get
  match s.controllerStores.findIdx? (·.key = key) with
  | some n => return n
  | none =>
    set { s with controllerStores := s.controllerStores ++ [(⟨key, [], 1⟩ : ControllerStore)] }
    return s.controllerStores.length

/-- Make a controller, which takes over the nodes of its store. -/
def createController (config : ControllerConfig) (listener : Listener) : Act Nat := do
  trip .createController
  let store ← openControllerStore config.key
  modify (·.changeStore store (·.changeKept fun n => { n with listener := listener }))
  let s ← get
  set { s with controllers :=
      s.controllers ++ [(⟨config.id, config.nodeId, store, false, listener⟩ : Controller)] }
  return s.controllers.length

/-- A controller that must exist. -/
def theController (c : Nat) : Act Controller := do
  match (← get).controllers[c]? with
  | some controller => return controller
  | none => Act.fail (.invalidState "Controller closed")

/-- A controller that is open. -/
def openController (c : Nat) : Act Controller := do
  let controller ← theController c
  if controller.closed then
    Act.fail (.invalidState ("Controller " ++ controller.id ++ " closed"))
  return controller

/-- Pair the device that a request means; the id of the node is given. -/
def commissionNode (c : Nat) (r : Pairing.Request) : Act Nat := do
  trip .commission
  let controller ← openController c
  let (device, others) ← Act.ofExcept (Device.find? r (← get).devices)
  modify fun s => { s with devices := others }
  let id := (((← get).controllerStores[controller.store]?).map (·.nextId)).getD 1
  let node := Node.ofDevice id controller.listener device
  modify (·.changeStore controller.store fun st =>
    { st with nodes := st.nodes ++ [node], nextId := id + 1 })
  settle ⟨controller.store, id⟩ (node.link true)
  return id

/-- The ids of the nodes of a controller. -/
def commissionedNodes (c : Nat) : Act (List Nat) := do
  let controller ← openController c
  return (((← get).controllerStores[controller.store]?).map
    fun st => st.kept.map (·.id)).getD []

/-- Connect a node, unless it is connected. -/
def connectNode (c : Nat) (id : Nat) : Act NodeRef := do
  trip .connect
  let controller ← openController c
  let r : NodeRef := ⟨controller.store, id⟩
  match (← get).node? r with
  | none => Act.fail (.nodeNotFound id)
  | some node =>
    settle r node.connect
    return r

/-- Remove a node. -/
def removeNode (c : Nat) (id : Nat) : Act Unit := do
  let controller ← openController c
  let r : NodeRef := ⟨controller.store, id⟩
  match (← get).node? r with
  | none => Act.fail (.nodeNotFound id)
  | some node => settle r node.remove

/-- The live sessions of a controller. -/
def sessions (c : Nat) : Act (List Json) := do
  let controller ← theController c
  let kept := (((← get).controllerStores[controller.store]?).map (·.kept)).getD []
  return (kept.filter (·.connected)).map fun n =>
    Json.ofPairs
      [ ("name", .str (controller.id ++ "-" ++ Text.showNat n.id)),
        ("nodeId", .ofNat controller.ownNode),
        ("peerNodeId", .ofNat n.id),
        ("isPeerActive", .bool true) ]

/-- Close a controller; its nodes lose their sessions. -/
def closeController (c : Nat) : Act Unit := do
  trip .closeController
  let controller ← theController c
  modify fun s => { s with controllers := s.controllers.modify c fun k => { k with closed := true } }
  modify (·.changeStore controller.store (·.changeKept fun n => { n with connected := false }))

end HomeGateway.Engine
