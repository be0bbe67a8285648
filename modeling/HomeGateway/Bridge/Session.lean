/-
  The session of a caller that presents virtual devices.

  An initialised session has a server node, its aggregator, and the endpoints
  made in it.  Making an endpoint reserves its id first, because the engine
  may keep the addition waiting; a session that was reset in the meantime no
  longer takes the endpoint in, which the number of its generation shows.

  * `init`, `close`, `reset`: the life of the server node;
  * `addEndpoint` reserves, `finishAddition` adds and `settleAddition` takes in;
  * `setState`: a caller's write.
-/
import HomeGateway.Engine.Server
import HomeGateway.Engine.Use
import HomeGateway.Identity

namespace HomeGateway.Bridge

open HomeGateway Engine

/-! ## Parameters -/

/-- What a caller says of its bridge when it connects. -/
structure Params where
  /-- where the server node keeps its state -/
  storagePath : String
  /-- whether that state is cleared at first -/
  resetStorage : Bool
  /-- the name of the device -/
  deviceName : String
  /-- the name of the vendor -/
  vendorName : String
  /-- the setup passcode -/
  passcode : Nat
  /-- the long discriminator -/
  discriminator : Nat
  /-- the vendor -/
  vendorId : Nat
  /-- the name of the product -/
  productName : String
  /-- the product -/
  productId : Nat
  /-- the network port -/
  port : Nat
  /-- the id of the bridge -/
  uniqueId : String
deriving DecidableEq, Repr

/-- Who the connection is. -/
def Params.identity (p : Params) : Identity :=
  ⟨.bridge, p.uniqueId⟩

/-- How the server node presents itself. -/
def Params.serverConfig (p : Params) (clearStorage : Bool) : ServerNodeConfig where
  id := p.uniqueId
  storagePath := p.storagePath
  clearStorage := clearStorage
  port := p.port
  passcode := p.passcode
  discriminator := p.discriminator
  deviceName := p.deviceName
  vendorName := p.vendorName
  vendorId := p.vendorId
  productName := p.productName
  productId := p.productId
  nodeLabel := p.productName
  productLabel := p.productName
  serialNumber := "mgw-" ++ p.uniqueId

/-! ## State -/

/-- An endpoint of a session. -/
structure Member where
  /-- its id -/
  id : String
  /-- its device type -/
  type : Device.DeviceType
  /-- its number in the engine -/
  handle : Nat
deriving Repr

/-- An initialised session. -/
structure Live where
  /-- how many server nodes the session had before this one -/
  generation : Nat
  /-- the number of the server node -/
  server : Nat
  /-- the number of its aggregator -/
  aggregator : Nat
  /-- the endpoints, in the order of their making -/
  members : List Member
  /-- the ids of endpoints that are being made -/
  pending : List String
deriving Repr

/-- The endpoint of an id. -/
def Live.member? (l : Live) (id : String) : Option Member :=
  l.members.find? (·.id = id)

/-- Whether an id is taken. -/
def Live.taken (l : Live) (id : String) : Bool :=
  (l.member? id).isSome || l.pending.contains id

/-- The session of a bridge. -/
structure Session where
  /-- what the caller said of its bridge -/
  params : Params
  /-- how its virtual devices behave -/
  options : BridgeOptions
  /-- where its events go -/
  sink : Nat
  /-- whether the next server node clears the storage -/
  clearNext : Bool
  /-- how many server nodes the session has had -/
  generation : Nat
  /-- what there is once the session is initialised -/
  live : Option Live
deriving Repr

/-- A session before it is initialised. -/
def Session.new (params : Params) (options : BridgeOptions) (sink : Nat) : Session :=
  ⟨params, options, sink, params.resetStorage, 0, none⟩

/-- What a session does. -/
abbrev Doing (α : Type) := Use Session α

/-- An initialised session, or the failure that it is none. -/
def theLive : Doing Live := do
  match (← Use.own).live with
  | some l => return l
  | none => Use.fail (.notInitialized "Bridge")

/-! ## Life -/

/-- Make the server node and its aggregator; an earlier node is closed.  Only
    the first node of a session clears the storage. -/
def init : Doing Unit := do
  let s ← Use.own
  Use.change fun s => { s with live := none }
  if let some l := s.live then
    Use.engine (closeServer l.server)
  Use.change fun s => { s with clearNext := false }
  let server ← Use.engine (createServer (s.params.serverConfig s.clearNext))
  let aggregator ← Use.engine (Engine.addAggregator server)
  Use.change fun s =>
    { s with
      generation := s.generation + 1
      live := some ⟨s.generation, server, aggregator, [], []⟩ }

/-- Close the server node and forget the endpoints. -/
def close : Doing Unit := do
  let s ← Use.own
  Use.change fun s => { s with live := none }
  if let some l := s.live then
    Use.engine (closeServer l.server)

/-- Close the server node at the end of a connection; a failure is passed
    over. -/
def shutdown : Doing Unit := fun own =>
  let (_, after) := close own
  (.ok (), after)

/-- Begin anew, with no endpoints. -/
def reset : Doing Unit := do
  close
  init

/-! ## Endpoints -/

/-- How far a call has come. -/
inductive Progress where
  /-- it is finished -/
  | done (result : Json)
  /-- it waits to write -/
  | writing (w : Write)
  /-- it waits to add an endpoint -/
  | adding (generation aggregator : Nat) (d : Definition)

/-- Reserve the id of an endpoint. -/
def reserve (id : String) : Doing Live := do
  let l ← theLive
  if l.taken id then
    Use.fail (.duplicateEndpoint id)
  Use.change fun s => { s with live := some { l with pending := id :: l.pending } }
  return l

/-- Take the made endpoint in, unless the session was reset in the meantime;
    the reservation ends either way. -/
def settleAddition (generation : Nat) (d : String) (made : Except Mishap Member) : Doing Unit := do
  let s ← Use.own
  if let some l := s.live then
    if l.generation = generation then
      let freed := { l with pending := l.pending.filter (· ≠ d) }
      Use.change fun s => { s with live := some <|
        match made with
        | .ok m => { freed with members := freed.members ++ [m] }
        | .error _ => freed }
  match made with
  | .ok _ => return ()
  | .error m => throw m

/-- Add the endpoint to the aggregator.  An engine that collapses leaves the id
    reserved. -/
def finishAddition (generation aggregator : Nat) (d : Definition) : Doing Unit := do
  let s ← Use.own
  let made := Bridged.followed (.make s.options.lockWindow s.sink d)
  match ← Use.engine (Act.attempt (Engine.addEndpoint aggregator made)) with
  | .ok handle => settleAddition generation d.id (.ok ⟨d.id, d.type, handle⟩)
  | .error (.failed f) => settleAddition generation d.id (.error (.failed f))
  | .error (.collapsed reason) => throw (.collapsed reason)

/-- Make an endpoint. -/
def addEndpoint (spec : Spec) : Doing Progress := do
  let l ← reserve spec.id
  match spec.definition (← Use.own).options.maxLabel with
  | .error f =>
    settleAddition l.generation spec.id (.error (.failed f))
    return .done .null
  | .ok d =>
    if (← Use.engine get).addsHeld then
      return .adding l.generation l.aggregator d
    finishAddition l.generation l.aggregator d
    return .done .null

/-- A caller's write.  An unknown endpoint is passed over. -/
def setState (id cluster attr : String) (value : Json) : Doing Progress := do
  let l ← theLive
  match l.member? id with
  | none => return .done .null
  | some m =>
    let w ← Use.engine (startWrite true m.handle cluster attr value)
    if (← Use.engine get).writesHeld then
      return .writing w
    Use.engine (finishWrite w)
    return .done .null

/-- The endpoints with their attributes. -/
def listEndpoints : Doing Json := do
  let l ← theLive
  let e ← Use.engine get
  return .arr <| l.members.map fun m =>
    Json.ofPairs
      [ ("id", .str m.id), ("deviceType", .str m.type.name),
        ("state", .obj (((e.endpoints[m.handle]?).map (·.endpoint.state)).getD [])) ]

/-! ## The server node -/

/-- Bring the server node on the network. -/
def start : Doing Unit := do
  let l ← theLive
  Use.engine (startServer l.server)

/-- The pairing codes, `null` once the node is paired, and whether it can be
    paired now. -/
def commissioningState : Doing Json := do
  let l ← theLive
  let server ← Use.engine (theServer l.server)
  let c := (← Use.engine get).commissioning server
  return Json.ofPairs
    [ ("pairingCodes", if c.commissioned then .null else c.codes.toJson),
      ("commissioningWindowOpen", .bool c.windowOpen) ]

/-- Open a commissioning window. -/
def openCommissioningWindow : Doing Unit := do
  let l ← theLive
  Use.engine (openWindow l.server)

/-- Close the commissioning window. -/
def closeCommissioningWindow : Doing Unit := do
  let l ← theLive
  Use.engine (closeWindow l.server)

end HomeGateway.Bridge
