/-
  Everything the engine keeps.

  Servers, aggregators, endpoints and controllers are numbered as they are
  made and stay under their numbers; what they keep in the persistent storage
  outlives them.  The clock counts milliseconds.  Writes and additions can be
  held up, and one fault per place can be armed: it strikes once, instead of
  what would have been done there.

  An action of the engine changes this state, and may fail or collapse; the
  change stays.

  * `trip`: an armed fault strikes;
  * `Act.attempt`: run an action and look at how it ended.
-/
import HomeGateway.Bridge.VirtualEndpoint
import HomeGateway.Engine.Node
import HomeGateway.Engine.StoragePath

namespace HomeGateway.Engine

open HomeGateway Bridge

/-! ## Faults -/

/-- A place where a fault can strike. -/
inductive Spot where
  /-- a server node is made -/
  | createServer
  /-- an aggregator is added -/
  | addAggregator
  /-- a server node is started -/
  | start
  /-- a server node is closed -/
  | closeServer
  /-- an endpoint is added -/
  | addEndpoint
  /-- a controller is made -/
  | createController
  /-- a controller is closed -/
  | closeController
  /-- a device is commissioned -/
  | commission
  /-- a node is connected -/
  | connect
deriving DecidableEq, Repr

namespace Spot

/-- All places. -/
def all : List Spot :=
  [ .createServer, .addAggregator, .start, .closeServer, .addEndpoint, .createController,
    .closeController, .commission, .connect ]

/-- The name of a place. -/
def name : Spot → String
  | .createServer => "createServer"
  | .addAggregator => "addAggregator"
  | .start => "start"
  | .closeServer => "closeServer"
  | .addEndpoint => "addEndpoint"
  | .createController => "createController"
  | .closeController => "closeController"
  | .commission => "commission"
  | .connect => "connect"

/-- The place of a name. -/
def ofName? (s : String) : Option Spot :=
  all.find? (·.name = s)

end Spot

/-! ## Server nodes -/

/-- What names a place of one owner in the storage. -/
structure StoreKey where
  /-- the directory -/
  path : StoragePath
  /-- the owner -/
  id : String
deriving DecidableEq, Repr

/-- What a server node keeps. -/
structure ServerStore where
  /-- where it is kept -/
  key : StoreKey
  /-- whether a commissioner has paired the node -/
  commissioned : Bool
  /-- whether it was cleared; those who hold it go on with it -/
  dropped : Bool
deriving Repr

/-- How a server node presents itself. -/
structure ServerNodeConfig where
  /-- its id -/
  id : String
  /-- where it keeps its state -/
  storagePath : String
  /-- whether that state is cleared first -/
  clearStorage : Bool
  /-- its network port -/
  port : Nat
  /-- its setup passcode -/
  passcode : Nat
  /-- its long discriminator -/
  discriminator : Nat
  /-- the name of the device -/
  deviceName : String
  /-- the name of the vendor -/
  vendorName : String
  /-- the vendor -/
  vendorId : Nat
  /-- the name of the product -/
  productName : String
  /-- the product -/
  productId : Nat
  /-- the label of the node -/
  nodeLabel : String
  /-- the label of the product -/
  productLabel : String
  /-- the serial number -/
  serialNumber : String
deriving DecidableEq, Repr

/-- The storage of a server node. -/
def ServerNodeConfig.key (c : ServerNodeConfig) : StoreKey :=
  ⟨.ofString c.storagePath, c.id⟩

/-- A server node. -/
structure Server where
  /-- how it presents itself -/
  config : ServerNodeConfig
  /-- the number of its store -/
  store : Nat
  /-- whether it is on the network -/
  online : Bool
  /-- whether it was closed -/
  closed : Bool
  /-- whether it can be commissioned -/
  windowOpen : Bool
  /-- the number of its aggregator -/
  aggregator : Option Nat
deriving Repr

/-! ## Controllers -/

/-- What a controller keeps. -/
structure ControllerStore where
  /-- where it is kept -/
  key : StoreKey
  /-- the nodes ever commissioned, in the order of their ids -/
  nodes : List Node
  /-- the id of the next node -/
  nextId : Nat
deriving Repr

/-- A controller. -/
structure Controller where
  /-- its id -/
  id : String
  /-- the id of its own node -/
  ownNode : Nat
  /-- the number of its store -/
  store : Nat
  /-- whether it was closed -/
  closed : Bool
  /-- who is told of its nodes -/
  listener : Listener
deriving Repr

/-! ## The state -/

/-- Everything the engine keeps. -/
structure State where
  /-- the time -/
  now : Nat
  /-- what was told and not yet taken away -/
  journal : Journal
  /-- whether writes to bridged endpoints are held up -/
  writesHeld : Bool
  /-- whether additions of endpoints are held up -/
  addsHeld : Bool
  /-- the armed faults -/
  faults : List (Spot × Mishap)
  /-- the bridged endpoints -/
  endpoints : List Bridged
  /-- the endpoints of each aggregator -/
  aggregators : List (List Nat)
  /-- the stores of server nodes -/
  serverStores : List ServerStore
  /-- the server nodes -/
  servers : List Server
  /-- the devices that can be paired -/
  devices : List Device
  /-- the stores of controllers -/
  controllerStores : List ControllerStore
  /-- the controllers -/
  controllers : List Controller

/-- The state in which nothing exists. -/
def State.initial : State :=
  ⟨0, [], false, false, [], [], [], [], [], [], [], []⟩

/-- An action of the engine. -/
abbrev Act (α : Type) := ExceptT Mishap (StateM State) α

namespace Act

/-- Fail with an engine failure. -/
def fail {α : Type} (e : EngineError) : Act α :=
  throw (.failed (.engine e))

/-- The value of an outcome, or its failure. -/
def ofExcept {α : Type} : Except EngineError α → Act α
  | .ok x => pure x
  | .error e => fail e

/-- Run an action and look at how it ended. -/
def attempt {α : Type} (a : Act α) : Act (Except Mishap α) :=
  ExceptT.lift a.run

end Act

/-- Tell someone something. -/
def tell (entries : Journal) : Act Unit :=
  modify fun s => { s with journal := s.journal ++ entries }

/-- Arm a fault; the one armed before at the same place is forgotten. -/
def State.arm (spot : Spot) (m : Mishap) (s : State) : State :=
  { s with faults := (spot, m) :: s.faults.filter (·.1 ≠ spot) }

/-- Let an armed fault strike. -/
def trip (spot : Spot) : Act Unit := do
  let s ← get
  match s.faults.find? (·.1 = spot) with
  | none => pure ()
  | some (_, m) =>
    set { s with faults := s.faults.filter (·.1 ≠ spot) }
    throw m

end HomeGateway.Engine
