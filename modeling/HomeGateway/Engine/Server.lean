/-
  Server nodes: how a bridge is seen from the network.

  A server node is made for a storage key and shares the state kept there with
  those made for it before, unless the storage is cleared.  It has at most one
  aggregator, which holds the bridged endpoints.  A closed node never comes
  back; its aggregator is emptied and let go.

  * `createServer`, `startServer`, `closeServer`: the life of a node;
  * `addEndpoint`: an endpoint joins an aggregator;
  * `startWrite`, `finishWrite`: a write to an endpoint, in its two halves.
-/
import HomeGateway.Engine.State

namespace HomeGateway.Engine

open HomeGateway Bridge

/-! ## Stores -/

/-- The number of the store of a key. -/
def State.serverStore? (key : StoreKey) (s : State) : Option Nat :=
  s.serverStores.findIdx? fun st => st.key = key && !st.dropped

/-- Clear the store of a key. -/
def State.clearServerStore (key : StoreKey) (s : State) : State :=
  { s with serverStores := s.serverStores.map fun st =>
      if st.key = key then { st with dropped := true } else st }

/-- The number of the store of a key, made if there is none. -/
def openServerStore (key : StoreKey) : Act Nat := do
  let s ← get
  match s.serverStore? key with
  | some i => return i
  | none =>
    set { s with serverStores := s.serverStores ++ [(⟨key, false, false⟩ : ServerStore)] }
    return s.serverStores.length

/-! ## The life of a server node -/

/-- Change a server node. -/
def State.changeServer (n : Nat) (f : Server → Server) (s : State) : State :=
  { s with servers := s.servers.modify n f }

/-- A server node that must exist. -/
def theServer (n : Nat) : Act Server := do
  match (← get).servers[n]? with
  | some server => return server
  | none => Act.fail (.invalidState "Server node closed")

/-- Make a server node and give its number. -/
def createServer (config : ServerNodeConfig) : Act Nat := do
  trip .createServer
  if config.clearStorage then
    modify (·.clearServerStore config.key)
  let store ← openServerStore config.key
  let s ← get
  set { s with servers := s.servers ++ [(⟨config, store, false, false, false, none⟩ : Server)] }
  return s.servers.length

/-- Add the aggregator of a server node and give its number. -/
def addAggregator (n : Nat) : Act Nat := do
  trip .addAggregator
  let server ← theServer n
  if server.closed then
    Act.fail (.invalidState "Server node closed")
  if server.aggregator.isSome then
    Act.fail (.invalidState "Aggregator already added")
  let s ← get
  let a := s.aggregators.length
  set { s with aggregators := s.aggregators ++ [[]] }
  modify (·.changeServer n fun sv => { sv with aggregator := some a })
  return a

/-- Whether the store of a server node says that it was paired. -/
def State.commissioned (server : Server) (s : State) : Bool :=
  match s.serverStores[server.store]? with
  | some st => st.commissioned
  | none => false

/-- Bring a server node on the network; it can be commissioned unless it was. -/
def startServer (n : Nat) : Act Unit := do
  trip .start
  let server ← theServer n
  if server.closed then
    Act.fail (.invalidState "Server node closed")
  let paired := (← get).commissioned server
  modify (·.changeServer n fun sv => { sv with online := true, windowOpen := !paired })

/-- Close a server node for good. -/
def closeServer (n : Nat) : Act Unit := do
  trip .closeServer
  let server ← theServer n
  modify (·.changeServer n fun sv =>
    { sv with online := false, closed := true, windowOpen := false, aggregator := none })
  match server.aggregator with
  | some a => modify fun s => { s with aggregators := s.aggregators.set a [] }
  | none => pure ()

/-- Open a commissioning window; the node must be on the network. -/
def openWindow (n : Nat) : Act Unit := do
  let server ← theServer n
  if !server.online then
    Act.fail (.invalidState "Server node is not online")
  modify (·.changeServer n fun sv => { sv with windowOpen := true })

/-- Close the commissioning window. -/
def closeWindow (n : Nat) : Act Unit :=
  modify (·.changeServer n fun sv => { sv with windowOpen := false })

/-- A commissioner has paired a server node. -/
def State.markCommissioned (n : Nat) (s : State) : State :=
  match s.servers[n]? with
  | none => s
  | some server =>
    { s.changeServer n (fun sv => { sv with windowOpen := false }) with
      serverStores := s.serverStores.modify server.store fun st => { st with commissioned := true } }

/-- Whether a server node can be paired, and how. -/
structure CommissioningState where
  /-- whether it was paired -/
  commissioned : Bool
  /-- whether it can be paired now -/
  windowOpen : Bool
  /-- its pairing codes -/
  codes : PairingCodes
deriving DecidableEq, Repr

/-- The pairing codes of a server node. -/
def ServerNodeConfig.codes (c : ServerNodeConfig) : PairingCodes :=
  Pairing.codes c.vendorId c.productId c.discriminator c.passcode

/-- Whether a server node can be paired, and how. -/
def State.commissioning (server : Server) (s : State) : CommissioningState :=
  ⟨s.commissioned server, server.windowOpen, server.config.codes⟩

/-- The number of the newest server node of an id. -/
def State.newestServer? (id : String) (s : State) : Option Nat :=
  (List.range s.servers.length).reverse.find? fun n =>
    match s.servers[n]? with
    | some server => server.config.id = id
    | none => false

/-! ## Endpoints -/

/-- The numbers of the endpoints of a server node. -/
def State.endpointsOf (server : Server) (s : State) : List Nat :=
  match server.aggregator with
  | none => []
  | some a => (s.aggregators[a]?).getD []

/-- The id of an endpoint. -/
def State.endpointId (s : State) (e : Nat) : Option String :=
  (s.endpoints[e]?).map (·.endpoint.id)

/-- The number of an endpoint among some. -/
def State.endpointAmong? (s : State) (id : String) (among : List Nat) : Option Nat :=
  among.find? fun e => s.endpointId e = some id

/-- An endpoint joins an aggregator; its number is given. -/
def addEndpoint (aggregator : Nat) (b : Bridged) : Act Nat := do
  trip .addEndpoint
  let s ← get
  let members := (s.aggregators[aggregator]?).getD []
  if (s.endpointAmong? b.endpoint.id members).isSome then
    Act.fail (.invalidState ("Endpoint " ++ b.endpoint.id ++ " already exists"))
  let e := s.endpoints.length
  set { s with
    endpoints := s.endpoints ++ [b]
    aggregators := s.aggregators.set aggregator (members ++ [e]) }
  return e

/-- A write that was started. -/
structure Write where
  /-- the number of the endpoint -/
  endpoint : Nat
  /-- the cluster -/
  cluster : String
  /-- the attribute -/
  attr : String
  /-- the value -/
  value : Json
  /-- whether its echo is locked -/
  locked : Bool
deriving Repr

/-- Start a write; `own` says that the caller who follows the endpoint writes. -/
def startWrite (own : Bool) (e : Nat) (cluster attr : String) (value : Json) : Act Write := do
  let s ← get
  match s.endpoints[e]? with
  | none => return ⟨e, cluster, attr, value, false⟩
  | some b =>
    let (b, locked) := b.startWrite s.now own cluster attr value
    set { s with endpoints := s.endpoints.set e b }
    return ⟨e, cluster, attr, value, locked⟩

/-- Finish a write. -/
def finishWrite (w : Write) : Act Unit := do
  let s ← get
  match s.endpoints[w.endpoint]? with
  | none => Act.fail (.clusterNotFound w.cluster)
  | some b =>
    let (result, b, entries) := b.finishWrite s.now w.cluster w.attr w.value w.locked
    set { s with endpoints := s.endpoints.set w.endpoint b }
    tell entries
    Act.ofExcept result

/-- A peer gives an endpoint a command. -/
def peerCommand (e : Nat) (cluster command : String) (args : Json) : Act Unit := do
  let s ← get
  match s.endpoints[e]? with
  | none => Act.fail (.commandNotFound (cluster ++ "." ++ command))
  | some b =>
    let (result, b, entries) := b.command s.now cluster command args
    set { s with endpoints := s.endpoints.set e b }
    tell entries
    Act.ofExcept result

end HomeGateway.Engine
