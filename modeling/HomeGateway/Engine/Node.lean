/-
  Devices that can be paired, and the nodes they become.

  A pairing request selects a device by its code, or by its discriminator and
  then its passcode.  The paired node joins the fabric of the controller under
  the index after the greatest it has.  What is done with a node needs a live
  session, and whoever listens to it is told what changes.

  * `Device.answers`: whether a request means a device;
  * `find?`: the first device that a request means, and the others;
  * `Node.ofDevice`: a paired device.
-/
import HomeGateway.Engine.RemoteEndpoint
import HomeGateway.Pairing.Request

namespace HomeGateway.Engine

open HomeGateway

/-! ## Devices -/

/-- A device that can be paired. -/
structure Device where
  /-- its setup passcode -/
  passcode : Nat
  /-- its long discriminator -/
  discriminator : Nat
  /-- its vendor -/
  vendorId : Nat
  /-- its product -/
  productId : Nat
  /-- the fabrics it belongs to already -/
  fabrics : List Fabric
  /-- its endpoints -/
  root : RemoteEndpoint
deriving Repr

namespace Device

/-- The vendor of a device that names none. -/
def defaultVendor : Nat := 0xFFF1

/-- The product of a device that names none. -/
def defaultProduct : Nat := 0x8000

/-- The pairing codes of a device. -/
def codes (d : Device) : PairingCodes :=
  Pairing.codes d.vendorId d.productId d.discriminator d.passcode

/-- Whether a request means this device; a code or a passcode may also be
    refused outright. -/
def answers (d : Device) : Pairing.Request → Except EngineError Bool
  | .qr code => .ok (code = d.codes.qr)
  | .manual code =>
    match Pairing.decodeManual? code with
    | some p =>
      .ok ((Pairing.Discriminator.short p.short).selects d.discriminator && p.passcode = d.passcode)
    | none => .error (.commissioningFailed ("Invalid manual pairing code " ++ code))
  | .discovery wanted passcode =>
    if wanted.selects d.discriminator then
      match passcode with
      | some p =>
        if p = d.passcode then .ok true
        else .error (.commissioningFailed "PASE session establishment failed")
      | none => .error (.commissioningFailed "A setup passcode is required")
    else .ok false

/-- The first device that a request means, and the others in their order. -/
def find? (r : Pairing.Request) : List Device → Except EngineError (Device × List Device)
  | [] => .error (.commissioningFailed "No matching device discovered")
  | d :: rest =>
    match d.answers r with
    | .error f => .error f
    | .ok true => .ok (d, rest)
    | .ok false =>
      match find? r rest with
      | .error f => .error f
      | .ok (found, others) => .ok (found, d :: others)

end Device

/-! ## Nodes -/

/-- Who is told of a node. -/
inductive Listener where
  /-- the recorder -/
  | recorder
  /-- the sink of a session -/
  | sink (n : Nat)
deriving DecidableEq, Repr

/-- The entry that brings news to a listener. -/
def Listener.entry (l : Listener) (n : News) : Entry :=
  match l with
  | .recorder => .news n
  | .sink s => .event s n.event

/-- A paired node. -/
structure Node where
  /-- its id -/
  id : Nat
  /-- its setup passcode -/
  passcode : Nat
  /-- its long discriminator -/
  discriminator : Nat
  /-- its endpoints -/
  root : RemoteEndpoint
  /-- the fabrics it belongs to -/
  fabrics : List Fabric
  /-- the index of the controller's fabric -/
  ownIndex : Nat
  /-- the timeout of its open basic window, if any -/
  window : Option Nat
  /-- whether there is a live session -/
  connected : Bool
  /-- whether it was removed -/
  removed : Bool
  /-- who is told of it -/
  listener : Listener
deriving Repr

namespace Node

/-- The id of the fabric of controllers. -/
def controllerFabric : Nat := 1

/-- The greatest index of a table of fabrics; zero for none. -/
def greatestIndex (fabrics : List Fabric) : Nat :=
  fabrics.foldl (fun n f => max n f.index) 0

/-- The index that a new fabric gets: the one after the greatest, and 255 after
    255. -/
def freshIndex (fabrics : List Fabric) : Nat :=
  min (greatestIndex fabrics + 1) 255

/-- A paired device; it is not connected yet. -/
def ofDevice (id : Nat) (listener : Listener) (d : Device) : Node where
  id := id
  passcode := d.passcode
  discriminator := d.discriminator
  root := d.root
  fabrics := d.fabrics ++ [⟨freshIndex d.fabrics, controllerFabric, id, d.vendorId, ""⟩]
  ownIndex := freshIndex d.fabrics
  window := none
  connected := false
  removed := false
  listener := listener

/-- A node afterwards and what its listener is told. -/
abbrev Step := Node × List News

/-- Nothing to tell. -/
def quiet (n : Node) : Step := (n, [])

/-- Set whether there is a live session, and tell. -/
def link (connected : Bool) (n : Node) : Step :=
  ({ n with connected := connected },
    [.stateChanged n.id (if connected then .connected else .disconnected)])

/-- The session of a node that needs one. -/
def ensureConnected (n : Node) : Except EngineError Unit :=
  if n.connected then .ok () else .error (.nodeNotConnected n.id)

/-- Establish a session, unless there is one. -/
def connect (n : Node) : Step :=
  if n.connected then n.quiet else n.link true

/-- End the session. -/
def disconnect (n : Node) : Except EngineError Step := do
  n.ensureConnected
  return n.link false

/-- Establish the session again. -/
def reconnect (n : Node) : Step :=
  let (n', news) := n.link true
  (n', .stateChanged n.id .reconnecting :: news)

/-- Remove the node; it stays with those who hold it. -/
def remove (n : Node) : Step :=
  ({ n with connected := false, removed := true }, [.stateChanged n.id .decommissioned])

/-- Open a basic window. -/
def openBasicWindow (timeout : Nat) (n : Node) : Except EngineError Step := do
  n.ensureConnected
  return quiet { n with window := some timeout }

/-- The passcode of an enhanced window: a new one for each timeout. -/
def windowPasscode (passcode timeout : Nat) : Nat :=
  (passcode ^^^ timeout) % 99999998 + 1

/-- The codes of an enhanced window. -/
def enhancedCodes (timeout : Nat) (n : Node) : Except EngineError PairingCodes := do
  n.ensureConnected
  return Pairing.codes Device.defaultVendor Device.defaultProduct n.discriminator
    (windowPasscode n.passcode timeout)

/-- The table of fabrics. -/
def fabricTable (n : Node) : Except EngineError (List Fabric) := do
  n.ensureConnected
  return n.fabrics

/-- The index of the controller's fabric. -/
def currentIndex (n : Node) : Except EngineError Nat := do
  n.ensureConnected
  return n.ownIndex

/-- Remove the fabrics of an index. -/
def removeFabric (index : Nat) (n : Node) : Except EngineError Step := do
  n.ensureConnected
  let rest := n.fabrics.filter (·.index ≠ index)
  if rest.length = n.fabrics.length then
    throw (.invalidState ("Fabric index " ++ Text.showNat index ++ " not found"))
  return quiet { n with fabrics := rest }

/-! ### Clusters -/

/-- The report of an attribute's value. -/
def reported (endpoint : Nat) (c : Cluster) (attr : String) (value : Json) : AttributeReport :=
  ⟨⟨none, endpoint, c.id, attr⟩, value⟩

/-- The node reports an attribute's value on its own. -/
def report (endpoint : Nat) (c : Cluster) (attr : String) (value : Json) (n : Node) : Step :=
  ({ n with root := n.root.change endpoint c.name (·.store attr value) },
    [.attributeChanged n.id (reported endpoint c attr value)])

/-- The node emits an event on its own. -/
def emit (endpoint : Nat) (c : Cluster) (event : String) (payload : Json) (n : Node) : Step :=
  (n, [.eventTriggered n.id ⟨⟨none, endpoint, c.id, event⟩, [payload]⟩])

/-- The value of an attribute, which may have none. -/
def readAttribute (c : Cluster) (attr : String) (n : Node) : Except EngineError (Option Json) := do
  n.ensureConnected
  match c.read? attr with
  | some v => return v
  | none => throw (.attributeNotFound attr)

/-- Write a declared attribute; the node reports it. -/
def writeAttribute (endpoint : Nat) (c : Cluster) (attr : String) (value : Json) (n : Node) :
    Except EngineError Step := do
  n.ensureConnected
  match c.read? attr with
  | some _ => return n.report endpoint c attr value
  | none => throw (.attributeNotFound attr)

/-- Give a cluster a command. -/
def invoke (endpoint : Nat) (c : Cluster) (command : String) (args : Json) (n : Node) :
    Except EngineError Step := do
  n.ensureConnected
  return quiet { n with root := n.root.change endpoint c.name (·.note command args) }

end Node

end HomeGateway.Engine
