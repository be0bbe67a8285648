/-
  What the engine tells about devices.

  Pairing codes, the fabrics a node belongs to, reports of changed attributes
  and of events, the states of the connection to a node.  Each has a shape, a
  reading and a value.
-/
import HomeGateway.Message.Request

namespace HomeGateway

open Json

/-- The whole number of a field. -/
def natField (name : String) (v : Json) : Option Nat :=
  v.get? name >>= nat?

/-- The text of a field. -/
def textField (name : String) (v : Json) : Option String :=
  v.get? name >>= text?

/-! ## Pairing codes -/

/-- The two ways to write the credentials of a device. -/
structure PairingCodes where
  /-- digits to type in -/
  manual : String
  /-- text of a QR code -/
  qr : String
deriving DecidableEq, Repr

namespace PairingCodes

/-- The shape of pairing codes. -/
def shape : Shape :=
  .record "PairingCodes" [needed "manualPairingCode" .text, needed "qrPairingCode" .text]

/-- The pairing codes that a value is the normal form of. -/
def ofJson? (v : Json) : Option PairingCodes := do
  let manual ← textField "manualPairingCode" v
  let qr ← textField "qrPairingCode" v
  return ⟨manual, qr⟩

/-- Pairing codes as a value. -/
def toJson (c : PairingCodes) : Json :=
  .obj [("manualPairingCode", .str c.manual), ("qrPairingCode", .str c.qr)]

/-- The pairing codes in a text. -/
def read (t : String) : Except Problem PairingCodes :=
  readAs shape ofJson? t

end PairingCodes

/-! ## Fabrics -/

/-- A fabric that a node belongs to. -/
structure Fabric where
  /-- its place in the table of the node -/
  index : Nat
  /-- its id -/
  fabricId : Nat
  /-- the id of the node on it -/
  nodeId : Nat
  /-- the vendor of its root -/
  vendorId : Nat
  /-- a label -/
  label : String
deriving DecidableEq, Repr

namespace Fabric

/-- The shape of a fabric. -/
def shape : Shape :=
  .record "FabricDescriptor"
    [needed "fabricIndex" (.whole .bits8), needed "fabricId" (.whole .bits64),
     needed "nodeId" (.whole .bits64), needed "vendorId" (.whole .bits16), needed "label" .text]

/-- The fabric that a value is the normal form of. -/
def ofJson? (v : Json) : Option Fabric := do
  let index ← natField "fabricIndex" v
  let fabricId ← natField "fabricId" v
  let nodeId ← natField "nodeId" v
  let vendorId ← natField "vendorId" v
  let label ← textField "label" v
  return ⟨index, fabricId, nodeId, vendorId, label⟩

/-- A fabric as a value. -/
def toJson (f : Fabric) : Json :=
  .obj [("fabricId", ofNat f.fabricId), ("fabricIndex", ofNat f.index), ("label", .str f.label),
    ("nodeId", ofNat f.nodeId), ("vendorId", ofNat f.vendorId)]

/-- The fabric in a text. -/
def read (t : String) : Except Problem Fabric :=
  readAs shape ofJson? t

end Fabric

/-! ## Places on a node -/

/-- A place on a node: an attribute or an event of a cluster. -/
structure Place where
  /-- the node, once the session has named it -/
  nodeId : Option Nat
  /-- the number of the endpoint -/
  endpointId : Nat
  /-- the id of the cluster -/
  clusterId : Nat
  /-- the attribute or the event -/
  name : String
deriving DecidableEq, Repr

namespace Place

/-- The shape of a place whose last field is called `nameField`. -/
def shape (title nameField : String) : Shape :=
  .record title
    [absent "nodeId" (.whole .bits64), needed "endpointId" (.whole .bits16),
     needed "clusterId" (.whole .bits32), needed nameField .text]

/-- The place that a value is the normal form of. -/
def ofJson? (nameField : String) (v : Json) : Option Place := do
  let endpointId ← natField "endpointId" v
  let clusterId ← natField "clusterId" v
  let name ← textField nameField v
  return ⟨natField "nodeId" v, endpointId, clusterId, name⟩

/-- A place as a value. -/
def toJson (nameField : String) (p : Place) : Json :=
  ofPairs ([(nameField, .str p.name), ("clusterId", ofNat p.clusterId),
    ("endpointId", ofNat p.endpointId)] ++
    match p.nodeId with
    | some n => [("nodeId", ofNat n)]
    | none => [])

end Place

/-! ## Reports -/

/-- An attribute of a node has a new value. -/
structure AttributeReport where
  /-- where the attribute is -/
  path : Place
  /-- its new value -/
  value : Json
deriving Repr

namespace AttributeReport

/-- The name of the last field of the path. -/
def nameField : String := "attributeName"

/-- The shape of an attribute report. -/
def shape : Shape :=
  .record "AttributeReport"
    [needed "path" (Place.shape "AttributePath" nameField), needed "value" .any]

/-- The attribute report that a value is the normal form of. -/
def ofJson? (v : Json) : Option AttributeReport := do
  let path ← v.get? "path" >>= Place.ofJson? nameField
  let value ← v.get? "value"
  return ⟨path, value⟩

/-- An attribute report as a value. -/
def toJson (r : AttributeReport) : Json :=
  .obj [("path", r.path.toJson nameField), ("value", r.value)]

/-- The attribute report in a text. -/
def read (t : String) : Except Problem AttributeReport :=
  readAs shape ofJson? t

end AttributeReport

/-- A node emitted events. -/
structure EventReport where
  /-- where the event is -/
  path : Place
  /-- what came with each of them -/
  events : List Json
deriving Repr

namespace EventReport

/-- The name of the last field of the path. -/
def nameField : String := "eventName"

/-- The shape of an event report. -/
def shape : Shape :=
  .record "EventReport" [needed "path" (Place.shape "EventPath" nameField), needed "events" .list]

/-- The event report that a value is the normal form of. -/
def ofJson? (v : Json) : Option EventReport := do
  let path ← v.get? "path" >>= Place.ofJson? nameField
  let events ← v.get? "events" >>= items?
  return ⟨path, events⟩

/-- An event report as a value. -/
def toJson (r : EventReport) : Json :=
  .obj [("events", .arr r.events), ("path", r.path.toJson nameField)]

/-- The event report in a text. -/
def read (t : String) : Except Problem EventReport :=
  readAs shape ofJson? t

end EventReport

/-! ## States -/

/-- The state of the connection to a node. -/
inductive NodeState where
  /-- there is a session -/
  | connected
  /-- there is none -/
  | disconnected
  /-- the session is being established again -/
  | reconnecting
  /-- the node has to be discovered again -/
  | waitingForDeviceDiscovery
  /-- its endpoints changed -/
  | structureChanged
  /-- it was removed -/
  | decommissioned
deriving DecidableEq, Repr

namespace NodeState

/-- All states, in their order. -/
def all : List NodeState :=
  [.connected, .disconnected, .reconnecting, .waitingForDeviceDiscovery, .structureChanged,
   .decommissioned]

/-- The name of a state. -/
def name : NodeState → String
  | .connected => "Connected"
  | .disconnected => "Disconnected"
  | .reconnecting => "Reconnecting"
  | .waitingForDeviceDiscovery => "WaitingForDeviceDiscovery"
  | .structureChanged => "StructureChanged"
  | .decommissioned => "Decommissioned"

/-- The shape of a state. -/
def shape : Shape :=
  .name (all.map name)

/-- The state that a value is the normal form of. -/
def ofJson? (v : Json) : Option NodeState :=
  v.text? >>= fun s => all.find? (·.name = s)

/-- A state as a value. -/
def toJson (s : NodeState) : Json :=
  .str s.name

/-- The state in a text. -/
def read (t : String) : Except Problem NodeState :=
  readAs shape ofJson? t

end NodeState

end HomeGateway
