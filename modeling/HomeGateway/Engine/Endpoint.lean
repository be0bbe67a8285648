/-
  A bridged endpoint as the engine keeps it.

  An endpoint holds an attribute tree.  Writing an attribute of a cluster that
  is an object stores the value and, if it was another one before, gives a
  notice; other clusters hold no attributes.  A command of a peer runs the
  hooks of the device type: each is noticed, and then written.

  * `get?_write`: what an endpoint holds after a write;
  * `write_same`: writing what is there changes nothing and gives no notice;
  * `set`: a write that reports a missing cluster.
-/
import HomeGateway.Device.Configuration

namespace HomeGateway.Engine

open HomeGateway Device

/-- What the watcher of an endpoint is told. -/
inductive Notice where
  /-- an attribute has a new value -/
  | changed (cluster attr : String) (value : Json)
  /-- a command of a peer sets an attribute -/
  | invoked (cluster attr : String) (value : Json)
deriving Repr

/-- The labels of an endpoint. -/
structure Labels where
  /-- the label of the node -/
  node : String
  /-- the name of the product -/
  product : String
  /-- the label of the product -/
  productLabel : String
  /-- the serial number -/
  serial : String
deriving DecidableEq, Repr

namespace Labels

/-- The first characters of a text. -/
def cut (limit : Nat) (s : String) : String :=
  String.ofList (s.toList.take limit)

/-- Cut every label to a length. -/
def truncate (limit : Nat) (l : Labels) : Labels :=
  ⟨cut limit l.node, cut limit l.product, cut limit l.productLabel, cut limit l.serial⟩

/-- The cluster that holds the labels. -/
def clusterName : String := "bridgedDeviceBasicInformation"

/-- The attributes of that cluster. -/
def toFields (l : Labels) : Fields :=
  Fields.ofList
    [ ("nodeLabel", .str l.node), ("productName", .str l.product),
      ("productLabel", .str l.productLabel), ("serialNumber", .str l.serial),
      ("reachable", .bool true) ]

theorem length_cut (limit : Nat) (s : String) : (cut limit s).length ≤ limit := by
  simp only [cut, String.length_ofList, List.length_take]
  omega

end Labels

/-- What an endpoint is made from. -/
structure Definition where
  /-- its id -/
  id : String
  /-- its device type -/
  type : DeviceType
  /-- its labels -/
  labels : Labels
  /-- its attributes -/
  clusters : Fields
  /-- the features of its clusters -/
  features : List Feature

/-- A bridged endpoint. -/
structure Endpoint where
  /-- its id -/
  id : String
  /-- its device type -/
  type : DeviceType
  /-- the features of its clusters -/
  features : List Feature
  /-- its attribute tree -/
  state : Fields
deriving Repr

namespace Endpoint

/-- The endpoint of a definition. -/
def ofDefinition (d : Definition) : Endpoint :=
  ⟨d.id, d.type, d.features, d.clusters.insert Labels.clusterName (.obj d.labels.toFields)⟩

/-- What an attribute holds. -/
def get? (e : Endpoint) (cluster attr : String) : Option Json :=
  leaf? e.state cluster attr

/-- Whether an attribute holds a value. -/
def holds (e : Endpoint) (cluster attr : String) (value : Json) : Bool :=
  match e.get? cluster attr with
  | some v => v.same value
  | none => false

/-- Write an attribute, if its cluster can hold it. -/
def write (e : Endpoint) (cluster attr : String) (value : Json) : Endpoint × List Notice :=
  match e.state.get? cluster with
  | some (.obj attrs) =>
    if e.holds cluster attr value then (e, [])
    else
      ({ e with state := e.state.insert cluster (.obj (Fields.insert attr value attrs)) },
        [.changed cluster attr value])
  | _ => (e, [])

/-- Write an attribute; a cluster that is no object is a failure. -/
def set (e : Endpoint) (cluster attr : String) (value : Json) :
    Except EngineError (Endpoint × List Notice) :=
  match e.state.get? cluster with
  | some (.obj _) => .ok (e.write cluster attr value)
  | _ => .error (.clusterNotFound cluster)

/-- Run one hook of a command. -/
def run (args : Json) (e : Endpoint) (h : Hook) : Endpoint × List Notice :=
  match h.value.resolve args (e.get? h.cluster h.attr) with
  | none => (e, [])
  | some v =>
    let (e, notices) := e.write h.cluster h.attr v
    (e, .invoked h.cluster h.attr v :: notices)

/-- Run the hooks of a command, one after the other. -/
def runAll (args : Json) : Endpoint → List Hook → Endpoint × List Notice
  | e, [] => (e, [])
  | e, h :: rest =>
    let (e, notices) := e.run args h
    let (e, more) := runAll args e rest
    (e, notices ++ more)

/-- A command of a peer. -/
def invoke (e : Endpoint) (cluster command : String) (args : Json) :
    Except EngineError (Endpoint × List Notice) :=
  match e.type.hooks.filter (·.matches? cluster command) with
  | [] => .error (.commandNotFound (cluster ++ "." ++ command))
  | hooks => .ok (e.runAll args hooks)

theorem get?_write {e : Endpoint} {cluster attr : String} {value : Json} {attrs : Fields}
    (hc : e.state.get? cluster = some (.obj attrs)) (hv : e.holds cluster attr value = false) :
    (e.write cluster attr value).1.get? cluster attr = some value := by
  simp [write, hc, hv, get?, leaf?, Fields.get?_insert_self, Json.get?]

theorem write_same {e : Endpoint} {cluster attr : String} {value : Json}
    (h : e.holds cluster attr value = true) : e.write cluster attr value = (e, []) := by
  simp only [write]
  split
  · simp [h]
  · rfl

theorem id_write (e : Endpoint) (cluster attr : String) (value : Json) :
    (e.write cluster attr value).1.id = e.id := by
  simp only [write]
  split
  · split <;> rfl
  · rfl

theorem type_write (e : Endpoint) (cluster attr : String) (value : Json) :
    (e.write cluster attr value).1.type = e.type := by
  simp only [write]
  split
  · split <;> rfl
  · rfl

end Endpoint

end HomeGateway.Engine
