/-
  A node as one value.

  The snapshot of a node has the shape of its tree of endpoints.  Each cluster
  is an object with the cluster's id, its name and those of its attributes
  that have a value.  At the root only the system clusters are shown, below it
  all.  Reading an attribute needs a live session, so a node without one has a
  snapshot only if there is nothing to read.

  * `isSystemCluster`: the clusters shown at the root;
  * `snapshot`: the whole node.
-/
import HomeGateway.Engine.Node

namespace HomeGateway.Client

open HomeGateway Engine

/-- The clusters shown at the root: groups and scenes, the descriptor, binding
    and access control, basic information and localization, commissioning,
    diagnostics, time, credentials, labels, and the management of intermittent
    devices and of scenes. -/
def systemClusters : List Nat :=
  [ 0x04, 0x05, 0x1d, 0x1e, 0x1f, 0x28, 0x2a, 0x2b, 0x2c, 0x2d, 0x2e, 0x30, 0x31, 0x32, 0x33,
    0x34, 0x35, 0x36, 0x37, 0x38, 0x39, 0x3c, 0x3e, 0x3f, 0x40, 0x41, 0x46, 0x62 ]

/-- Whether a cluster is shown at the root. -/
def isSystemCluster (id : Nat) : Bool :=
  systemClusters.contains id

/-- The clusters of an endpoint that are shown. -/
def shown (isRoot : Bool) (clusters : List Cluster) : List Cluster :=
  clusters.filter fun c => !isRoot || isSystemCluster c.id

/-- A cluster, if what it has to read can be read. -/
def clusterSnapshot (n : Node) (c : Cluster) : Except EngineError Json := do
  if !c.attributes.isEmpty then
    n.ensureConnected
  return c.snapshot

/-- Clusters under their names; of two with one name the later counts. -/
def clustersSnapshot (n : Node) (cs : List Cluster) : Except EngineError Fields :=
  cs.foldlM (fun fs c => do return Fields.insert c.name (← clusterSnapshot n c) fs) []

mutual

/-- An endpoint and all below it. -/
def endpointSnapshot (n : Node) (isRoot : Bool) : RemoteEndpoint → Except EngineError Json
  | .mk number cs es => do
    let clusters ← clustersSnapshot n (shown isRoot cs)
    let children ← endpointSnapshots n es
    return Json.ofPairs
      [("number", .ofNat number), ("clusters", .obj clusters), ("children", .arr children)]
termination_by structural e => e

/-- The endpoints below an endpoint. -/
def endpointSnapshots (n : Node) : List RemoteEndpoint → Except EngineError (List Json)
  | [] => return []
  | e :: es => do
    let first ← endpointSnapshot n false e
    let rest ← endpointSnapshots n es
    return first :: rest
termination_by structural es => es

end

/-- The whole node. -/
def snapshot (n : Node) : Except EngineError Json := do
  let root ← endpointSnapshot n true n.root
  return Json.ofPairs [("id", .ofNat n.id), ("rootEndpoint", root)]

end HomeGateway.Client
