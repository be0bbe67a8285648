/-
  The functions of a client.

  `functions` registers everything a caller can ask of a controller: what
  concerns whole nodes, and what concerns clusters of nodes.  Each function
  reads its positional arguments and then acts.
-/
import HomeGateway.Client.Session
import HomeGateway.Call.Arguments
import HomeGateway.Call.Registry

namespace HomeGateway.Client

open HomeGateway Json Call

/-- A function of a client. -/
abbrev Function := List Json → Doing Json

/-- A function that reads arguments. -/
def taking {α : Type} (name : String) (required arity : Nat) (r : Reading α)
    (act : α → Doing Json) : Function := fun args => do
  act (← Engine.Use.ofExcept (arguments name required arity r args))

/-- A function without arguments. -/
def bare (name : String) (act : Doing Json) : Function := fun args => do
  Engine.Use.ofExcept (noArguments name args)
  act

/-- A function without result. -/
def silent (act : Doing Unit) : Doing Json := do
  act
  return .null

/-- A node id. -/
private def nodeId : Reading Nat := next NodeId.read

/-- How long a window stays open if the caller does not say, in seconds. -/
def defaultTimeout : Nat := 900

/-- A node and a timeout. -/
private def nodeAndTimeout : Reading (Nat × Nat) := do
  return (← nodeId, (← next (optional (whole .bits16))).getD defaultTimeout)

/-- How a device to be paired is found. -/
private def pairing : Reading Pairing.Request := do
  return .ofArguments (← next (optional text)) (← next (optional (whole .bits8)))
    (← next (optional (whole .bits32)))

/-- A node, an endpoint, a cluster and something in it. -/
private def spot : Reading (Nat × Nat × String × String) := do
  return (← nodeId, ← next (whole .bits16), ← next text, ← next text)

/-- The functions that concern whole nodes. -/
def nodeFunctions : List (String × Function) :=
  [ ("listNodes", bare "listNodes" listNodes),
    ("getNode", taking "getNode" 1 1 nodeId getNode),
    ("pairNode", taking "pairNode" 0 3 pairing pairNode),
    ("disconnectNode", taking "disconnectNode" 1 1 nodeId fun n => silent (disconnectNode n)),
    ("reconnectNode", taking "reconnectNode" 1 1 nodeId fun n => silent (reconnectNode n)),
    ("removeNode", taking "removeNode" 1 1 nodeId fun n => silent (removeNode n)),
    ("getFabrics", taking "getFabrics" 1 1 nodeId getFabrics),
    ("removeFabric",
      taking "removeFabric" 2 2 (do return (← nodeId, ← next (whole .bits8)))
        fun (n, index) => silent (removeFabric n index)),
    ("sessionInformation", bare "sessionInformation" sessionInformation),
    ("basicCommissioningWindow",
      taking "basicCommissioningWindow" 1 2 nodeAndTimeout
        fun (n, timeout) => silent (basicWindow n timeout)),
    ("enhancedCommissioningWindow",
      taking "enhancedCommissioningWindow" 1 2 nodeAndTimeout
        fun (n, timeout) => enhancedWindow n timeout) ]

/-- The functions that concern clusters. -/
def clusterFunctions : List (String × Function) :=
  [ ("command",
      taking "command" 4 5 (do return (← spot, ← next (optional any)))
        fun ((n, endpoint, cluster, command), args) =>
          invokeCommand n endpoint cluster command (args.getD (.obj []))),
    ("writeAttribute",
      taking "writeAttribute" 5 5 (do return (← spot, ← next any))
        fun ((n, endpoint, cluster, attr), value) =>
          silent (writeAttribute n endpoint cluster attr value)),
    ("readAttribute",
      taking "readAttribute" 4 4 spot
        fun (n, endpoint, cluster, attr) => readAttribute n endpoint cluster attr) ]

/-- The functions of a client. -/
def functions : Registry Function :=
  (Registry.empty.registerAll "nodes" nodeFunctions).registerAll "clusters" clusterFunctions

end HomeGateway.Client
