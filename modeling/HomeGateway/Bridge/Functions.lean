/-
  The functions of a bridge.

  `functions` registers everything a caller can ask of a bridge.  Each function
  reads its positional arguments and then acts; `resetBridge` is another name
  of `resetEndpoints`.
-/
import HomeGateway.Bridge.Session
import HomeGateway.Call.Arguments
import HomeGateway.Call.Registry

namespace HomeGateway.Bridge

open HomeGateway Call

/-- A function of a bridge. -/
abbrev Function := List Json → Doing Progress

/-- A function without arguments or result. -/
def plain (name : String) (act : Doing Unit) : Function := fun args => do
  Engine.Use.ofExcept (noArguments name args)
  act
  return .done .null

/-- A function without arguments. -/
def asking (name : String) (act : Doing Json) : Function := fun args => do
  Engine.Use.ofExcept (noArguments name args)
  return .done (← act)

/-- The arguments of `addEndpoint`. -/
def readSpec : Reading Spec := do
  let typeName ← next text
  let id ← next text
  let node ← next (optional text)
  let product ← next (optional text)
  let productLabel ← next (optional text)
  let serial ← next (optional text)
  let attributes ← next (optional object)
  return ⟨typeName, id, ⟨node.getD "", product.getD "", productLabel.getD "", serial.getD ""⟩,
    attributes.getD []⟩

/-- Make an endpoint. -/
def callAddEndpoint : Function := fun args => do
  addEndpoint (← Engine.Use.ofExcept (arguments "addEndpoint" 2 7 readSpec args))

/-- The arguments of `setEndpointState`. -/
def readAttribute : Reading (String × String × String × Json) := do
  return (← next text, ← next text, ← next text, ← next any)

/-- Write an attribute. -/
def callSetEndpointState : Function := fun args => do
  let (id, cluster, attr, value) ←
    Engine.Use.ofExcept (arguments "setEndpointState" 4 4 readAttribute args)
  setState id cluster attr value

/-- The namespace of the functions. -/
def space : String := "bridge"

/-- The functions of a bridge. -/
def functions : Registry Function :=
  Registry.empty.registerAll space
    [ ("addEndpoint", callAddEndpoint),
      ("setEndpointState", callSetEndpointState),
      ("resetEndpoints", plain "resetEndpoints" reset),
      ("resetBridge", plain "resetEndpoints" reset),
      ("startBridge", plain "startBridge" start),
      ("getCommissioningState", asking "getCommissioningState" commissioningState),
      ("openCommissioningWindow", plain "openCommissioningWindow" openCommissioningWindow),
      ("closeCommissioningWindow", plain "closeCommissioningWindow" closeCommissioningWindow),
      ("listEndpoints", asking "listEndpoints" listEndpoints) ]

end HomeGateway.Bridge
