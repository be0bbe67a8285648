/-
  What can go wrong.

  `EngineError` lists the failures of the protocol engine, `Failure` those of
  the gateway; each has a code for programs and a message for people.  A
  failure is fatal if it ends the connection instead of answering a request.
  `Mishap` adds the way a request can end without an answer of its own: the
  engine gives up in the middle of it.
-/
import HomeGateway.Text.Digits

namespace HomeGateway

/-- A failure of the protocol engine. -/
inductive EngineError where
  /-- a device could not be commissioned -/
  | commissioningFailed (reason : String)
  /-- a node has no live session -/
  | nodeNotConnected (node : Nat)
  /-- a node is not commissioned -/
  | nodeNotFound (node : Nat)
  /-- a node has no such endpoint -/
  | endpointNotFound (what : String)
  /-- an endpoint has no such cluster -/
  | clusterNotFound (what : String)
  /-- a cluster has no such attribute -/
  | attributeNotFound (what : String)
  /-- a cluster has no such command -/
  | commandNotFound (what : String)
  /-- the operation does not fit the state of its object -/
  | invalidState (text : String)
  /-- the persistent storage failed -/
  | storage (reason : String)
deriving DecidableEq, Repr

/-- The code of an engine failure. -/
def EngineError.code : EngineError → String
  | .commissioningFailed _ => "COMMISSIONING_FAILED"
  | .nodeNotConnected _ => "NODE_NOT_CONNECTED"
  | .nodeNotFound _ => "NODE_NOT_FOUND"
  | .endpointNotFound _ => "ENDPOINT_NOT_FOUND"
  | .clusterNotFound _ => "CLUSTER_NOT_FOUND"
  | .attributeNotFound _ => "ATTRIBUTE_NOT_FOUND"
  | .commandNotFound _ => "COMMAND_NOT_FOUND"
  | .invalidState _ => "INVALID_STATE"
  | .storage _ => "STORAGE_ERROR"

/-- The message of an engine failure. -/
def EngineError.message : EngineError → String
  | .commissioningFailed reason => "Commissioning failed: " ++ reason
  | .nodeNotConnected node => "Node " ++ Text.showNat node ++ " not connected"
  | .nodeNotFound node => "Node " ++ Text.showNat node ++ " not found"
  | .endpointNotFound what => "Endpoint " ++ what ++ " not found"
  | .clusterNotFound what => "Cluster " ++ what ++ " not found"
  | .attributeNotFound what => "Attribute " ++ what ++ " not found"
  | .commandNotFound what => "Command " ++ what ++ " not found"
  | .invalidState text => text
  | .storage reason => "Storage error: " ++ reason

/-- A failure of the gateway. -/
inductive Failure where
  /-- a frame was no request -/
  | parse (text : String)
  /-- a request names an unknown namespace -/
  | namespaceNotFound (name : String)
  /-- a request names an unknown function -/
  | functionNotFound (name : String)
  /-- the arguments of a request do not fit its function -/
  | invalidArguments (function reason : String)
  /-- an endpoint of an unknown device type -/
  | unsupportedDeviceType (name : String)
  /-- an endpoint whose id is taken -/
  | duplicateEndpoint (id : String)
  /-- a thermostat that neither heats nor cools -/
  | thermostatConfiguration
  /-- a connection whose identity is taken -/
  | duplicateIdentity (who : String)
  /-- a connection without a parameter it needs -/
  | missingParameter (name : String)
  /-- a connection parameter that cannot be read -/
  | invalidParameter (name value : String)
  /-- the fabric of the gateway itself was to be removed -/
  | cannotRemoveOwnFabric
  /-- a session whose engine node is not there -/
  | notInitialized (what : String)
  /-- a failure of the engine -/
  | engine (e : EngineError)
  /-- an internal failure -/
  | internal (text : String)
deriving DecidableEq, Repr

namespace Failure

/-- The code of a failure. -/
def code : Failure → String
  | .parse _ => "PARSE_ERROR"
  | .namespaceNotFound _ => "NAMESPACE_NOT_FOUND"
  | .functionNotFound _ => "FUNCTION_NOT_FOUND"
  | .invalidArguments _ _ => "INVALID_ARGUMENTS"
  | .unsupportedDeviceType _ => "UNSUPPORTED_DEVICE_TYPE"
  | .duplicateEndpoint _ => "DUPLICATE_ENDPOINT"
  | .thermostatConfiguration => "THERMOSTAT_CONFIGURATION"
  | .duplicateIdentity _ => "DUPLICATE_IDENTITY"
  | .missingParameter _ => "MISSING_PARAMETER"
  | .invalidParameter _ _ => "INVALID_PARAMETER"
  | .cannotRemoveOwnFabric => "CANNOT_REMOVE_OWN_FABRIC"
  | .notInitialized _ => "NOT_INITIALIZED"
  | .engine e => e.code
  | .internal _ => "INTERNAL_ERROR"

/-- The message of a failure. -/
def message : Failure → String
  | .parse text => text
  | .namespaceNotFound name => "Namespace " ++ name ++ " not found"
  | .functionNotFound name => "Function " ++ name ++ " not found"
  | .invalidArguments function reason =>
    "Invalid arguments for " ++ function ++ ": " ++ reason
  | .unsupportedDeviceType name => "Unsupported device type " ++ name
  | .duplicateEndpoint id =>
    "Device " ++ id ++ " already exists! Call 'resetEndpoints' first and try again."
  | .thermostatConfiguration => "At least heating, cooling or both must be added"
  | .duplicateIdentity who => who ++ " already exists!"
  | .missingParameter name => "No " ++ name ++ " parameter in the request"
  | .invalidParameter name value => "Invalid " ++ name ++ " parameter: " ++ value
  | .cannotRemoveOwnFabric => "Will not delete our own fabric"
  | .notInitialized what => what ++ " not initialized"
  | .engine e => e.message
  | .internal text => text

/-- Whether a failure ends its connection. -/
def isFatal : Failure → Bool
  | .missingParameter _ | .invalidParameter _ _ | .duplicateIdentity _ => true
  | _ => false

end Failure

/-- How a request can go wrong. -/
inductive Mishap where
  /-- it fails -/
  | failed (f : Failure)
  /-- the engine gives up in the middle of it -/
  | collapsed (reason : String)
deriving DecidableEq, Repr

/-- The message of a collapse inside a function. -/
def collapseMessage (function reason : String) : String :=
  "Internal error in " ++ function ++ ": " ++ reason

/-- The code of a collapse. -/
def collapseCode : String := "INTERNAL_ERROR"

end HomeGateway
