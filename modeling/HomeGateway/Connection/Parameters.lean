/-
  What a connection says of itself.

  The parameters of a connection select its role and describe its session.
  All parameters of the role are needed; they are looked at in a fixed order,
  and the first that is missing or cannot be read is reported.  Other
  parameters mean nothing.

  * `SessionParams.ofQuery`: the parameters of a query;
  * `SessionParams.identity`: who the connection is.
-/
import HomeGateway.Bridge.Session
import HomeGateway.Client.Session
import HomeGateway.Connection.QueryText
import HomeGateway.Text.Blank

namespace HomeGateway.Connection

open HomeGateway QueryText

/-- What a connection says of its session. -/
inductive SessionParams where
  /-- it presents virtual devices -/
  | bridge (p : Bridge.Params)
  /-- it controls nodes -/
  | client (p : Client.Params)
deriving DecidableEq, Repr

namespace SessionParams

/-- Who the connection is. -/
def identity : SessionParams → Identity
  | .bridge p => p.identity
  | .client p => p.identity

/-- A parameter that must be there. -/
def needText (q : Parameters) (name : String) : Except Failure String :=
  match q.get? name with
  | some v => .ok v
  | none => .error (.missingParameter name)

/-- A parameter that must be a whole number of a width, white space around it
    apart. -/
def needNumber (q : Parameters) (name : String) (w : Json.Width) : Except Failure Nat := do
  let raw ← needText q name
  match Text.readUnsigned w.max (Text.trim raw) with
  | some n => .ok n
  | none => .error (.invalidParameter name raw)

/-- The parameters of a client. -/
def clientOfQuery (q : Parameters) : Except Failure Client.Params := do
  let controllerName ← needText q "controllerName"
  let storagePath ← needText q "storagePath"
  let nodeId ← needNumber q "nodeId" .bits64
  return ⟨controllerName, storagePath, nodeId⟩

/-- The parameters of a bridge. -/
def bridgeOfQuery (q : Parameters) : Except Failure Bridge.Params := do
  let storagePath ← needText q "storagePath"
  let resetStorage ← needText q "resetStorage"
  let deviceName ← needText q "deviceName"
  let vendorName ← needText q "vendorName"
  let passcode ← needNumber q "passcode" .bits32
  let discriminator ← needNumber q "discriminator" .bits16
  let vendorId ← needNumber q "vendorId" .bits16
  let productName ← needText q "productName"
  let productId ← needNumber q "productId" .bits16
  let port ← needNumber q "port" .bits16
  let uniqueId ← needText q "uniqueId"
  return ⟨storagePath, resetStorage = "true", deviceName, vendorName, passcode, discriminator,
    vendorId, productName, productId, port, uniqueId⟩

/-- The parameters of a query. -/
def ofQuery (q : Parameters) : Except Failure SessionParams :=
  match Role.ofService (q.get? "service") with
  | .client => (clientOfQuery q).map .client
  | .bridge => (bridgeOfQuery q).map .bridge

end SessionParams

end HomeGateway.Connection
