/-
  Settings of the gateway.

  Three groups: the server, the bridge and the log.  Every field has a
  default, so that a settings file needs to hold only what it changes.
  `Settings.objection` tells why no server could run with settings.
-/
import HomeGateway.Message.Request

namespace HomeGateway

open Json

/-- Settings of the listener and its connections. -/
structure ServerSettings where
  /-- address to bind -/
  host : String
  /-- network port to bind -/
  port : Nat
  /-- connections accepted at once -/
  maxConnections : Nat
  /-- largest inbound message, in bytes -/
  maxMessageSize : Nat
  /-- frames kept for a connection before events are dropped -/
  outboundQueueCapacity : Nat
deriving DecidableEq, Repr

/-- Settings of virtual devices. -/
structure BridgeSettings where
  /-- how long a caller's write hides the change it causes, in milliseconds -/
  updateLockWindowMs : Nat
  /-- greatest length of the labels of a virtual device -/
  displayFieldMaxLength : Nat
deriving DecidableEq, Repr

/-- Settings of the log. -/
structure LoggingSettings where
  /-- which messages are logged -/
  level : String
  /-- whether they are logged as JSON -/
  json : Bool
deriving DecidableEq, Repr

/-- All settings. -/
structure Settings where
  /-- of the server -/
  server : ServerSettings
  /-- of virtual devices -/
  bridge : BridgeSettings
  /-- of the log -/
  logging : LoggingSettings
deriving DecidableEq, Repr

namespace ServerSettings

/-- The default settings of the server. -/
def default : ServerSettings := ⟨"0.0.0.0", 8888, 64, 1048576, 1024⟩

/-- Server settings as a value. -/
def toJson (s : ServerSettings) : Json :=
  .obj [("host", .str s.host), ("maxConnections", ofNat s.maxConnections),
    ("maxMessageSize", ofNat s.maxMessageSize),
    ("outboundQueueCapacity", ofNat s.outboundQueueCapacity), ("port", ofNat s.port)]

/-- The shape of server settings. -/
def shape : Shape :=
  .record "ServerSettings"
    [defaulted "host" .text (.str default.host),
     defaulted "port" (.whole .bits16) (ofNat default.port),
     defaulted "maxConnections" (.whole .counts) (ofNat default.maxConnections),
     defaulted "maxMessageSize" (.whole .counts) (ofNat default.maxMessageSize),
     defaulted "outboundQueueCapacity" (.whole .counts) (ofNat default.outboundQueueCapacity)]

/-- The server settings that a value is the normal form of. -/
def ofJson? (v : Json) : Option ServerSettings := do
  let host ← v.get? "host" >>= text?
  let port ← v.get? "port" >>= nat?
  let maxConnections ← v.get? "maxConnections" >>= nat?
  let maxMessageSize ← v.get? "maxMessageSize" >>= nat?
  let outboundQueueCapacity ← v.get? "outboundQueueCapacity" >>= nat?
  return ⟨host, port, maxConnections, maxMessageSize, outboundQueueCapacity⟩

end ServerSettings

namespace BridgeSettings

/-- The default settings of virtual devices. -/
def default : BridgeSettings := ⟨100, 32⟩

/-- Bridge settings as a value. -/
def toJson (s : BridgeSettings) : Json :=
  .obj [("displayFieldMaxLength", ofNat s.displayFieldMaxLength),
    ("updateLockWindowMs", ofNat s.updateLockWindowMs)]

/-- The shape of bridge settings. -/
def shape : Shape :=
  .record "BridgeSettings"
    [defaulted "updateLockWindowMs" (.whole .bits64) (ofNat default.updateLockWindowMs),
     defaulted "displayFieldMaxLength" (.whole .counts) (ofNat default.displayFieldMaxLength)]

/-- The bridge settings that a value is the normal form of. -/
def ofJson? (v : Json) : Option BridgeSettings := do
  let updateLockWindowMs ← v.get? "updateLockWindowMs" >>= nat?
  let displayFieldMaxLength ← v.get? "displayFieldMaxLength" >>= nat?
  return ⟨updateLockWindowMs, displayFieldMaxLength⟩

end BridgeSettings

namespace LoggingSettings

/-- The default settings of the log. -/
def default : LoggingSettings := ⟨"info", false⟩

/-- Log settings as a value. -/
def toJson (s : LoggingSettings) : Json :=
  .obj [("json", .bool s.json), ("level", .str s.level)]

/-- The shape of log settings. -/
def shape : Shape :=
  .record "LoggingSettings"
    [defaulted "level" .text (.str default.level), defaulted "json" .flag (.bool default.json)]

/-- The log settings that a value is the normal form of. -/
def ofJson? (v : Json) : Option LoggingSettings := do
  let level ← v.get? "level" >>= text?
  let json ← v.get? "json" >>= bool?
  return ⟨level, json⟩

end LoggingSettings

namespace Settings

/-- The default settings. -/
def default : Settings := ⟨.default, .default, .default⟩

/-- Settings as a value. -/
def toJson (s : Settings) : Json :=
  .obj [("bridge", s.bridge.toJson), ("logging", s.logging.toJson), ("server", s.server.toJson)]

/-- The shape of settings. -/
def shape : Shape :=
  .record "GatewaySettings"
    [defaulted "server" ServerSettings.shape ServerSettings.default.toJson,
     defaulted "bridge" BridgeSettings.shape BridgeSettings.default.toJson,
     defaulted "logging" LoggingSettings.shape LoggingSettings.default.toJson]

/-- The settings that a value is the normal form of. -/
def ofJson? (v : Json) : Option Settings := do
  let server ← v.get? "server" >>= ServerSettings.ofJson?
  let bridge ← v.get? "bridge" >>= BridgeSettings.ofJson?
  let logging ← v.get? "logging" >>= LoggingSettings.ofJson?
  return ⟨server, bridge, logging⟩

/-- The settings in a text. -/
def read (t : String) : Except Problem Settings :=
  readAs shape ofJson? t

/-- The settings that a value describes. -/
def ofValue (v : Json) : Except Problem Settings :=
  match shape.readValue v with
  | .error p => .error p
  | .ok v =>
    match ofJson? v with
    | some s => .ok s
    | none => .error .malformed

/-- Why no server can run with settings. -/
def objection (s : Settings) : Option String :=
  if s.server.port = 0 then some "server.port must be non-zero"
  else if s.server.maxConnections = 0 then some "server.maxConnections must be at least 1"
  else if s.server.outboundQueueCapacity = 0 then
    some "server.outboundQueueCapacity must be at least 1"
  else if s.bridge.displayFieldMaxLength = 0 then
    some "bridge.displayFieldMaxLength must be at least 1"
  else none

end Settings

end HomeGateway
