/-
  Loading settings.

  The file, if there is one, is read as a free-form value and laid over the
  defaults; the result is read as settings, changed by the environment and
  checked.  `ServerConfig` is what a server is started with.
-/
import HomeGateway.Settings.Environment
import HomeGateway.Settings.Overlay
import HomeGateway.Text.Utf8

namespace HomeGateway

open Json

/-- Why settings could not be loaded. -/
inductive SettingsError where
  /-- the file is not a text -/
  | unreadable
  /-- the file is no JSON text, or not of the shape of settings -/
  | json (p : Problem)
  /-- no server can run with the settings -/
  | invalidValue (reason : String)
deriving DecidableEq, Repr

/-- The message of a settings error. -/
def SettingsError.message : SettingsError → String
  | .unreadable => "failed to read settings file: stream did not contain valid UTF-8"
  | .json p => "failed to parse settings JSON: " ++ p.message
  | .invalidValue reason => "invalid settings value: " ++ reason

namespace Settings

/-- Refuse settings with which no server can run. -/
def validate (s : Settings) : Except SettingsError Settings :=
  match s.objection with
  | none => .ok s
  | some reason => .error (.invalidValue reason)

/-- The defaults with a file of this text laid over them. -/
def merged (file : Option String) : Except SettingsError Json :=
  match file with
  | none => .ok default.toJson
  | some t =>
    match parse t with
    | .error p => .error (.json p)
    | .ok v => .ok (overlay default.toJson v)

/-- Load settings from a file of this text and an environment. -/
def load (file : Option String) (env : Environment) : Except SettingsError Settings :=
  match merged file with
  | .error e => .error e
  | .ok v =>
    match ofValue v with
    | .error p => .error (.json p)
    | .ok s => (s.withEnvironment env).validate

/-- Load settings from a file of these bytes and an environment. -/
def loadBytes (file : List UInt8) (env : Environment) : Except SettingsError Settings :=
  match Text.Utf8.decode file with
  | .error _ => .error .unreadable
  | .ok t => load (some t) env

end Settings

/-- How virtual devices behave. -/
structure BridgeOptions where
  /-- how long a caller's write hides the change it causes, in milliseconds -/
  lockWindow : Nat
  /-- greatest length of the labels of a virtual device -/
  maxLabel : Nat
deriving DecidableEq, Repr

/-- What a server is started with. -/
structure ServerConfig where
  /-- address to bind -/
  host : String
  /-- network port to bind -/
  port : Nat
  /-- connections accepted at once -/
  maxConnections : Nat
  /-- largest inbound message, in bytes -/
  maxMessageSize : Nat
  /-- frames kept for a connection before events are dropped -/
  queueCapacity : Nat
  /-- how long a graceful shutdown waits, in milliseconds -/
  shutdownTimeout : Nat
  /-- how virtual devices behave -/
  bridge : BridgeOptions
deriving DecidableEq, Repr

/-- The configuration that settings ask for. -/
def ServerConfig.ofSettings (s : Settings) : ServerConfig where
  host := s.server.host
  port := s.server.port
  maxConnections := s.server.maxConnections
  maxMessageSize := s.server.maxMessageSize
  queueCapacity := s.server.outboundQueueCapacity
  shutdownTimeout := 10000
  bridge := ⟨s.bridge.updateLockWindowMs, s.bridge.displayFieldMaxLength⟩

end HomeGateway
