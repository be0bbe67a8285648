/-
  The device types that a bridge can offer.

  Each type has a name on the wire, a code of the home protocol, the default
  attributes of its clusters, the attributes whose changes are told to the
  caller, and the hooks of its commands.

  * `ofName?_name`: a type is found by its name.
-/
import HomeGateway.Device.Hook
import HomeGateway.Failure

namespace HomeGateway.Device

open HomeGateway

/-- A type of bridged device. -/
inductive DeviceType where
  /-- a light that is on or off -/
  | onOffLight
  /-- a plug-in unit that is on or off -/
  | onOffPlugInUnit
  /-- a light that dims -/
  | dimmableLight
  /-- a light with colours -/
  | colorLight
  /-- a thermostat -/
  | thermostat
  /-- a window covering -/
  | windowCovering
  /-- a door lock -/
  | doorLock
  /-- a temperature sensor -/
  | temperatureSensor
  /-- a humidity sensor -/
  | humiditySensor
  /-- a sensor of presence -/
  | occupancySensor
  /-- a sensor of contact -/
  | contactSensor
  /-- a fan -/
  | fan
deriving DecidableEq, Repr

namespace DeviceType

/-- The catalogue, in order. -/
def all : List DeviceType :=
  [ .onOffLight, .onOffPlugInUnit, .dimmableLight, .colorLight, .thermostat, .windowCovering,
    .doorLock, .temperatureSensor, .humiditySensor, .occupancySensor, .contactSensor, .fan ]

/-- The name on the wire. -/
def name : DeviceType → String
  | .onOffLight => "OnOffLightDevice"
  | .onOffPlugInUnit => "OnOffPlugInUnitDevice"
  | .dimmableLight => "DimmableLightDevice"
  | .colorLight => "ColorLightDevice"
  | .thermostat => "ThermostatDevice"
  | .windowCovering => "WindowCoveringDevice"
  | .doorLock => "DoorLockDevice"
  | .temperatureSensor => "TemperatureSensor"
  | .humiditySensor => "HumiditySensor"
  | .occupancySensor => "OccupancySensor"
  | .contactSensor => "ContactSensor"
  | .fan => "FanDevice"

/-- The code in the home protocol. -/
def code : DeviceType → Nat
  | .onOffLight => 0x0100
  | .onOffPlugInUnit => 0x010A
  | .dimmableLight => 0x0101
  | .colorLight => 0x010D
  | .thermostat => 0x0301
  | .windowCovering => 0x0202
  | .doorLock => 0x000A
  | .temperatureSensor => 0x0302
  | .humiditySensor => 0x0307
  | .occupancySensor => 0x0107
  | .contactSensor => 0x0015
  | .fan => 0x002B

/-- The type of a name. -/
def ofName? (s : String) : Option DeviceType :=
  all.find? (·.name = s)

/-- The type of a name, or the failure that there is none. -/
def ofName (s : String) : Except Failure DeviceType :=
  match ofName? s with
  | some t => .ok t
  | none => .error (.unsupportedDeviceType s)

theorem ofName?_name (t : DeviceType) : ofName? t.name = some t := by
  cases t <;> decide

/-! ## Clusters -/

/-- A cluster with its attributes. -/
private def cluster (title : String) (attributes : List (String × Json)) : String × Json :=
  (title, Json.ofPairs attributes)

/-- The on/off cluster, switched off. -/
private def onOff : String × Json :=
  cluster "onOff" [("onOff", .bool false)]

/-- The level cluster, at the lowest level. -/
private def levelControl : String × Json :=
  cluster "levelControl" [("currentLevel", .int 0)]

/-- The default attributes: all that a caller can override. -/
def defaults (t : DeviceType) : Fields :=
  Fields.ofList <| match t with
  | .onOffLight | .onOffPlugInUnit => [onOff]
  | .dimmableLight => [levelControl, onOff]
  | .colorLight =>
    [ levelControl, onOff,
      cluster "colorControl"
        [("currentHue", .int 0), ("currentSaturation", .int 0), ("colorTemperatureMireds", .int 250)] ]
  | .thermostat =>
    [ cluster "thermostat"
        [ ("systemMode", .int 0), ("localTemperature", .int 0),
          ("minHeatSetpointLimit", .int 0), ("maxHeatSetpointLimit", .int 3500),
          ("absMinHeatSetpointLimit", .int 0), ("absMaxHeatSetpointLimit", .int 3500),
          ("minCoolSetpointLimit", .int 0), ("absMinCoolSetpointLimit", .int 0),
          ("maxCoolSetpointLimit", .int 3500), ("absMaxCoolSetpointLimit", .int 3500),
          ("occupiedHeatingSetpoint", .int 0), ("occupiedCoolingSetpoint", .int 0),
          ("minSetpointDeadBand", .int 0) ],
      onOff ]
  | .windowCovering => [cluster "windowCovering" [("currentPositionLiftPercent100ths", .int 0)]]
  | .doorLock =>
    [ cluster "doorLock"
        [ ("lockState", .int 0), ("lockType", .int 0), ("actuatorEnabled", .bool true),
          ("doorState", .int 1), ("maxPinCodeLength", .int 10), ("minPinCodeLength", .int 1),
          ("wrongCodeEntryLimit", .int 5), ("userCodeTemporaryDisableTime", .int 10) ] ]
  | .temperatureSensor => [cluster "temperatureMeasurement" [("measuredValue", .int 0)]]
  | .humiditySensor => [cluster "relativeHumidityMeasurement" [("measuredValue", .int 0)]]
  | .occupancySensor =>
    [ cluster "occupancySensing"
        [ ("occupancy", Json.ofPairs [("occupied", .bool false)]), ("occupancySensorType", .int 3) ] ]
  | .contactSensor => [cluster "booleanState" [("stateValue", .bool false)]]
  | .fan =>
    [ cluster "fanControl"
        [ ("fanMode", .int 0), ("fanModeSequence", .int 2), ("percentCurrent", .int 0),
          ("percentSetting", .int 0) ] ]

/-- The attributes whose changes are told to the caller. -/
def observed : DeviceType → List (String × String)
  | .thermostat =>
    [ ("thermostat", "localTemperature"), ("thermostat", "outdoorTemperature"),
      ("thermostat", "occupiedHeatingSetpoint"), ("thermostat", "occupiedCoolingSetpoint"),
      ("thermostat", "systemMode"), ("thermostat", "thermostatRunningMode"), ("onOff", "onOff") ]
  | .windowCovering => [("windowCovering", "operationalStatus")]
  | .doorLock => [("doorLock", "lockState")]
  | .fan =>
    [("fanControl", "fanMode"), ("fanControl", "fanModeSequence"), ("fanControl", "percentSetting")]
  | _ => []

/-- Whether changes of an attribute are told to the caller. -/
def observes (t : DeviceType) (cluster attr : String) : Bool :=
  t.observed.contains (cluster, attr)

/-- The hooks of the commands. -/
def hooks : DeviceType → List Hook
  | .onOffLight | .onOffPlugInUnit => Hook.switching
  | .dimmableLight => Hook.dimming
  | .colorLight => Hook.colouring
  | .windowCovering => Hook.covering
  | _ => []

end DeviceType

end HomeGateway.Device
