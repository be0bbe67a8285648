/-
  What a device type makes of its merged attributes.

  `configure t overrides merged` gives the final attributes and the features of
  their clusters.  Only a thermostat changes its attributes: it heats if the
  caller gave a heating setpoint, it cools if the caller gave a cooling
  setpoint, and it must do one of the two.

  * `configureIn`: the same for attributes that are changed in their place;
  * `configure_plain`: other types keep the merged attributes.
-/
import HomeGateway.Device.Catalogue
import HomeGateway.Device.Merge

namespace HomeGateway.Device

open HomeGateway

/-- An optional part of a cluster. -/
structure Feature where
  /-- the cluster -/
  cluster : String
  /-- the name of the part -/
  name : String
deriving DecidableEq, Repr

/-- The feature as text. -/
def Feature.text (f : Feature) : String :=
  f.cluster ++ "." ++ f.name

/-- The attributes of a device and the features of its clusters. -/
structure Configuration where
  /-- the attributes -/
  tree : Fields
  /-- the features -/
  features : List Feature
deriving Repr

namespace Thermostat

/-- The attributes that only a heating thermostat has. -/
def heatingAttributes : List String :=
  [ "occupiedHeatingSetpoint", "minHeatSetpointLimit", "maxHeatSetpointLimit",
    "absMinHeatSetpointLimit", "absMaxHeatSetpointLimit" ]

/-- The attributes that only a cooling thermostat has. -/
def coolingAttributes : List String :=
  [ "occupiedCoolingSetpoint", "minCoolSetpointLimit", "maxCoolSetpointLimit",
    "absMinCoolSetpointLimit", "absMaxCoolSetpointLimit" ]

/-- What a thermostat can do. -/
inductive Mode where
  /-- it heats -/
  | heating
  /-- it cools -/
  | cooling
  /-- it does both -/
  | both
deriving DecidableEq, Repr

/-- Whether the caller gave an attribute of the thermostat a value other than `null`. -/
def given (overrides : Fields) (attr : String) : Bool :=
  match leaf? overrides "thermostat" attr with
  | some v => !v.isNull
  | none => false

/-- The mode that the caller asked for. -/
def Mode.ofOverrides? (overrides : Fields) : Option Mode :=
  match given overrides "occupiedHeatingSetpoint", given overrides "occupiedCoolingSetpoint" with
  | true, true => some .both
  | true, false => some .heating
  | false, true => some .cooling
  | false, false => none

/-- The code of the control sequence. -/
def Mode.sequence : Mode → Nat
  | .cooling => 0
  | .heating => 2
  | .both => 4

/-- The features of the thermostat cluster. -/
def Mode.features : Mode → List String
  | .heating => ["Heating"]
  | .cooling => ["Cooling"]
  | .both => ["Heating", "Cooling", "AutoMode"]

/-- The attributes that a thermostat of this mode does without. -/
def Mode.dropped : Mode → List String
  | .heating => coolingAttributes ++ ["minSetpointDeadBand"]
  | .cooling => heatingAttributes ++ ["minSetpointDeadBand"]
  | .both => []

/-- Fit the attributes of the cluster to a mode. -/
def Mode.fit (m : Mode) (attributes : Fields) : Fields :=
  Fields.insert "controlSequenceOfOperation" (.ofNat m.sequence)
    (m.dropped.foldl (fun fs a => Fields.erase a fs) attributes)

/-- Fit a whole tree to a mode; a thermostat cluster that is no object stays as it is. -/
def Mode.fitTree (m : Mode) (tree : Fields) : Fields :=
  match tree.get? "thermostat" with
  | some (.obj attributes) => tree.insert "thermostat" (.obj (m.fit attributes))
  | _ => tree

end Thermostat

/-- The final attributes and features of a device. -/
def configure (t : DeviceType) (overrides merged : Fields) : Except Failure Configuration :=
  match t with
  | .thermostat =>
    match Thermostat.Mode.ofOverrides? overrides with
    | some m => .ok ⟨m.fitTree merged, m.features.map (Feature.mk "thermostat")⟩
    | none => .error .thermostatConfiguration
  | .windowCovering =>
    .ok ⟨merged, [⟨"windowCovering", "Lift"⟩, ⟨"windowCovering", "PositionAwareLift"⟩]⟩
  | .doorLock => .ok ⟨merged, [⟨"doorLock", "PinCredential"⟩]⟩
  | .colorLight =>
    .ok ⟨merged, [⟨"colorControl", "HueSaturation"⟩, ⟨"colorControl", "ColorTemperature"⟩]⟩
  | _ => .ok ⟨merged, []⟩

/-- Configure attributes in their place: the features or the failure, and the attributes afterwards.
    A failure comes before any change. -/
def configureIn (t : DeviceType) (overrides tree : Fields) :
    Except Failure (List Feature) × Fields :=
  match configure t overrides tree with
  | .ok c => (.ok c.features, c.tree)
  | .error f => (.error f, tree)

theorem configure_plain {t : DeviceType} (h : t ≠ .thermostat) (overrides merged : Fields) :
    ∃ fs, configure t overrides merged = .ok ⟨merged, fs⟩ := by
  cases t <;> first | exact absurd rfl h | exact ⟨_, rfl⟩

end HomeGateway.Device
