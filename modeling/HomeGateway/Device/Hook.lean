/-
  Commands that write.

  A hook says which attribute a peer's command sets on an endpoint, and to
  which value.  The value comes from the command, from its arguments, or from
  what the attribute holds now.
-/
import HomeGateway.Json.Basic

namespace HomeGateway.Device

open HomeGateway

/-- Where the value of a written attribute comes from. -/
inductive HookValue where
  /-- a value that the command stands for -/
  | constant (v : Json)
  /-- the opposite of the current truth value; the opposite of a value that is none is true -/
  | toggled
  /-- an argument of the command, unless it is missing or `null` -/
  | argument (name : String)
deriving Repr

/-- The value that a hook writes, if any. -/
def HookValue.resolve (args : Json) (current : Option Json) : HookValue → Option Json
  | .constant v => some v
  | .toggled => some (.bool (!((current.bind Json.bool?).getD false)))
  | .argument name => (args.get? name).filter fun v => !v.isNull

/-- What a command of a cluster writes. -/
structure Hook where
  /-- the cluster -/
  cluster : String
  /-- the command -/
  command : String
  /-- the attribute of the cluster that it writes -/
  attr : String
  /-- the value that it writes -/
  value : HookValue
deriving Repr

namespace Hook

/-- Whether the hook belongs to a command. -/
def matches? (h : Hook) (cluster command : String) : Bool :=
  h.cluster = cluster && h.command = command

/-- Switch on. -/
def on : Hook := ⟨"onOff", "on", "onOff", .constant (.bool true)⟩

/-- Switch off. -/
def off : Hook := ⟨"onOff", "off", "onOff", .constant (.bool false)⟩

/-- Switch over. -/
def toggle : Hook := ⟨"onOff", "toggle", "onOff", .toggled⟩

/-- The hooks of an on/off switch. -/
def switching : List Hook := [on, off, toggle]

/-- The hooks of a light that dims. -/
def dimming : List Hook :=
  switching ++
  [ ⟨"levelControl", "moveToLevel", "currentLevel", .argument "level"⟩,
    ⟨"levelControl", "moveToLevelWithOnOff", "currentLevel", .argument "level"⟩ ]

/-- The hooks of a light with colours. -/
def colouring : List Hook :=
  dimming ++
  [ ⟨"colorControl", "moveToHue", "currentHue", .argument "hue"⟩,
    ⟨"colorControl", "moveToSaturation", "currentSaturation", .argument "saturation"⟩,
    ⟨"colorControl", "moveToHueAndSaturation", "currentHue", .argument "hue"⟩,
    ⟨"colorControl", "moveToHueAndSaturation", "currentSaturation", .argument "saturation"⟩,
    ⟨"colorControl", "moveToColorTemperature", "colorTemperatureMireds",
      .argument "colorTemperatureMireds"⟩ ]

/-- The hooks of a window covering; the position counts hundredths of a percent closed. -/
def covering : List Hook :=
  [ ⟨"windowCovering", "upOrOpen", "targetPositionLiftPercent100ths", .constant (.int 0)⟩,
    ⟨"windowCovering", "downOrClose", "targetPositionLiftPercent100ths", .constant (.int 10000)⟩,
    ⟨"windowCovering", "goToLiftPercentage", "targetPositionLiftPercent100ths",
      .argument "liftPercent100thsValue"⟩ ]

end Hook

end HomeGateway.Device
