/-
  Settings from environment variables.

  A variable that is set to an acceptable value replaces a setting; any other
  value is ignored.  Texts are taken as they are unless empty; numbers and
  flags are trimmed, and numbers have to lie in the range of their variable.
-/
import HomeGateway.Settings.Basic
import HomeGateway.Text.Blank

namespace HomeGateway.Settings

/-- A flag written as a word, in letters of either case. -/
def readFlag (s : String) : Option Bool :=
  let word := s.toLower
  if word = "true" ∨ word = "1" ∨ word = "yes" ∨ word = "on" then some true
  else if word = "false" ∨ word = "0" ∨ word = "no" ∨ word = "off" then some false
  else none

/-- A number of a width between two bounds. -/
def readRange (w : Json.Width) (least greatest : Nat) (s : String) : Option Nat :=
  match Text.readUnsigned w.max s with
  | some n => if least ≤ n ∧ n ≤ greatest then some n else none
  | none => none

/-- The variables that matter. -/
def variableNames : List String :=
  [ "MGW_HOST", "MGW_PORT", "MGW_MAX_CONNECTIONS", "MGW_UPDATE_LOCK_MS", "MGW_LOG_LEVEL",
    "MGW_LOG_JSON" ]

/-- The environment: the value of a variable that is set. -/
abbrev Environment := String → Option String

/-- A text from the environment. -/
def Environment.text (env : Environment) (name : String) : Option String :=
  (env name).filter (· ≠ "")

/-- A number or a flag from the environment. -/
def Environment.word {α : Type} (env : Environment) (name : String)
    (read : String → Option α) : Option α :=
  env name >>= fun s => read (Text.trim s)

/-- The settings with what the environment replaces. -/
def withEnvironment (s : Settings) (env : Environment) : Settings :=
  { server :=
      { s.server with
        host := (env.text "MGW_HOST").getD s.server.host
        port := (env.word "MGW_PORT" (readRange .bits16 1 65535)).getD s.server.port
        maxConnections :=
          (env.word "MGW_MAX_CONNECTIONS" (readRange .counts 1 100000)).getD
            s.server.maxConnections }
    bridge :=
      { s.bridge with
        updateLockWindowMs :=
          (env.word "MGW_UPDATE_LOCK_MS" (readRange .bits64 0 60000)).getD
            s.bridge.updateLockWindowMs }
    logging :=
      { level := (env.text "MGW_LOG_LEVEL").getD s.logging.level
        json := (env.word "MGW_LOG_JSON" readFlag).getD s.logging.json } }

end HomeGateway.Settings
