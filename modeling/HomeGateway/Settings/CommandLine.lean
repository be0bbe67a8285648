/-
  The command line.

  Five options: where the settings file is, and four that win over the file and
  the environment.  The value of an option is the next word, or stands behind
  an equals sign in the same word.  An option may be given once.

  * `Options.ofWords`: the options in a row of words;
  * `Options.apply`: the settings with what the options replace.
-/
import HomeGateway.Settings.Load

namespace HomeGateway.Settings

/-- An option that takes a value. -/
inductive ValueOption where
  /-- where the settings file is -/
  | config
  /-- address to bind -/
  | host
  /-- network port to bind -/
  | port
  /-- which messages are logged -/
  | logLevel
deriving DecidableEq, Repr

namespace ValueOption

/-- All options that take a value. -/
def all : List ValueOption := [.config, .host, .port, .logLevel]

/-- How an option is written. -/
def flag : ValueOption → String
  | .config => "--config"
  | .host => "--host"
  | .port => "--port"
  | .logLevel => "--log-level"

/-- What the value of an option is called. -/
def placeholder : ValueOption → String
  | .config => "CONFIG"
  | .host => "HOST"
  | .port => "PORT"
  | .logLevel => "LOG_LEVEL"

/-- An option with its value, as it is named in messages. -/
def usage (o : ValueOption) : String :=
  o.flag ++ " <" ++ o.placeholder ++ ">"

/-- The option that a word stands for. -/
def ofFlag? (word : String) : Option ValueOption :=
  all.find? (·.flag = word)

end ValueOption

/-- The option without a value: log messages are JSON. -/
def logJsonFlag : String := "--log-json"

/-- The options of a command line. -/
structure Options where
  /-- where the settings file is -/
  config : Option String
  /-- address to bind -/
  host : Option String
  /-- network port to bind -/
  port : Option Nat
  /-- which messages are logged -/
  logLevel : Option String
  /-- whether they are logged as JSON -/
  logJson : Bool
deriving DecidableEq, Repr

/-- What is wrong with a command line. -/
inductive OptionsError where
  /-- a word that is no option -/
  | unexpected (word : String)
  /-- an option without its value -/
  | valueMissing (o : ValueOption)
  /-- a value that its option does not take -/
  | badValue (o : ValueOption) (value : String)
  /-- an option given again -/
  | repeated (usage : String)
deriving DecidableEq, Repr

/-- The wording of what is wrong with a command line. -/
def OptionsError.message : OptionsError → String
  | .unexpected word => "unexpected argument '" ++ word ++ "' found"
  | .valueMissing o => "a value is required for '" ++ o.usage ++ "' but none was supplied"
  | .badValue o value => "invalid value '" ++ value ++ "' for '" ++ o.usage ++ "'"
  | .repeated usage => "the argument '" ++ usage ++ "' cannot be used multiple times"

namespace Options

/-- No options. -/
def empty : Options := ⟨none, none, none, none, false⟩

/-- Whether an option has its value already. -/
def given (o : ValueOption) (opts : Options) : Bool :=
  match o with
  | .config => opts.config.isSome
  | .host => opts.host.isSome
  | .port => opts.port.isSome
  | .logLevel => opts.logLevel.isSome

/-- Give an option its value. -/
def give (o : ValueOption) (value : String) (opts : Options) : Except OptionsError Options :=
  if opts.given o then .error (.repeated o.usage)
  else
    match o with
    | .config => .ok { opts with config := some value }
    | .host => .ok { opts with host := some value }
    | .logLevel => .ok { opts with logLevel := some value }
    | .port =>
      match Text.readUnsigned Json.Width.bits16.max value with
      | some n => .ok { opts with port := some n }
      | none => .error (.badValue o value)

/-- A word split at its first equals sign. -/
def splitWord (word : String) : String × Option String :=
  match word.toList.dropWhile (· ≠ '=') with
  | [] => (word, none)
  | _ :: value =>
    (String.ofList (word.toList.takeWhile (· ≠ '=')), some (String.ofList value))

/-- The options in a row of words, on top of those read. -/
def readWords (opts : Options) : List String → Except OptionsError Options
  | [] => .ok opts
  | word :: rest =>
    if word = logJsonFlag then
      if opts.logJson then .error (.repeated logJsonFlag)
      else readWords { opts with logJson := true } rest
    else
      match ValueOption.ofFlag? (splitWord word).1, (splitWord word).2, rest with
      | none, _, _ => .error (.unexpected word)
      | some o, some value, rest =>
        match opts.give o value with
        | .ok opts => readWords opts rest
        | .error e => .error e
      | some o, none, [] => .error (.valueMissing o)
      | some o, none, value :: rest =>
        match opts.give o value with
        | .ok opts => readWords opts rest
        | .error e => .error e

/-- The options in a row of words. -/
def ofWords (words : List String) : Except OptionsError Options :=
  readWords empty words

/-- The settings with what the options replace. -/
def apply (opts : Options) (s : Settings) : Settings :=
  { s with
    server :=
      { s.server with
        host := opts.host.getD s.server.host
        port := opts.port.getD s.server.port }
    logging :=
      { level := opts.logLevel.getD s.logging.level
        json := opts.logJson || s.logging.json } }

end Options

/-- The settings file of a user; one without a home has it in the temporary
    directory. -/
def defaultFile (home : Option String) : String :=
  home.getD "/tmp" ++ "/.mgw/settings.json"

end HomeGateway.Settings
