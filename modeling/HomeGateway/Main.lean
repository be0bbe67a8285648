/-
  The program.

  It loads the settings and serves one caller over standard input and output:
  the first line is the query of the connection, every further line a frame of
  the caller.  What the caller sees is written line by line.
-/
import HomeGateway.Gateway.Host
import HomeGateway.Settings.CommandLine

namespace HomeGateway.Program

open HomeGateway

/-- What the caller sees, as a line. -/
def line : Outcome → String
  | .frame f => f.text
  | .pong size => "pong " ++ Text.showNat size
  | .close code reason => "close " ++ Text.showNat code ++ " " ++ reason
  | .gone => "end"

/-- A line of input without its end. -/
def content (s : String) : String :=
  String.ofList (s.toList.reverse.dropWhile (fun c => c = '\n' || c = '\r')).reverse

/-- The bytes of a file, if there is one. -/
def fileBytes? (path : String) : IO (Option (List UInt8)) := do
  try
    let bytes ← IO.FS.readBinFile path
    return some bytes.toList
  catch
    | .noFileOrDirectory .. => return none
    | e => throw e

/-- The environment variables that matter. -/
def environment : IO Settings.Environment := do
  let values ← Settings.variableNames.mapM fun name => return (name, ← IO.getEnv name)
  return fun name => (values.find? (·.1 = name)).bind Prod.snd

/-- The settings of a file and the environment, with what the options replace. -/
def settings (opts : Settings.Options) (path : String) : IO (Except SettingsError Settings) := do
  let env ← environment
  let loaded := match ← fileBytes? path with
    | some bytes => Settings.loadBytes bytes env
    | none => Settings.load none env
  return loaded.map opts.apply

/-- Let everything happen that can happen, and write what the caller sees. -/
def settle (output : IO.FS.Stream) (start : Nat) (h : Host) : IO Host := do
  let (seen, _, h) := h.settle.takeSeen
  for o in seen do
    output.putStrLn (line o.2)
  output.flush
  let now := (← IO.monoMsNow) - start
  return { h with gateway := h.gateway.advance (now - h.gateway.engine.now) }

/-- Serve the frames of a caller until one of the two ends the connection. -/
partial def serve (input output : IO.FS.Stream) (start c : Nat) (h : Host) : IO Unit := do
  let h ← settle output start h
  if (h.link? c).isNone then
    return
  let frame ← input.getLine
  if frame.isEmpty then
    let _ ← settle output start h.stop
  else
    serve input output start c (h.receive c [.text (content frame)])

/-- Serve a caller with these settings. -/
def run (s : Settings) : IO Unit := do
  let input ← IO.getStdin
  let output ← IO.getStdout
  let query ← input.getLine
  let (c, h) := (Host.initial (.ofSettings s)).connect (Connection.QueryText.decode (content query))
  serve input output (← IO.monoMsNow) c h

end HomeGateway.Program

open HomeGateway in
/-- Serve one caller over standard input and output. -/
def main (words : List String) : IO UInt32 := do
  match Settings.Options.ofWords words with
  | .error e =>
    IO.eprintln ("error: " ++ e.message)
    return 2
  | .ok opts =>
    let path ← match opts.config with
      | some path => pure path
      | none => pure (Settings.defaultFile (← IO.getEnv "HOME"))
    match ← Program.settings opts path with
    | .error e =>
      IO.eprintln ("Error: Failed to load settings from " ++ path ++ ": " ++ e.message)
      return 1
    | .ok s =>
      Program.run s
      return 0
