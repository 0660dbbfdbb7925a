import HomeEnergy.CommandLine
import HomeEnergy.Server

/-!
The program. It has no sockets: the devices of the home are out of reach, and standard input and
output take the place of a charge point's connection, with one frame a line.
-/

namespace HomeEnergy

def settingsVariable : String := "GRIDPILOT_CONFIG"

def usage : String :=
  "Usage: gridpilot [--config PATH] [--ws-port PORT] [--log-level LEVEL] [--check] [--manual AMPS]"

def versionText : String := "gridpilot 0.1.0"

def readSettings (path : String) : IO Settings.File := do
  try
    return .bytes (← IO.FS.readBinFile path)
  catch
    | .noFileOrDirectory _ _ _ => return .missing
    | e => return .unreadable (toString e)

def settingsPath (a : CommandLine.Arguments) : IO String := do
  match a.config <|> (← IO.getEnv settingsVariable) with
  | some path => return path
  | none =>
    let home := (← IO.getEnv "HOME").filter (!·.isEmpty)
    return Settings.defaultPath (← IO.getEnv "XDG_CONFIG_HOME") home

/-- The time since the machine was started. -/
def clock : IO Timestamp := return .ofNanoseconds (← IO.monoNanosNow)

/-- The charge point at the other end of standard input and output. -/
def console : String := "console"

/-- Takes in the frames on standard input until it ends. -/
partial def serve (store : Charging.RecordStore Charging.History)
    (g : Charging.Gateway Charging.History) (connectionId : UInt64) : IO Unit := do
  let line ← (← IO.getStdin).getLine
  if line.isEmpty then return
  let (replies, g) := (g.read store connectionId (← clock) line).flush connectionId
  replies.forM IO.println
  serve store g connectionId

/-- Runs a server until standard input ends. -/
def runServer {γ τ ω : Type} (s : Server γ τ ω) : IO Unit := do
  let s := s.runCycle (← clock)
  match s.gateway with
  | some g =>
    let (connectionId, g) := g.connect console (← clock)
    serve s.store g connectionId
  | none => return

def runRequest (a : CommandLine.Arguments) : IO UInt32 := do
  let path ← settingsPath a
  let file ← readSettings path
  let now ← clock
  let outcome := CommandLine.perform a path file fun s manual =>
    (Server.start s manual (.deserted .unreachable) now).mapError (·.message)
  match outcome with
  | .printed lines => lines.forM IO.println
  | .failed reason => IO.eprintln ("Error: " ++ reason)
  | .started s => runServer s
  | .badArguments => IO.eprintln usage
  return UInt32.ofNat outcome.exitCode

def runArguments (arguments : List String) : IO UInt32 := do
  match CommandLine.parse arguments with
  | some (.run a) => runRequest a
  | some .help =>
    IO.println usage
    return 0
  | some .version =>
    IO.println versionText
    return 0
  | none =>
    IO.eprintln usage
    return 2

end HomeEnergy

def main (arguments : List String) : IO UInt32 := HomeEnergy.runArguments arguments
