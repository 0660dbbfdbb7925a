import HomeEnergy.Settings.Basic
import HomeEnergy.Settings.Energy
import HomeEnergy.Toml.Parser

/-!
Settings as a whole: read from a TOML document, checked, and loaded from a file. A file that is not
there gives the settings that hold where nothing is configured.
-/

namespace HomeEnergy

structure Settings where
  server : Settings.Server
  logging : Settings.Logging
  metrics : Settings.Metrics
  chargePoints : Settings.ChargePoints
  energy : Settings.Energy
  devices : Settings.Devices

namespace Settings

def default : Settings := ⟨.default, .default, .default, .default, .empty, .default⟩

/-- Checks what the types of the settings leave open. -/
def validate (s : Settings) : Except Fault Unit := do
  let _ ← s.energy.loop
  let _ ← s.energy.keepAlive
  if s.chargePoints.heartbeatInterval = 0 then .error .noHeartbeat else return ()

inductive LoadFault where
  /-- The file cannot be read. -/
  | unreadable (path reason : String)
  /-- The text is no TOML document, or a value has the wrong type. -/
  | malformed
  | invalid (fault : Fault)
deriving DecidableEq, Repr

def energyOf : Toml.Value → Option Energy
  | .table entries => (Toml.Value.withDatesInEntries entries).map fun entries => ⟨.ofList entries⟩
  | .datetime _ => some .empty
  | _ => none

/-- A section of a document; the default if it is not there. -/
def read? {α : Type} (entries : List (String × Toml.Value)) (key : String)
    (fields : Json.Fields α) (absent : α) : Option α :=
  match Entries.get? key entries with
  | none => some absent
  | some v => (sectionOf key fields (toJson v)).toOption

def ofEntries? (entries : List (String × Toml.Value)) : Option Settings := do
  let server ← read? entries "server" Server.fields .default
  let logging ← read? entries "logging" Logging.fields .default
  let metrics ← read? entries "metrics" Metrics.fields .default
  let chargePoints ← read? entries "ocpp" ChargePoints.fields .default
  let energy ← match Entries.get? "energy_manager" entries with
    | none => some .empty
    | some v => energyOf v
  let devices ← read? entries "devices" Devices.fields .default
  return ⟨server, logging, metrics, chargePoints, energy, devices⟩

/-- The settings in a text, checked. -/
def parse (text : String) : Except LoadFault Settings :=
  match (Toml.parse? text).bind ofEntries? with
  | none => .error .malformed
  | some s =>
    match s.validate with
    | .ok _ => .ok s
    | .error fault => .error (.invalid fault)

/-! ## Files -/

/-- What there is at a path. -/
inductive File where
  | missing
  | unreadable (reason : String)
  | bytes (contents : ByteArray)

/-- What is said of a directory that is read as a file. -/
def File.directory : File := .unreadable "Is a directory (os error 21)"

def load (path : String) : File → Except LoadFault Settings
  | .missing => .ok .default
  | .unreadable reason => .error (.unreadable path reason)
  | .bytes contents =>
    match String.fromUTF8? contents with
    | some text => parse text
    | none => .error (.unreadable path "stream did not contain valid UTF-8")

/-- The wording of a fault; nothing is said about malformed texts. -/
def LoadFault.message : LoadFault → String
  | .unreadable path reason => "cannot read " ++ path ++ ": " ++ reason
  | .malformed => "cannot parse config"
  | .invalid fault => fault.message

def joined (directory name : String) : String :=
  if directory.endsWith "/" then directory ++ name else directory ++ "/" ++ name

/-- The path of the settings where none is given: below the directory for settings if that is an
absolute path, else below the home directory, else below the directory one is in. -/
def defaultPath (configured home : Option String) : String :=
  let directory :=
    match configured.filter (·.startsWith "/") with
    | some directory => directory
    | none =>
      match home with
      | some home => joined home ".config"
      | none => "."
  joined (joined directory "gridpilot") "config.toml"

end Settings

end HomeEnergy
