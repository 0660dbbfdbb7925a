import HomeEnergy.Bus.Tcp
import HomeEnergy.Charging.Gateway
import HomeEnergy.Control.KeepAlive
import HomeEnergy.Device.Meter
import HomeEnergy.Settings.Document
import HomeEnergy.Shutdown

/-!
The server: the control loop, the signs of life to the charger and the gateway for charge points, as
the settings want them. It starts only with settings that have been checked, so that none of its
parts can find them wanting later.
-/

namespace HomeEnergy

open Bus (Line)
open Control (GridReading Home)

/-- What a server finds around it: the grid meter, how devices are reached, and the network. -/
structure Surroundings (γ τ ω : Type) where
  network : Network
  grid : Device.Source γ GridReading
  meter : γ
  line : (host : String) → (unit : UInt8) → Line τ ω
  /-- The world at the other end of each line. -/
  peer : ω

/-- Surroundings in which no device answers. -/
def Surroundings.deserted (n : Network) :
    Surroundings (Device.Meter Device.SimulatedMeter) Nat Bus.Peer where
  network := n
  grid := Device.Meter.source Device.SimulatedMeter.fetch
  meter := ⟨none, { network := n, replies := [] }⟩
  line := Bus.Peer.line
  peer := { network := n, listens := false }

structure Server (γ τ ω : Type) where
  settings : Settings
  devices : Control.Devices (Home γ τ ω)
  manager : Control.Manager (Home γ τ ω)
  keepAlive : Control.KeepAlive
  /-- The gateway, if charge points are served. -/
  gateway : Option (Charging.Gateway Charging.History)
  signal : Shutdown

namespace Server

variable {γ τ ω : Type}

inductive StartFault where
  | invalid (fault : Settings.Fault)
  | noSocketAddress
  | notListening (reason : String)
deriving DecidableEq, Repr

def StartFault.message : StartFault → String
  | .invalid fault => fault.message
  | .noSocketAddress => "invalid socket address syntax"
  | .notListening reason => reason

def lines (s : Settings) (around : Surroundings γ τ ω) : Control.Lines τ ω where
  charger := around.line s.energy.chargerHost s.devices.chargerRegisters.unitId
  heatPump := around.line s.energy.heatPumpHost s.devices.heatPumpRegisters.unitId
  solar := s.energy.solarHost?.map (around.line · s.devices.solarRegisters.unitId)
  battery := s.energy.batteryHost?.map (around.line · s.devices.batteryRegisters.unitId)

def home (s : Settings) (around : Surroundings γ τ ω) : Home γ τ ω where
  grid := around.meter
  charger := .fresh s.devices.chargerRegisters around.peer
  heatPump := .fresh s.devices.heatPumpRegisters around.peer
  solar := .fresh s.devices.solarRegisters around.peer
  battery := .fresh s.devices.batteryRegisters around.peer

/-- Milliseconds in a second. -/
def second : Nat := 1000

/-- Starts a server, in manual mode if a current is given. -/
def start (s : Settings) (manual : Option Current) (around : Surroundings γ τ ω)
    (now : Timestamp) : Except StartFault (Server γ τ ω) := do
  s.validate.mapError .invalid
  if s.metrics.enabled ∧ !Network.isSocketAddress s.metrics.listen then .error .noSocketAddress
  let keepAlive ← s.energy.keepAlive.mapError .invalid
  let loop ← s.energy.loop.mapError .invalid
  let manager := Control.Manager.fresh loop.limits (home s around) now
  let panel := (manual.bind manager.panel.setManual?).getD manager.panel
  let gateway ←
    if s.chargePoints.enabled then do
      (around.network.listen s.server.host).mapError .notListening
      pure (some (.fresh s.chargePoints.heartbeatInterval .empty))
    else pure none
  return {
    settings := s
    devices := Control.Home.devices around.grid (lines s around)
    manager := { manager with panel := panel }
    keepAlive := .start (second * keepAlive)
    gateway := gateway
    signal := .fresh }

def store (s : Server γ τ ω) : Charging.RecordStore Charging.History :=
  if s.settings.chargePoints.retainHistory then .memory else .discarding

def runCycle (s : Server γ τ ω) (now : Timestamp) : Server γ τ ω :=
  { s with manager := (s.manager.runCycle s.devices now).2 }

/-- The seconds between heartbeats, if charge points are served. -/
def heartbeatInterval? (s : Server γ τ ω) : Option UInt32 :=
  s.gateway.map (·.recorder.central.heartbeatInterval)

def isRunning (s : Server γ τ ω) : Bool := !s.signal.isTriggered

def shutDown (s : Server γ τ ω) : Server γ τ ω :=
  { s with
    keepAlive := s.keepAlive.shutDown
    gateway := s.gateway.map (·.shutDown)
    signal := s.signal.trigger }

end Server

end HomeEnergy
