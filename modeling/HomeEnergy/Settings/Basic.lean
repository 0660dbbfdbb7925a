import HomeEnergy.Charging.Central
import HomeEnergy.Device.Battery
import HomeEnergy.Device.Charger
import HomeEnergy.Device.HeatPump
import HomeEnergy.Device.Solar
import HomeEnergy.Settings.Section

/-!
The sections of the settings that have fixed keys: the server for charge points, logging, metrics,
the protocol of the charge points, and the devices.
-/

namespace HomeEnergy.Settings

/-! ## Server -/

/-- Where charge points connect, and how long a shutdown may take. -/
structure Server where
  host : String
  port : UInt16
  /-- Seconds. -/
  shutdownTimeout : UInt64
deriving DecidableEq, Repr

namespace Server

def default : Server := ⟨"0.0.0.0", 9000, 10⟩

def fields : Json.Fields Server :=
  Server.mk
    <$> .withDefault "ws_host" .text default.host
    <*> .withDefault "ws_port" .uint16 default.port
    <*> .withDefault "shutdown_timeout" .uint64 default.shutdownTimeout

def toJson (s : Server) : Json :=
  .ofMembers
    [("ws_host", .string s.host), ("ws_port", .ofNat s.port.toNat),
      ("shutdown_timeout", .ofNat s.shutdownTimeout.toNat)]

def address (s : Server) : String := s.host ++ ":" ++ Text.natText s.port.toNat

end Server

/-! ## Logging and metrics -/

/-- What is logged, and how. -/
structure Logging where
  level : String
  format : String
deriving DecidableEq, Repr

namespace Logging

def default : Logging := ⟨"info", "text"⟩

def fields : Json.Fields Logging :=
  Logging.mk
    <$> .withDefault "level" .text default.level
    <*> .withDefault "format" .text default.format

def toJson (l : Logging) : Json :=
  .ofMembers [("level", .string l.level), ("format", .string l.format)]

end Logging

/-- Whether metrics are offered, and where. -/
structure Metrics where
  enabled : Bool
  listen : String
deriving DecidableEq, Repr

namespace Metrics

def default : Metrics := ⟨false, "0.0.0.0:9100"⟩

def fields : Json.Fields Metrics :=
  Metrics.mk
    <$> .withDefault "enabled" boolean default.enabled
    <*> .withDefault "listen" .text default.listen

def toJson (m : Metrics) : Json :=
  .ofMembers [("enabled", .bool m.enabled), ("listen", .string m.listen)]

end Metrics

/-! ## Charge points -/

/-- Whether charge points are served, how often they report, and whether history is kept. -/
structure ChargePoints where
  enabled : Bool
  /-- Seconds. -/
  heartbeatInterval : UInt32
  retainHistory : Bool
deriving DecidableEq, Repr

namespace ChargePoints

def default : ChargePoints := ⟨true, Charging.Central.defaultHeartbeatInterval, false⟩

def fields : Json.Fields ChargePoints :=
  ChargePoints.mk
    <$> .withDefault "enabled" boolean default.enabled
    <*> .withDefault "heartbeat_interval" .uint32 default.heartbeatInterval
    <*> .withDefault "retain_history" boolean default.retainHistory

def toJson (c : ChargePoints) : Json :=
  .ofMembers
    [("enabled", .bool c.enabled), ("heartbeat_interval", .ofNat c.heartbeatInterval.toNat),
      ("retain_history", .bool c.retainHistory)]

end ChargePoints

/-! ## Devices -/

inductive GridMeterKind where
  | p1
deriving DecidableEq, Repr

inductive ChargerKind where
  | webasto
deriving DecidableEq, Repr

inductive HeatPumpKind where
  | daikin
deriving DecidableEq, Repr

/-- The solar inverters and batteries there are. -/
inductive InverterKind where
  | sma
deriving DecidableEq, Repr

def GridMeterKind.names : List (String × GridMeterKind) := [("p1", .p1)]

def ChargerKind.names : List (String × ChargerKind) := [("webasto", .webasto)]

def HeatPumpKind.names : List (String × HeatPumpKind) := [("daikin", .daikin)]

def InverterKind.names : List (String × InverterKind) := [("sma", .sma)]

/-- The kinds of the devices, how they are reached, and their registers. -/
structure Devices where
  grid : GridMeterKind
  charger : ChargerKind
  heatPump : HeatPumpKind
  solar : InverterKind
  battery : InverterKind
  port : UInt16
  /-- Seconds. -/
  connectTimeout : UInt64
  /-- Seconds. -/
  requestTimeout : UInt64
  chargerRegisters : Device.ChargerRegisters
  heatPumpRegisters : Device.HeatPumpRegisters
  solarRegisters : Device.SolarRegisters
  batteryRegisters : Device.BatteryRegisters
deriving DecidableEq, Repr

namespace Devices

open Device

def default : Devices :=
  ⟨.p1, .webasto, .daikin, .sma, .sma, 502, 5, 5, .default, .default, .default, .default⟩

def fields : Json.Fields Devices :=
  Devices.mk
    <$> .withDefault "grid" (choice GridMeterKind.names) default.grid
    <*> .withDefault "charger" (choice ChargerKind.names) default.charger
    <*> .withDefault "heat_pump" (choice HeatPumpKind.names) default.heatPump
    <*> .withDefault "solar" (choice InverterKind.names) default.solar
    <*> .withDefault "battery" (choice InverterKind.names) default.battery
    <*> .withDefault "modbus_port" .uint16 default.port
    <*> .withDefault "connect_timeout" .uint64 default.connectTimeout
    <*> .withDefault "io_timeout" .uint64 default.requestTimeout
    <*> .withDefault "webasto" (sectionOf "webasto" ChargerRegisters.fields)
      default.chargerRegisters
    <*> .withDefault "daikin" (sectionOf "daikin" HeatPumpRegisters.fields)
      default.heatPumpRegisters
    <*> .withDefault "sma_solar" (sectionOf "sma_solar" SolarRegisters.fields)
      default.solarRegisters
    <*> .withDefault "sma_battery" (sectionOf "sma_battery" BatteryRegisters.fields)
      default.batteryRegisters

def toJson (d : Devices) : Json :=
  let nameOf {α : Type} [DecidableEq α] (names : List (String × α)) (a : α) : Json :=
    .string ((names.find? fun e => e.2 = a).map Prod.fst |>.getD "")
  .ofMembers
    [("grid", nameOf GridMeterKind.names d.grid),
      ("charger", nameOf ChargerKind.names d.charger),
      ("heat_pump", nameOf HeatPumpKind.names d.heatPump),
      ("solar", nameOf InverterKind.names d.solar),
      ("battery", nameOf InverterKind.names d.battery),
      ("modbus_port", .ofNat d.port.toNat),
      ("connect_timeout", .ofNat d.connectTimeout.toNat),
      ("io_timeout", .ofNat d.requestTimeout.toNat),
      ("webasto", d.chargerRegisters.toJson),
      ("daikin", d.heatPumpRegisters.toJson),
      ("sma_solar", d.solarRegisters.toJson),
      ("sma_battery", d.batteryRegisters.toJson)]

end Devices

end HomeEnergy.Settings
