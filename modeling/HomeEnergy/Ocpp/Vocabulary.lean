/-!
The words of OCPP 1.6: the enumerations that its messages use, each with the names that stand for
its values on the wire, in the order of the standard's schemas.
-/

namespace HomeEnergy.Ocpp

inductive ConnectorStatus where
  | available
  | preparing
  | charging
  | suspendedByStation
  | suspendedByVehicle
  | finishing
  | reserved
  | unavailable
  | faulted
deriving DecidableEq, Repr

namespace ConnectorStatus

def name : ConnectorStatus → String
  | .available => "Available"
  | .preparing => "Preparing"
  | .charging => "Charging"
  | .suspendedByStation => "SuspendedEVSE"
  | .suspendedByVehicle => "SuspendedEV"
  | .finishing => "Finishing"
  | .reserved => "Reserved"
  | .unavailable => "Unavailable"
  | .faulted => "Faulted"

def all : List ConnectorStatus :=
  [.available, .preparing, .charging, .suspendedByStation, .suspendedByVehicle, .finishing,
    .reserved, .unavailable, .faulted]

def names : List (String × ConnectorStatus) := all.map fun a => (a.name, a)

end ConnectorStatus

/-- What is wrong with a connector. -/
inductive ErrorCode where
  | connectorLockFailure
  | evCommunicationError
  | groundFailure
  | highTemperature
  | internalError
  | localListConflict
  | noError
  | otherError
  | overCurrentFailure
  | overVoltage
  | powerMeterFailure
  | powerSwitchFailure
  | readerFailure
  | resetFailure
  | underVoltage
  | weakSignal
deriving DecidableEq, Repr

namespace ErrorCode

def name : ErrorCode → String
  | .connectorLockFailure => "ConnectorLockFailure"
  | .evCommunicationError => "EVCommunicationError"
  | .groundFailure => "GroundFailure"
  | .highTemperature => "HighTemperature"
  | .internalError => "InternalError"
  | .localListConflict => "LocalListConflict"
  | .noError => "NoError"
  | .otherError => "OtherError"
  | .overCurrentFailure => "OverCurrentFailure"
  | .overVoltage => "OverVoltage"
  | .powerMeterFailure => "PowerMeterFailure"
  | .powerSwitchFailure => "PowerSwitchFailure"
  | .readerFailure => "ReaderFailure"
  | .resetFailure => "ResetFailure"
  | .underVoltage => "UnderVoltage"
  | .weakSignal => "WeakSignal"

def all : List ErrorCode :=
  [.connectorLockFailure, .evCommunicationError, .groundFailure, .highTemperature,
    .internalError, .localListConflict, .noError, .otherError, .overCurrentFailure, .overVoltage,
    .powerMeterFailure, .powerSwitchFailure, .readerFailure, .resetFailure, .underVoltage,
    .weakSignal]

def names : List (String × ErrorCode) := all.map fun a => (a.name, a)

end ErrorCode

inductive StopReason where
  | deAuthorized
  | emergencyStop
  | evDisconnected
  | hardReset
  | local
  | other
  | powerLoss
  | reboot
  | remote
  | softReset
  | unlockCommand
deriving DecidableEq, Repr

namespace StopReason

def name : StopReason → String
  | .deAuthorized => "DeAuthorized"
  | .emergencyStop => "EmergencyStop"
  | .evDisconnected => "EVDisconnected"
  | .hardReset => "HardReset"
  | .local => "Local"
  | .other => "Other"
  | .powerLoss => "PowerLoss"
  | .reboot => "Reboot"
  | .remote => "Remote"
  | .softReset => "SoftReset"
  | .unlockCommand => "UnlockCommand"

def all : List StopReason :=
  [.deAuthorized, .emergencyStop, .evDisconnected, .hardReset, .local, .other, .powerLoss,
    .reboot, .remote, .softReset, .unlockCommand]

def names : List (String × StopReason) := all.map fun a => (a.name, a)

end StopReason

/-- What a sampled value measures. -/
inductive Measurand where
  | currentExport
  | currentImport
  | currentOffered
  | energyActiveExportRegister
  | energyActiveImportRegister
  | energyReactiveExportRegister
  | energyReactiveImportRegister
  | energyActiveExportInterval
  | energyActiveImportInterval
  | energyReactiveExportInterval
  | energyReactiveImportInterval
  | frequency
  | powerActiveExport
  | powerActiveImport
  | powerFactor
  | powerOffered
  | powerReactiveExport
  | powerReactiveImport
  | rpm
  | stateOfCharge
  | temperature
  | voltage
deriving DecidableEq, Repr

namespace Measurand

def name : Measurand → String
  | .currentExport => "Current.Export"
  | .currentImport => "Current.Import"
  | .currentOffered => "Current.Offered"
  | .energyActiveExportRegister => "Energy.Active.Export.Register"
  | .energyActiveImportRegister => "Energy.Active.Import.Register"
  | .energyReactiveExportRegister => "Energy.Reactive.Export.Register"
  | .energyReactiveImportRegister => "Energy.Reactive.Import.Register"
  | .energyActiveExportInterval => "Energy.Active.Export.Interval"
  | .energyActiveImportInterval => "Energy.Active.Import.Interval"
  | .energyReactiveExportInterval => "Energy.Reactive.Export.Interval"
  | .energyReactiveImportInterval => "Energy.Reactive.Import.Interval"
  | .frequency => "Frequency"
  | .powerActiveExport => "Power.Active.Export"
  | .powerActiveImport => "Power.Active.Import"
  | .powerFactor => "Power.Factor"
  | .powerOffered => "Power.Offered"
  | .powerReactiveExport => "Power.Reactive.Export"
  | .powerReactiveImport => "Power.Reactive.Import"
  | .rpm => "RPM"
  | .stateOfCharge => "SoC"
  | .temperature => "Temperature"
  | .voltage => "Voltage"

def all : List Measurand :=
  [.currentExport, .currentImport, .currentOffered, .energyActiveExportRegister,
    .energyActiveImportRegister, .energyReactiveExportRegister, .energyReactiveImportRegister,
    .energyActiveExportInterval, .energyActiveImportInterval, .energyReactiveExportInterval,
    .energyReactiveImportInterval, .frequency, .powerActiveExport, .powerActiveImport,
    .powerFactor, .powerOffered, .powerReactiveExport, .powerReactiveImport, .rpm,
    .stateOfCharge, .temperature, .voltage]

def names : List (String × Measurand) := all.map fun a => (a.name, a)

end Measurand

/-- On what occasion a value was sampled. -/
inductive ReadingContext where
  | interruptionBegin
  | interruptionEnd
  | other
  | sampleClock
  | samplePeriodic
  | transactionBegin
  | transactionEnd
  | trigger
deriving DecidableEq, Repr

namespace ReadingContext

def name : ReadingContext → String
  | .interruptionBegin => "Interruption.Begin"
  | .interruptionEnd => "Interruption.End"
  | .other => "Other"
  | .sampleClock => "Sample.Clock"
  | .samplePeriodic => "Sample.Periodic"
  | .transactionBegin => "Transaction.Begin"
  | .transactionEnd => "Transaction.End"
  | .trigger => "Trigger"

def all : List ReadingContext :=
  [.interruptionBegin, .interruptionEnd, .other, .sampleClock, .samplePeriodic,
    .transactionBegin, .transactionEnd, .trigger]

def names : List (String × ReadingContext) := all.map fun a => (a.name, a)

end ReadingContext

inductive Phase where
  | l1
  | l2
  | l3
  | n
  | l1N
  | l2N
  | l3N
  | l1L2
  | l2L3
  | l3L1
deriving DecidableEq, Repr

namespace Phase

def name : Phase → String
  | .l1 => "L1"
  | .l2 => "L2"
  | .l3 => "L3"
  | .n => "N"
  | .l1N => "L1-N"
  | .l2N => "L2-N"
  | .l3N => "L3-N"
  | .l1L2 => "L1-L2"
  | .l2L3 => "L2-L3"
  | .l3L1 => "L3-L1"

def all : List Phase :=
  [.l1, .l2, .l3, .n, .l1N, .l2N, .l3N, .l1L2, .l2L3, .l3L1]

def names : List (String × Phase) := all.map fun a => (a.name, a)

end Phase

/-- The place that a value was sampled at. -/
inductive Location where
  | body
  | cable
  | ev
  | inlet
  | outlet
deriving DecidableEq, Repr

namespace Location

def name : Location → String
  | .body => "Body"
  | .cable => "Cable"
  | .ev => "EV"
  | .inlet => "Inlet"
  | .outlet => "Outlet"

def all : List Location :=
  [.body, .cable, .ev, .inlet, .outlet]

def names : List (String × Location) := all.map fun a => (a.name, a)

end Location

/-- How a sampled value is written. -/
inductive ValueFormat where
  | raw
  | signedData
deriving DecidableEq, Repr

namespace ValueFormat

def name : ValueFormat → String
  | .raw => "Raw"
  | .signedData => "SignedData"

def all : List ValueFormat :=
  [.raw, .signedData]

def names : List (String × ValueFormat) := all.map fun a => (a.name, a)

end ValueFormat

/-- The unit of a sampled value. -/
inductive Measure where
  | wattHour
  | kilowattHour
  | varHour
  | kilovarHour
  | watt
  | kilowatt
  | voltAmpere
  | kilovoltAmpere
  | var
  | kilovar
  | ampere
  | volt
  | celsius
  | fahrenheit
  | kelvin
  | percent
deriving DecidableEq, Repr

namespace Measure

def name : Measure → String
  | .wattHour => "Wh"
  | .kilowattHour => "kWh"
  | .varHour => "varh"
  | .kilovarHour => "kvarh"
  | .watt => "W"
  | .kilowatt => "kW"
  | .voltAmpere => "VA"
  | .kilovoltAmpere => "kVA"
  | .var => "var"
  | .kilovar => "kvar"
  | .ampere => "A"
  | .volt => "V"
  | .celsius => "Celsius"
  | .fahrenheit => "Fahrenheit"
  | .kelvin => "K"
  | .percent => "Percent"

def all : List Measure :=
  [.wattHour, .kilowattHour, .varHour, .kilovarHour, .watt, .kilowatt, .voltAmpere,
    .kilovoltAmpere, .var, .kilovar, .ampere, .volt, .celsius, .fahrenheit, .kelvin, .percent]

/-- The names that are understood. The standard once misspelt Celsius; both spellings are in use. -/
def names : List (String × Measure) :=
  all.flatMap fun u =>
    if u = .celsius then [("Celcius", u), (u.name, u)] else [(u.name, u)]

end Measure

end HomeEnergy.Ocpp
