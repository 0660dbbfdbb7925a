import HomeEnergy.Settings.Document

/-!
The command line: options in long and short form, a value either after an equals sign or as the next
argument. Nothing may be given twice, and an argument that begins with a dash is never taken for a
value.
-/

namespace HomeEnergy.CommandLine

structure Arguments where
  config : Option String := none
  port : Option UInt16 := none
  logLevel : Option String := none
  check : Bool := false
  manual : Option UInt32 := none
deriving DecidableEq, Repr

inductive Request where
  | run (arguments : Arguments)
  | help
  | version
deriving DecidableEq, Repr

inductive ValueOption where
  | config
  | port
  | logLevel
  | manual
deriving DecidableEq, Repr

namespace ValueOption

def ofLong? : String → Option ValueOption
  | "config" => some .config
  | "ws-port" => some .port
  | "log-level" => some .logLevel
  | "manual" => some .manual
  | _ => none

def ofShort? : Char → Option ValueOption
  | 'c' => some .config
  | 'l' => some .logLevel
  | _ => none

/-- A number with or without a sign that is at least zero and below a bound. -/
def number? (bound : Nat) (s : String) : Option Nat := do
  let n : Int ← match s.toList with
    | '-' :: ds => (Text.natOfDigits? ds).map fun n => -(n : Int)
    | '+' :: ds => (Text.natOfDigits? ds).map Int.ofNat
    | ds => (Text.natOfDigits? ds).map Int.ofNat
  if 0 ≤ n ∧ n < bound then some n.toNat else none

/-- Sets an option; none if it is set already or the value does not fit. -/
def set (o : ValueOption) (value : String) (a : Arguments) : Option Arguments :=
  match o with
  | .config =>
    if a.config.isSome ∨ value.isEmpty then none else some { a with config := some value }
  | .port =>
    if a.port.isSome then none
    else (number? UInt16.size value).map fun n => { a with port := some (UInt16.ofNat n) }
  | .logLevel => if a.logLevel.isSome then none else some { a with logLevel := some value }
  | .manual =>
    if a.manual.isSome then none
    else (number? UInt32.size value).map fun n => { a with manual := some (UInt32.ofNat n) }

end ValueOption

/-- One argument on its own. -/
inductive Word where
  /-- An option that takes a value, with the value if it is part of the argument. -/
  | option (o : ValueOption) (value : Option String)
  | check
  | help
  | version
  /-- The mark behind which there are no more options. -/
  | endOfOptions
  | unknown
deriving DecidableEq, Repr

def longWord (cs : List Char) : Word :=
  let name := String.ofList (cs.takeWhile (· != '='))
  match cs.dropWhile (· != '=') with
  | [] =>
    match ValueOption.ofLong? name with
    | some o => .option o none
    | none =>
      match name with
      | "" => .endOfOptions
      | "check" => .check
      | "help" => .help
      | "version" => .version
      | _ => .unknown
  | _ :: value =>
    match ValueOption.ofLong? name with
    | some o => .option o (some (String.ofList value))
    | none => .unknown

def shortWord (c : Char) (rest : List Char) : Word :=
  match ValueOption.ofShort? c, rest with
  | some o, [] => .option o none
  | some o, '=' :: value => .option o (some (String.ofList value))
  | some o, value => .option o (some (String.ofList value))
  | none, _ => if c = 'h' then .help else if c = 'V' then .version else .unknown

def wordOf (argument : String) : Word :=
  match argument.toList with
  | '-' :: '-' :: cs => longWord cs
  | '-' :: c :: rest => shortWord c rest
  | _ => .unknown

/-- Whether an argument can be the value of the option before it. -/
def isValue (argument : String) : Bool := !argument.startsWith "-" || argument == "-"

/-- Reads the arguments after those already read; none if they are not as they should be. -/
def read (a : Arguments) : List String → Option Request
  | [] => some (.run a)
  | argument :: rest =>
    match wordOf argument with
    | .option o (some value) => do read (← o.set value a) rest
    | .option o none =>
      match rest with
      | [] => none
      | value :: rest => if isValue value then do read (← o.set value a) rest else none
    | .check => if a.check then none else read { a with check := true } rest
    | .help => some .help
    | .version => some .version
    | .endOfOptions => if rest.isEmpty then some (.run a) else none
    | .unknown => none

def parse (arguments : List String) : Option Request := read {} arguments

namespace Arguments

/-- The settings with what the arguments say otherwise. -/
def apply (a : Arguments) (s : Settings) : Settings :=
  { s with
    logging.level := a.logLevel.getD s.logging.level
    server.port := a.port.getD s.server.port }

def settings (a : Arguments) (path : String) (file : Settings.File) :
    Except Settings.LoadFault Settings :=
  (Settings.load path file).map a.apply

end Arguments

def report (path : String) (s : Settings) : Except Settings.Fault (List String) := do
  let loop ← s.energy.loop
  return [
    "✅ Configuration is valid",
    "   Config file : " ++ path,
    "   WS address  : " ++ s.server.address,
    "   Grid meter  : " ++ s.energy.gridMeterHost,
    "   Charger     : " ++ s.energy.chargerHost,
    "   Heat pump   : " ++ s.energy.heatPumpHost,
    "   Current     : " ++ loop.limits.least.text ++ " .. " ++ loop.limits.most.text,
    "   Interval    : " ++ Text.natText loop.interval ++ "s",
    "   Log level   : " ++ s.logging.level]

/-- How a run of the program ends or goes on. -/
inductive Outcome (α : Type) where
  | badArguments
  /-- Something was printed, and there is nothing else to do. -/
  | printed (lines : List String)
  | failed (reason : String)
  | started (server : α)

/-- The exit code; a server that has started is expected to stop in good order. -/
def Outcome.exitCode {α : Type} : Outcome α → Nat
  | .badArguments => 2
  | .failed _ => 1
  | _ => 0

def Outcome.lines {α : Type} : Outcome α → List String
  | .printed lines => lines
  | _ => []

def Outcome.hasStarted {α : Type} : Outcome α → Bool
  | .started _ => true
  | _ => false

/-- Does what the arguments ask for; `start` starts a server in manual mode at a current, or in
automatic mode. -/
def perform {α : Type} (a : Arguments) (path : String) (file : Settings.File)
    (start : Settings → Option Current → Except String α) : Outcome α :=
  match a.settings path file with
  | .error fault => .failed fault.message
  | .ok s =>
    if a.check then
      match report path s with
      | .ok lines => .printed lines
      | .error fault => .failed fault.message
    else
      match start s (a.manual.map Current.mk) with
      | .ok server => .started server
      | .error reason => .failed reason

end HomeEnergy.CommandLine
