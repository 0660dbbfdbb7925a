import HomeEnergy.Control.Mode
import HomeEnergy.Settings.Section
import HomeEnergy.Table
import HomeEnergy.Text.Blank

/-!
The section on energy management: an open map from keys to TOML values, of which some keys have a
meaning. A value counts as the text it is written as, so a number may stand in quotes; hosts have an
older name besides the one they have now.
-/

namespace HomeEnergy.Settings

inductive Fault where
  | notANumber (key given : String)
  | reversedLimits (least most : Nat)
  | currentOutOfRange (amps : Nat)
  | noSeconds (key : String)
  | noHeartbeat
deriving DecidableEq, Repr

def Fault.message (f : Fault) : String :=
  "invalid configuration: " ++ match f with
    | .notANumber key given =>
      "energy_manager." ++ key ++ " is not a number: " ++ Text.quoted given
    | .reversedLimits least most =>
      "energy_manager.mincurrent (" ++ Text.natText least ++ ") exceeds maxcurrent (" ++
        Text.natText most ++ ")"
    | .currentOutOfRange amps => "current " ++ Text.natText amps ++ " out of range"
    | .noSeconds key => "energy_manager." ++ key ++ " must be at least 1 second"
    | .noHeartbeat => "ocpp.heartbeat_interval must be positive, got 0"

theorem bind_eq_ok {ε α β : Type} {x : Except ε α} {f : α → Except ε β} {b : β}
    (h : x >>= f = .ok b) : ∃ a, x = .ok a ∧ f a = .ok b := by
  cases x with
  | error fault => cases h
  | ok a => exact ⟨a, rfl, h⟩

/-- The section as it was given. -/
structure Energy where
  entries : Table String Toml.Value
deriving Inhabited

structure Loop where
  limits : Control.CurrentLimits
  /-- Seconds. -/
  interval : Nat
deriving DecidableEq, Repr

namespace Energy

def empty : Energy := ⟨.empty⟩

/-- The section with the given texts; of two with one key the later counts. -/
def ofTexts (pairs : List (String × String)) : Energy :=
  ⟨.ofList (pairs.map fun (key, s) => (key, .string s))⟩

/-- A value as a text: a string without white space around it, or what is written for the value. -/
def textOf : Toml.Value → String
  | .string s => Text.trimmed s
  | v => v.text

/-- The text under the first of the keys that is there. -/
def text? (e : Energy) (keys : List String) : Option String :=
  (keys.findSome? e.entries.get?).map textOf

/-! ## Hosts -/

/-- The host that stands for a device that is not there: nothing listens on it. -/
def unreachableHost : String := "0.0.0.0"

def host? (e : Energy) (keys : List String) : Option String :=
  match e.text? keys with
  | some h => if h.isEmpty then none else some h
  | none => none

def host (e : Energy) (keys : List String) : String := (e.host? keys).getD unreachableHost

def gridMeterHost (e : Energy) : String := e.host ["gridmeter", "P1meter"]

def chargerHost (e : Energy) : String := e.host ["charger", "webasto"]

def heatPumpHost (e : Energy) : String := e.host ["heatpump", "daikinHomeHub"]

/-- The host of the solar inverter; without one there is no inverter. -/
def solarHost? (e : Energy) : Option String := e.host? ["solar"]

def batteryHost? (e : Energy) : Option String := e.host? ["battery"]

/-! ## Numbers -/

def largestNumber : Nat := UInt64.size - 1

def number (e : Energy) (key : String) (absent : Nat) : Except Fault Nat :=
  match e.text? [key] with
  | none => .ok absent
  | some given =>
    match Text.boundedNat? largestNumber given.toList with
    | some n => .ok n
    | none => .error (.notANumber key given)

def currentOf (amps : Nat) : Except Fault Current :=
  if amps < UInt32.size then .ok ⟨UInt32.ofNat amps⟩ else .error (.currentOutOfRange amps)

def limits (e : Energy) : Except Fault Control.CurrentLimits := do
  let most ← e.number "maxcurrent" 32
  let least ← e.number "mincurrent" 6
  if most < least then .error (.reversedLimits least most)
  else
    let least ← currentOf least
    let most ← currentOf most
    return ⟨least, most⟩

theorem currentOf_eq_ok {amps : Nat} {c : Current} (h : currentOf amps = .ok c) :
    c.amps.toNat = amps := by
  unfold currentOf at h
  split at h
  · next hlt =>
    cases h
    exact UInt32.toNat_ofNat_of_lt' hlt
  · cases h

/-- Limits are only given with the least current not above the most. -/
theorem limits_ordered {e : Energy} {l : Control.CurrentLimits} (h : e.limits = .ok l) :
    l.Ordered := by
  obtain ⟨most, -, h⟩ := bind_eq_ok h
  obtain ⟨least, -, h⟩ := bind_eq_ok h
  split at h
  · cases h
  · next hordered =>
    obtain ⟨leastCurrent, hleast, h⟩ := bind_eq_ok h
    obtain ⟨mostCurrent, hmost, h⟩ := bind_eq_ok h
    cases h
    show leastCurrent.amps.toNat ≤ mostCurrent.amps.toNat
    rw [currentOf_eq_ok hleast, currentOf_eq_ok hmost]
    omega

/-- A number of seconds that is not zero. -/
def seconds (e : Energy) (key : String) (absent : Nat) : Except Fault Nat := do
  let n ← e.number key absent
  if n = 0 then .error (.noSeconds key) else return n

/-- The seconds between two control cycles. -/
def interval (e : Energy) : Except Fault Nat := e.seconds "interval" 5

/-- The seconds between two signs of life to the charger. -/
def keepAlive (e : Energy) : Except Fault Nat := e.seconds "keepalive" 10

def loop (e : Energy) : Except Fault Loop := do
  let limits ← e.limits
  let interval ← e.interval
  return ⟨limits, interval⟩

end Energy

end HomeEnergy.Settings
