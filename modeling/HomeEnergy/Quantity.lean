import HomeEnergy.Text.Numeral

/-!
Physical quantities. Each has a type of its own, so that watts are never taken for amps.
-/

namespace HomeEnergy

/-- Active power; positive power is consumption or import. -/
structure Power where
  watts : Int32
deriving DecidableEq, Inhabited, Repr

structure Voltage where
  volts : UInt32
deriving DecidableEq, Inhabited, Repr

structure Current where
  amps : UInt32
deriving DecidableEq, Inhabited, Repr

structure Energy where
  wattHours : UInt64
deriving DecidableEq, Inhabited, Repr

def Power.zero : Power := ⟨0⟩

def Current.zero : Current := ⟨0⟩

def Power.text (p : Power) : String := Text.intText p.watts.toInt ++ " W"

def Voltage.text (v : Voltage) : String := Text.natText v.volts.toNat ++ " V"

def Current.text (c : Current) : String := Text.natText c.amps.toNat ++ " A"

def Energy.text (e : Energy) : String := Text.natText e.wattHours.toNat ++ " Wh"

/-- The current nearest to `c` that is neither below `least` nor above `most`; there is none where
the bounds stand the wrong way round. -/
def Current.clamp? (c least most : Current) : Option Current :=
  if least.amps ≤ most.amps then some ⟨max least.amps (min c.amps most.amps)⟩ else none

theorem Current.clamp?_between {c least most held : Current}
    (h : c.clamp? least most = some held) :
    least.amps ≤ held.amps ∧ held.amps ≤ most.amps := by
  unfold Current.clamp? at h
  split at h
  · cases h
    unfold max min instMaxUInt32 instMinUInt32 maxOfLe minOfLe
    grind
  · cases h

end HomeEnergy
