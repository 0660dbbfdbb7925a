import HomeEnergy.Control.Snapshot
import HomeEnergy.Device.Adapter

/-!
The grid meter, and a simulated one that can be told what to report.
-/

namespace HomeEnergy.Device

open Control (GridReading)

inductive MeterFault where
  | transport (reason : String)
  | status (code : Nat)
  | undecodable (reason : String)
deriving DecidableEq, Repr

def MeterFault.message : MeterFault → String
  | .transport reason => "meter request failed: " ++ reason
  | .status code => "meter answered HTTP " ++ Text.natText code
  | .undecodable reason => "meter response malformed: " ++ reason

structure SimulatedGrid where
  reading : Option GridReading := none
  fails : Bool := false
deriving DecidableEq

def SimulatedGrid.source : Source SimulatedGrid GridReading where
  update g :=
    (if g.fails then .error ⟨"grid", .failure "meter does not answer"⟩ else .ok (), g)
  reading := SimulatedGrid.reading

end HomeEnergy.Device
