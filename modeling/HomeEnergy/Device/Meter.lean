import HomeEnergy.Device.GridMeter
import HomeEnergy.Device.Report
import HomeEnergy.Network

/-!
The grid meter that is asked over HTTP. A meter is often away for a while, so an update never fails;
where the meter gave no usable answer its reading is gone until the next update.
-/

namespace HomeEnergy.Device

open Control (GridReading)

/-! ## Requests -/

inductive MeterReply where
  | failed (reason : String)
  | answered (status : Nat) (body : String)
deriving DecidableEq, Repr

/-- The status of a reply that has no body, whatever follows it. -/
def noContent : Nat := 204

def MeterReply.reading : MeterReply → Except MeterFault GridReading
  | .failed reason => .error (.transport reason)
  | .answered status body =>
    if 200 ≤ status ∧ status < 300 then
      match Report.read? (if status = noContent then "" else body) with
      | some r => .ok r
      | none => .error (.undecodable "no values")
    else .error (.status status)

/-- A meter: its reading and the world at the other end. -/
structure Meter (ω : Type) where
  reading : Option GridReading
  world : ω

def Meter.source {ω : Type} (fetch : ω → MeterReply × ω) : Source (Meter ω) GridReading where
  update m :=
    let (reply, w) := fetch m.world
    (.ok (), ⟨reply.reading.toOption, w⟩)
  reading := Meter.reading

/-! ## Simulated meters -/

/-- A simulated meter on a network, the replies it has left, and the last request it got. -/
structure SimulatedMeter where
  network : Network
  replies : List MeterReply
  request : String := ""

def requestLine : String := "GET /api/v1/data HTTP/1.1"

/-- Takes the next reply; a meter without replies is gone. -/
def SimulatedMeter.fetch (m : SimulatedMeter) : MeterReply × SimulatedMeter :=
  match m.network, m.replies with
  | .down reason, _ => (.failed reason, m)
  | .up, [] => (.failed "connection refused", m)
  | .up, reply :: rest => (reply, { m with replies := rest, request := requestLine })

end HomeEnergy.Device
