import HomeEnergy.Bus.Client
import HomeEnergy.Table

/-!
A simulated device: a bank of registers that answers every request properly, except where it has
been told to refuse connections, to fail, or to give a reply of the wrong length. A register that
was never written holds zero, and addresses count on from the last register to the first.
-/

namespace HomeEnergy.Bus

/-- How often a device misbehaves from now on, in each way that it can. -/
structure Misbehaviour where
  refuse : Nat := 0
  fail : Nat := 0
  short : Nat := 0
  long : Nat := 0
  noisy : Nat := 0
deriving DecidableEq

structure Simulated where
  registers : Table UInt16 Word := .empty
  misbehaviour : Misbehaviour := {}
  reachable : Bool := true
  connects : Nat := 0
  calls : Nat := 0
  /-- The writes that were carried out, the last one first. -/
  writes : List Operation := []

namespace Simulated

def register (d : Simulated) (address : UInt16) : Word := (d.registers.get? address).getD 0

/-- Words put into registers, one after another. -/
def store (registers : Table UInt16 Word) : (address : UInt16) → List Word → Table UInt16 Word
  | _, [] => registers
  | address, w :: rest => store (registers.put address w) (address + 1) rest

def load (d : Simulated) : (address : UInt16) → (count : Nat) → List Word
  | _, 0 => []
  | address, count + 1 => d.register address :: d.load (address + 1) count

def connect (host : String) (d : Simulated) : Except Fault Unit × Simulated :=
  let refuses := 0 < d.misbehaviour.refuse
  let d := { d with misbehaviour.refuse := d.misbehaviour.refuse - 1 }
  if refuses ∨ !d.reachable then (.error ⟨host, .failure "connection refused"⟩, d)
  else (.ok (), { d with connects := d.connects + 1 })

def read (d : Simulated) (address count : UInt16) : List Word × Simulated :=
  let m := d.misbehaviour
  if 0 < m.short then
    (d.load address (count.toNat - 1), { d with misbehaviour.short := m.short - 1 })
  else if 0 < m.long then
    (d.load address (count.toNat + 1), { d with misbehaviour.long := m.long - 1 })
  else (d.load address count.toNat, d)

def write (d : Simulated) (op : Operation) (address : UInt16) (values : List Word) :
    List Word × Simulated :=
  let noisy := d.misbehaviour.noisy
  let d := { d with
    registers := store d.registers address values
    writes := op :: d.writes
    misbehaviour.noisy := noisy - 1 }
  (if 0 < noisy then [0] else [], d)

def call (host : String) (op : Operation) (d : Simulated) :
    Except Fault (List Word) × Simulated :=
  let fails := 0 < d.misbehaviour.fail
  let calls := d.calls + 1
  let d := { d with calls := calls, misbehaviour.fail := d.misbehaviour.fail - 1 }
  if fails ∨ !d.reachable then
    (.error ⟨host, .failure ("scripted failure #" ++ Text.natText calls)⟩, d)
  else
    let (words, d) := match op with
      | .readInput address count => d.read address count
      | .readHolding address count => d.read address count
      | .writeSingle address value => d.write op address [value]
      | .writeMultiple address values => d.write op address values
    (.ok words, d)

def line (host : String) : Line Unit Simulated where
  host := host
  connect := connect host
  call _ op d := call host op d

end Simulated

end HomeEnergy.Bus
