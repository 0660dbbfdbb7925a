import HomeEnergy.Bus.Word
import HomeEnergy.Text.Numeral

/-!
What can be asked of a device with registers, and what can go wrong.
-/

namespace HomeEnergy.Bus

inductive Operation where
  | readInput (address count : UInt16)
  | readHolding (address count : UInt16)
  | writeSingle (address : UInt16) (value : Word)
  | writeMultiple (address : UInt16) (values : List Word)
deriving DecidableEq, Repr

namespace Operation

def name : Operation → String
  | .readInput _ _ => "read_input"
  | .readHolding _ _ => "read_holding"
  | .writeSingle _ _ => "write_single"
  | .writeMultiple _ _ => "write_multiple"

/-- The number of words in a proper reply; a write is answered without any. -/
def replyLength : Operation → Nat
  | .readInput _ count => count.toNat
  | .readHolding _ count => count.toNat
  | .writeSingle _ _ => 0
  | .writeMultiple _ _ => 0

/-- The first register written to and the words written, if the request is a write. -/
def written? : Operation → Option (UInt16 × List Word)
  | .writeSingle address value => some (address, [value])
  | .writeMultiple address values => some (address, values)
  | _ => none

end Operation

inductive Cause where
  /-- The way to the device or the device itself failed. -/
  | failure (message : String)
  /-- The reply has not the number of words that was asked for. -/
  | wrongLength (operation : Operation) (got : Nat)
  /-- The reply has too few words to be decoded. -/
  | tooShort (what : String)
deriving DecidableEq, Repr

def Cause.message : Cause → String
  | .failure message => message
  | .wrongLength operation got =>
    operation.name ++ " returned " ++ Text.natText got ++ " words while expected " ++
      Text.natText operation.replyLength
  | .tooShort what => what

/-- A device could not be asked, or its reply is of no use. -/
structure Fault where
  host : String
  cause : Cause
deriving DecidableEq, Repr

def Fault.message (f : Fault) : String := "device " ++ f.host ++ ": " ++ f.cause.message

end HomeEnergy.Bus
