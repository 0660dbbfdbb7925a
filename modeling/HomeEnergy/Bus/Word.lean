/-!
Numbers in registers. A register holds a word of 16 bits, and a wider number fills several
registers with its highest bits first.
-/

namespace HomeEnergy.Bus

/-- The contents of one register. -/
abbrev Word := UInt16

/-- The signed number in the first word. -/
def int16OfWords? : List Word → Option Int16
  | w :: _ => some w.toInt16
  | [] => none

/-- The unsigned number in the first two words. -/
def uint32OfWords? : List Word → Option UInt32
  | high :: low :: _ => some (high.toUInt32 <<< 16 ||| low.toUInt32)
  | _ => none

def int32OfWords? (words : List Word) : Option Int32 := (uint32OfWords? words).map (·.toInt32)

def uint64OfWords? : List Word → Option UInt64
  | a :: b :: c :: d :: _ =>
    some (a.toUInt64 <<< 48 ||| b.toUInt64 <<< 32 ||| c.toUInt64 <<< 16 ||| d.toUInt64)
  | _ => none

def wordsOfUInt32 (n : UInt32) : List Word := [(n >>> 16).toUInt16, n.toUInt16]

def wordsOfInt32 (n : Int32) : List Word := wordsOfUInt32 n.toUInt32

end HomeEnergy.Bus
