import HomeEnergy.Bus.Client
import HomeEnergy.Network

/-!
Registers over TCP: the requests as bytes, the exceptions a device can answer with, and a peer at
the other end that takes its replies from a list.
-/

namespace HomeEnergy.Bus

/-- The two bytes of a word, the higher one first. -/
def bytesOfWord (w : Word) : List UInt8 := [(w >>> 8).toUInt8, w.toUInt8]

/-- A request in bytes: the function, the address, and what the function needs. -/
def Operation.bytes : Operation → List UInt8
  | .readInput address count => 4 :: bytesOfWord address ++ bytesOfWord count
  | .readHolding address count => 3 :: bytesOfWord address ++ bytesOfWord count
  | .writeSingle address value => 6 :: bytesOfWord address ++ bytesOfWord value
  | .writeMultiple address values =>
    16 :: bytesOfWord address ++ bytesOfWord (UInt16.ofNat values.length) ++
      UInt8.ofNat (2 * values.length) :: values.flatMap bytesOfWord

def exceptionName (code : Nat) : String :=
  match code with
  | 1 => "IllegalFunction"
  | 2 => "IllegalDataAddress"
  | 3 => "IllegalDataValue"
  | 4 => "ServerDeviceFailure"
  | 5 => "Acknowledge"
  | 6 => "ServerDeviceBusy"
  | 8 => "MemoryParityError"
  | 10 => "GatewayPathUnavailable"
  | 11 => "GatewayTargetDevice"
  | n => "Custom(" ++ Text.natText n ++ ")"

inductive PeerReply where
  | words (ws : List Word)
  | exception (code : Nat)
  /-- It confirms a write. -/
  | confirmation
  | silence
  | hangUp
deriving DecidableEq, Repr

structure PeerRequest where
  connection : Nat
  unit : UInt8
  operation : Operation
deriving DecidableEq, Repr

/-- A peer on a network. -/
structure Peer where
  network : Network
  /-- Whether anything listens at the peer's port. -/
  listens : Bool := true
  replies : List PeerReply := []
  /-- The connections accepted so far. -/
  connections : Nat := 0
  /-- The requests got so far, the last one first. -/
  requests : List PeerRequest := []

namespace Peer

def connect (host : String) (p : Peer) : Except Fault Nat × Peer :=
  let refused (reason : String) : Except Fault Nat :=
    .error ⟨host, .failure ("failed to connect: " ++ reason)⟩
  match p.network with
  | .down reason => (refused reason, p)
  | .up =>
    if p.listens then (.ok (p.connections + 1), { p with connections := p.connections + 1 })
    else (refused "Connection refused (os error 111)", p)

def call (host : String) (unit : UInt8) (connection : Nat) (op : Operation) (p : Peer) :
    Except Fault (List Word) × Peer :=
  let fault (what : String) : Except Fault (List Word) := .error ⟨host, .failure what⟩
  let broken := fault (op.name ++ " failed: connection closed")
  let reply := match p.replies with
    | .words ws :: _ => if op.written?.isNone then .ok ws else broken
    | .exception code :: _ => fault (op.name ++ " rejected: " ++ exceptionName code)
    | .confirmation :: _ => if op.written?.isSome then .ok [] else broken
    | .silence :: _ => fault ("timed out during " ++ op.name)
    | .hangUp :: _ => broken
    | [] => broken
  (reply,
    { p with replies := p.replies.drop 1, requests := ⟨connection, unit, op⟩ :: p.requests })

def line (host : String) (unit : UInt8) : Line Nat Peer := ⟨host, connect host, call host unit⟩

end Peer

end HomeEnergy.Bus
