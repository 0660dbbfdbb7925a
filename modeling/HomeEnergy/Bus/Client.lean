import HomeEnergy.Bus.Operation

/-!
Talking to one device through trouble. The client keeps one session open. When an operation fails,
the session is given up, a new one is opened and the operation is tried once more; if that fails
too, the first fault is the one reported. A reply of the wrong length is a failure like any other.

The device and the way to it are given by a `Line` over a world `ω` that changes with each use, so
that nothing is assumed of either.
-/

namespace HomeEnergy.Bus

/-- The way to one device: how sessions are opened and how they are used. -/
structure Line (τ ω : Type) where
  host : String
  connect : ω → Except Fault τ × ω
  call : τ → Operation → ω → Except Fault (List Word) × ω

/-- The client of one device: the session it holds, and how often it had to give one up. -/
structure Client (τ : Type) where
  session : Option τ
  reconnects : UInt64
deriving DecidableEq

def Client.fresh {τ : Type} : Client τ := ⟨none, 0⟩

/-- Something done through the client, which may fail half-way. -/
abbrev Exchange (τ ω α : Type) := ExceptT Fault (StateM (Client τ × ω)) α

namespace Line

variable {τ ω : Type}

def session (line : Line τ ω) (held : Option τ) (w : ω) : Except Fault τ × ω :=
  match held with
  | some s => (.ok s, w)
  | none => line.connect w

/-- Tries an operation once, in the session of the slot or in a new one. The session stays in the
slot, even if the call fails. -/
def attempt (line : Line τ ω) (op : Operation) (slot : Option τ) (w : ω) :
    Except Fault (List Word) × Option τ × ω :=
  match line.session slot w with
  | (.error fault, w) => (.error fault, none, w)
  | (.ok s, w) =>
    match line.call s op w with
    | (.error fault, w) => (.error fault, some s, w)
    | (.ok words, w) =>
      if words.length = op.replyLength then (.ok words, some s, w)
      else (.error ⟨line.host, .wrongLength op words.length⟩, some s, w)

/-- Carries out an operation, if need be in a second attempt with a new session. What a failed
attempt leaves in the slot is given up. -/
def run (line : Line τ ω) (op : Operation) (client : Client τ) (w : ω) :
    Except Fault (List Word) × Client τ × ω :=
  match line.attempt op client.session w with
  | (.ok words, slot, w) => (.ok words, { client with session := slot }, w)
  | (.error first, _, w) =>
    let reconnects := client.reconnects + 1
    match line.attempt op none w with
    | (.ok words, slot, w) => (.ok words, ⟨slot, reconnects⟩, w)
    | (.error _, _, w) => (.error first, ⟨none, reconnects⟩, w)

def execute (line : Line τ ω) (op : Operation) : Exchange τ ω (List Word) :=
  fun (client, w) => line.run op client w

def write (line : Line τ ω) (op : Operation) : Exchange τ ω Unit := do
  let _ ← line.execute op

/-- Makes a number of the words that have been read, or reports that they are too few. -/
def decoded {α : Type} (line : Line τ ω) (what : String) : Option α → Exchange τ ω α
  | some a => pure a
  | none => throw ⟨line.host, .tooShort what⟩

end Line

end HomeEnergy.Bus
