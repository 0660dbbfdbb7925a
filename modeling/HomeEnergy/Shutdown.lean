/-!
The signal to shut down. Any number of parties may give it and any number may wait for it, in any
order; whoever waits is told, also when the signal was given before.

Giving the signal takes two steps: the flag is raised, and whoever raised it first announces that to
those who listen. Waiting takes three: the waiter begins to listen, then looks at the flag, and only
if it is not raised waits for the announcement.
-/

namespace HomeEnergy

/-- The signal: a flag, and the number of announcements made so far. -/
structure Shutdown where
  isTriggered : Bool
  announcements : Nat
deriving DecidableEq, Repr

/-- A waiter: the number of announcements it was too late to hear. -/
structure Shutdown.Listener where
  missed : Nat
deriving DecidableEq, Repr

namespace Shutdown

def fresh : Shutdown := ⟨false, 0⟩

/-! ## Single steps -/

/-- Raises the flag; tells whether it was raised before. -/
def raise (s : Shutdown) : Bool × Shutdown := (s.isTriggered, { s with isTriggered := true })

def announce (s : Shutdown) : Shutdown := { s with announcements := s.announcements + 1 }

def listen (s : Shutdown) : Listener := ⟨s.announcements⟩

def hears (s : Shutdown) (l : Listener) : Bool := l.missed < s.announcements

/-! ## Whole operations -/

def trigger (s : Shutdown) : Shutdown :=
  match s.raise with
  | (true, s) => s
  | (false, s) => s.announce

/-- Whether a listener that looks at the flag now does not have to wait any longer. -/
def releases (s : Shutdown) (l : Listener) : Bool := s.isTriggered || s.hears l

/-! ## Cleaning up -/

/-- What is to be seen of a cleanup after some time. -/
inductive Cleanup where
  | waiting
  | over (inTime : Bool)
deriving DecidableEq, Repr

/-- A cleanup begins when the signal is given, takes its time, and is broken off at the timeout.
All times are counted from its beginning. -/
def cleanup (s : Shutdown) (timeout takes watched : Nat) : Cleanup :=
  if s.isTriggered ∧ min takes timeout ≤ watched then .over (takes ≤ timeout) else .waiting

end Shutdown

end HomeEnergy
