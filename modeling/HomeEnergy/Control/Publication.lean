/-!
A value that is published for anyone who wants to follow it. A follower sees the latest value at any
time and can tell whether it is a new one.
-/

namespace HomeEnergy.Control

/-- A published value, with the number of values published before it. -/
structure Published (α : Type) where
  value : α
  version : Nat
deriving DecidableEq

/-- A follower, with the version of the value it has seen. -/
structure Subscription where
  seen : Nat
deriving DecidableEq

namespace Published

variable {α : Type}

def first (a : α) : Published α := ⟨a, 0⟩

def publish (p : Published α) (a : α) : Published α := ⟨a, p.version + 1⟩

/-- A new follower, to whom the present value is not news. -/
def subscribe (p : Published α) : Subscription := ⟨p.version⟩

def isNews (p : Published α) (s : Subscription) : Bool := s.seen < p.version

end Published

end HomeEnergy.Control
