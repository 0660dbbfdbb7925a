import HomeEnergy.Bus.Client

/-!
Devices that are polled. A device has an update, which can fail, and its last good reading. An
adapter makes a device of a register map and a client: its reading is replaced as a whole when an
update succeeds and left alone when it fails.
-/

namespace HomeEnergy.Device

open Bus (Client Exchange Fault Line)

structure Source (ω ρ : Type) where
  update : ω → Except Fault Unit × ω
  reading : ω → Option ρ

/-- A poll: the reading if the update has succeeded. -/
def Source.poll {ω ρ : Type} (s : Source ω ρ) (w : ω) : Option ρ × ω :=
  match s.update w with
  | (.ok _, w) => (s.reading w, w)
  | (.error _, w) => (none, w)

def Source.within {ω ω' ρ : Type} (s : Source ω ρ) (get : ω' → ω) (set : ω → ω' → ω') :
    Source ω' ρ where
  update w :=
    let (result, inner) := s.update (get w)
    (result, set inner w)
  reading w := s.reading (get w)

/-- The larger world has no part in a poll, and what is in it besides stays. -/
theorem Source.poll_within {ω ω' ρ : Type} (s : Source ω ρ) {get : ω' → ω} {set : ω → ω' → ω'}
    (hget : ∀ x w, get (set x w) = x) (w : ω') :
    (s.within get set).poll w = ((s.poll (get w)).1, set (s.poll (get w)).2 w) := by
  unfold poll within
  rcases h : s.update (get w) with ⟨_ | _, x⟩ <;> simp only [h, hget]

/-- A device behind a register client: its register map, its client and its last good reading. -/
structure Adapter (κ τ ρ : Type) where
  registers : κ
  client : Client τ
  reading : Option ρ

namespace Adapter

variable {κ τ ρ ω α : Type}

def fresh (registers : κ) : Adapter κ τ ρ := ⟨registers, .fresh, none⟩

/-- Does something with the device; the reading stays. -/
def perform (act : κ → Exchange τ ω α) (a : Adapter κ τ ρ) (w : ω) :
    Except Fault α × Adapter κ τ ρ × ω :=
  let (result, client, w) := act a.registers (a.client, w)
  (result, { a with client := client }, w)

def update (poll : κ → Exchange τ ω ρ) (a : Adapter κ τ ρ) (w : ω) :
    Except Fault Unit × Adapter κ τ ρ × ω :=
  match a.perform poll w with
  | (.ok reading, a, w) => (.ok (), { a with reading := some reading }, w)
  | (.error fault, a, w) => (.error fault, a, w)

end Adapter

end HomeEnergy.Device
