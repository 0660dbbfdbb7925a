import HomeEnergy.Network.Address

/-!
The network as far as it matters here: whether other hosts can be reached at all, and which
addresses can be listened on.
-/

namespace HomeEnergy

/-- Whether other hosts can be reached, and what is said if they cannot. -/
inductive Network where
  | up
  | down (reason : String)
deriving DecidableEq, Repr

namespace Network

def unreachable : Network := .down "Network is unreachable (os error 101)"

/-- Whether a host is given by its address, or is the one name that everybody knows. -/
def isAddress (host : String) : Bool :=
  host == "localhost" || version4? host.toList == some [] || version6? host.toList == some []

/-- Listens at a host. Its name can only be looked up on a network. -/
def listen (n : Network) (host : String) : Except String Unit :=
  if isAddress host then .ok ()
  else if n = .up ∨ host.isEmpty then
    .error "failed to lookup address information: Name or service not known"
  else .error "failed to lookup address information: Temporary failure in name resolution"

end Network

end HomeEnergy
