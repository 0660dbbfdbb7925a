import HomeEnergy.Text.Blank

/-!
Where charge points connect: the path of the request names the charge point, with or without the
version of the protocol before its id. A client offers a list of protocols, from which the one that
is spoken here is chosen.
-/

namespace HomeEnergy.Charging.Endpoint

def root : List Char := "/ocpp/".toList

def version : List Char := "1.6".toList

/-- The charge point that a path names. -/
def chargePointId? (path : List Char) : Option (List Char) :=
  match Text.dropLeading? root path with
  | none => none
  | some rest =>
    let id := (Text.dropLeading? (version ++ ['/']) rest).getD rest
    if id = [] ∨ id = version ∨ '/' ∈ id then none else some id

def protocol : String := "ocpp1.6"

/-- The parts of a list with commas in between. -/
def parts : List Char → List (List Char)
  | [] => [[]]
  | c :: rest =>
    if c = ',' then [] :: parts rest
    else
      match parts rest with
      | [] => [[c]]
      | p :: ps => (c :: p) :: ps

def isOffered (offer : List Char) : Bool :=
  (parts offer).any fun p => Text.trim p = protocol.toList

/-- Whether a header can be read as a text: tabs and printable ASCII. -/
def isReadable (header : List Char) : Bool :=
  header.all fun c => c == '\t' || (' ' ≤ c && c ≤ '~')

inductive Answer where
  | accepted (chargePointId : String) (protocol : Option String)
  | notFound (body : String)
deriving DecidableEq, Repr

def Answer.status : Answer → Nat
  | .accepted _ _ => 101
  | .notFound _ => 404

/-- The path of a request target, without what is asked or pointed at in it. -/
def pathOf (target : String) : List Char :=
  match target.toList.takeWhile fun c => c != '?' && c != '#' with
  | [] => ['/']
  | path => path

/-- Answers a request to connect. -/
def answer (path : List Char) (offer : Option String) : Answer :=
  match chargePointId? path with
  | none => .notFound ("No OCPP endpoint at " ++ String.ofList path)
  | some id =>
    let chosen := match offer with
      | some o => if isReadable o.toList ∧ isOffered o.toList then some protocol else none
      | none => none
    .accepted (String.ofList id) chosen

end HomeEnergy.Charging.Endpoint
