import InetAddress.Endpoint
import InetAddress.Network
import InetAddress.V6.Multicast
import InetAddress.V6.Transition

/-!
# Walks

A walk takes one IPv6 address through a sequence of steps. A step that fails leaves the address
where it was. Some steps keep the zone, some drop it, and some take it through a text; what a step
does to the octets never depends on it.
-/

namespace InetAddress

/-- What can be done to an address on a walk. -/
inductive Step where
  /-- Mask to a length. -/
  | mask (length : Nat)
  /-- Change the zone. -/
  | rezone (zone : UInt16)
  /-- Go to the solicited-node address. -/
  | solicited
  /-- Go through an endpoint. -/
  | endpoint
  /-- Go through a socket. -/
  | socket
  /-- Go through a bare address. -/
  | bare
  /-- Go through the octets alone. -/
  | octets
  /-- Go through the IPv4 address of a mapped address. -/
  | carried
  /-- Likewise, with a mask on the IPv4 address. -/
  | maskedCarried (length : Nat)
  /-- Go to the mapped form of the IPv4 address of a 6to4 address. -/
  | sixToFour
  /-- Go through the canonical text. -/
  | reread
  /-- Go through the full text. -/
  | rereadFull
  /-- Read the text and what follows it as a network, and go to its base. -/
  | network (rest : String)
  /-- Go to the common network with another one. -/
  | common (length : Nat) (other : V6) (otherLength : Nat)
  /-- Ask for membership. -/
  | inNetwork (cidr : String)
  /-- Go to a given address. -/
  | goto (address : V6)

namespace Step

/-- What a step reports besides the address it leads to. -/
inductive Report where
  | nothing
  | length (bits : Nat)
  | verdict (yes : Bool)
deriving DecidableEq

/-- The address that a step leads to, and its report. -/
def apply (a : V6) : Step → Except Error (V6 × Report)
  | mask length => (a.mask length).map (·, .nothing)
  | rezone zone => .ok (a.withZone zone, .nothing)
  | solicited => a.solicitedNode.map (·, .nothing)
  | endpoint => .ok (V6.ofEndpoint a.toEndpoint, .nothing)
  | socket => .ok (V6.ofSocket a.toSocket, .nothing)
  | bare => .ok (V6.ofBare a.toBare, .nothing)
  | octets => .ok (V6.ofOctets a.octets, .nothing)
  | carried => a.toV4.map fun v4 => (V6.ofV4 v4, .nothing)
  | maskedCarried length =>
      (a.toV4.bind fun v4 => v4.mask length).map fun v4 => (V6.ofV4 v4, .nothing)
  | sixToFour => a.sixToFourV4.map fun v4 => (V6.ofV4 v4, .nothing)
  | reread => (a.canonicalText.bind V6.parse).map (·, .nothing)
  | rereadFull => (V6.parse a.fullText).map (·, .nothing)
  | network rest =>
      (Network.parse (a.text ++ rest)).bind fun network =>
        match network.base with
        | .v6 base => .ok (base, .length network.length)
        | .v4 base => .error (.v4Network base)
  | common length other otherLength =>
      (V6.commonNetwork a length other otherLength).map fun shared =>
        (shared.1, .length shared.2)
  | inNetwork cidr => (a.inNetwork cidr).map fun yes => (a, .verdict yes)
  | goto address => .ok (address, .nothing)

/-- Where a walk stands after a step: a failed one has led nowhere. -/
def settle (a : V6) : Except Error (V6 × Report) → V6 × Except Error Report
  | .ok (next, report) => (next, .ok report)
  | .error e => (a, .error e)

/-- Where a walk stands after a step, and what the step reported. -/
def run (a : V6) (step : Step) : V6 × Except Error Report :=
  settle a (step.apply a)

end Step

/-- Where a walk stands after each of its steps, and what each of them reported. -/
def walk (a : V6) : List Step → List (V6 × Except Error Step.Report)
  | [] => []
  | step :: steps =>
      let outcome := step.run a
      outcome :: walk outcome.1 steps

end InetAddress
