import InetAddress.Address.Parse
import InetAddress.V4.Mask
import InetAddress.V6.Mask

/-!
# Networks

A network is written as an address, a slash and a length. The address is read first, so that its
faults come before those of the length; what is read is masked, so that each network has one
value however it is written.
-/

namespace InetAddress

/-- Keeps the first `length` bits, as many as the family has at most, and clears the rest. -/
def Address.mask : Address → Nat → Except Error Address
  | .v4 a, length => (a.mask length).map .v4
  | .v6 a, length => (a.mask length).map .v6

/-- A base address and the number of leading bits that members share with it. -/
structure Network where
  base : Address
  length : Nat
deriving DecidableEq

namespace Network

/-- The largest length that a report of an excessive one shows. -/
def lengthCap : Nat :=
  UInt64.size - 1

/-- The length after the slash of a network, for an address of a given width; without a slash the
length is the width. -/
def readLength (network : String) (width : Nat) : List Char → Except Error Nat
  | [] => .ok width
  | _ :: digits =>
      match Decimal.read? digits with
      | none => .error (.notLength (String.ofList digits) network)
      | some length =>
          if length ≤ width then .ok length else .error (.tooLong (min length lengthCap) width)

/-- Reads a network, with the events that the address leaves. -/
def read (text : String) : Reading Network :=
  let host := text.toList.takeWhile (· != '/')
  let rest := text.toList.dropWhile (· != '/')
  (Address.read (String.ofList host)).andThen fun a => do
    let length ← readLength text a.width rest
    let base ← a.mask length
    return ⟨base, length⟩

/-- Reads a network, or says why the text is none. -/
def parse (text : String) : Except Error Network :=
  (read text).result

end Network

/-- Whether an address is a member of the IPv6 network that a text denotes. -/
def V6.inNetwork (a : V6) (cidr : String) : Except Error Bool := do
  let network ← Network.parse cidr
  match network.base with
  | .v6 base => return a.inside base network.length
  | .v4 base => throw (.v4Network base)

end InetAddress
