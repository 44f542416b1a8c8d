import InetAddress.Error

/-!
# Addresses that carry IPv4 addresses

A mapped address carries an IPv4 address in its last four octets and a 6to4 address in the four
after its head. Teredo and 6to4 addresses are told by their leading octets alone:

```text
2001::/32       Teredo
2002::/16       6to4
```
-/

namespace InetAddress.V6

/-- How an address reaches through IPv4, if it does. -/
inductive Transition where
  | none
  | teredo
  | sixToFour
deriving DecidableEq, Repr

/-- The leading octets of Teredo addresses, `2001::/32`. -/
def teredoHead : Octets 4 :=
  #v[0x20, 0x01, 0x00, 0x00]

/-- The leading octets of 6to4 addresses, `2002::/16`. -/
def sixToFourHead : Octets 2 :=
  #v[0x20, 0x02]

/-- The transition that the leading octets tell. -/
def transition (a : V6) : Transition :=
  if a.octets.toList.take 4 = teredoHead.toList then .teredo
  else if a.octets.toList.take 2 = sixToFourHead.toList then .sixToFour
  else .none

/-- The IPv4 address that follows the leading two octets of a 6to4 address. -/
def sixToFour? (a : V6) : Option V4 :=
  if a.transition = .sixToFour then
    some (V4.ofParts (a.octets.octet 2) (a.octets.octet 3) (a.octets.octet 4) (a.octets.octet 5))
  else none

/-- The IPv4 address of a mapped address. -/
def toV4 (a : V6) : Except Error V4 :=
  match a.mapped? with
  | some carried => .ok carried
  | none => .error (.notMapped a)

/-- The IPv4 address of a 6to4 address. -/
def sixToFourV4 (a : V6) : Except Error V4 :=
  match a.sixToFour? with
  | some carried => .ok carried
  | none => .error (.notSixToFour a)

end InetAddress.V6
