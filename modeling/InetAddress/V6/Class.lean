import InetAddress.Octets.Mask
import InetAddress.V6.Multicast

/-!
# Classes of IPv6 addresses

Each class is told by leading octets, with two exceptions: a mapped address is loopback or private
if the IPv4 address that it carries is, and `::`, `::1` and `ff02::1` are single addresses. Zones
never count. Three of the blocks do not end with an octet, and are told by a mask.

```text
2000::/3        routable
fc00::/7        private
fe80::/10       link-local
ff00::/8        multicast, and routable where the scope is global
```
-/

namespace InetAddress.V6

/-- Whether an address, after a mask of a length, begins with the two octets of `head`. -/
def inBlock (a : V6) (head : Octets 2) (length : Nat) : Bool :=
  (a.octets.mask length).toList.take 2 == head.toList

/-- Only `::`. -/
def isZero (a : V6) : Bool :=
  a.octets == unspecified.octets

/-- Only `::1`, and the mapped loopback addresses. -/
def isLoopback (a : V6) : Bool :=
  a.mapped?.any V4.isLoopback || a.octets == loopback.octets

/-- Loopback addresses, mapped private addresses and the block `fc00::/7`. -/
def isPrivate (a : V6) : Bool :=
  a.mapped?.any V4.isPrivate || a.isLoopback || a.inBlock #v[0xfc, 0x00] 7

/-- The block `fe80::/10`. -/
def isLinkLocal (a : V6) : Bool :=
  a.inBlock #v[0xfe, 0x80] 10

/-- Only `ff02::1`. -/
def isLinkLocalBroadcast (a : V6) : Bool :=
  a.octets == allNodes.octets

/-- Global unicast addresses, in `2000::/3`, and multicast addresses of global reach. -/
def isRoutable (a : V6) : Bool :=
  a.inBlock #v[0x20, 0x00] 3 || (a.isMulticast && a.scopeBits == 0x0e)

/-- The same, with the scope asked for. Only a multicast address answers. -/
def askRoutable (a : V6) : Except Error Bool :=
  if a.inBlock #v[0x20, 0x00] 3 then .ok true
  else if a.isMulticast then a.multicastScope.map (· == 0x0e)
  else .ok false

/-- Not routable. -/
def isNonroutable (a : V6) : Bool :=
  !a.isRoutable

end InetAddress.V6
