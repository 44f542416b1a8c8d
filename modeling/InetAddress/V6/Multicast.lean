import InetAddress.Error

/-!
# Multicast addresses

The second octet of a multicast address holds four flags and a scope, which other addresses do not
have. An address that is not multicast has a solicited-node address, the multicast group that its
neighbours ask for it. Whoever asks the wrong address is told so.
-/

namespace InetAddress.V6

/-- The block `ff00::/8`. -/
def isMulticast (a : V6) : Bool :=
  a.octets.octet 0 == 0xff

/-- The high four bits after the leading octet. Only a multicast address gives them a meaning. -/
def flagBits (a : V6) : UInt8 :=
  (a.octets.octet 1 >>> 4) &&& 0x0f

/-- The low four bits of the second octet, the reach of a multicast address. -/
def scopeBits (a : V6) : UInt8 :=
  a.octets.octet 1 &&& 0x0f

/-- The four flags of a multicast address. -/
def multicastFlags (a : V6) : Except Error UInt8 :=
  if a.isMulticast then .ok a.flagBits else .error (.notMulticast a)

/-- The scope of a multicast address. -/
def multicastScope (a : V6) : Except Error UInt8 :=
  if a.isMulticast then .ok a.scopeBits else .error (.notMulticast a)

/-- The address `ff02::1:ff00:0` with the last three octets of another address. -/
def solicitedNode (a : V6) : Except Error V6 :=
  if a.isMulticast then .error (.multicastSource a)
  else .ok (ofOctets #v[0xff, 2, 0, 0, 0, 0, 0, 0, 0, 0, 0, 1,
    0xff, a.octets.octet 13, a.octets.octet 14, a.octets.octet 15])

end InetAddress.V6
