import InetAddress.Mac
import InetAddress.V6.Basic

/-!
# Link-local addresses of interfaces

An interface finds its own address on a link: its MAC address, stretched to eight octets, follows
the head of the link-local block.
-/

namespace InetAddress.V6

/-- The link-local address of the interface with a MAC address: the octets `ff` and `fe` go into
the middle and the bit for local assignment is flipped. -/
def ofMac (m : Mac) : V6 :=
  ofOctets #v[0xfe, 0x80, 0, 0, 0, 0, 0, 0,
    m.octets.octet 0 ^^^ 0x02, m.octets.octet 1, m.octets.octet 2, 0xff,
    0xfe, m.octets.octet 3, m.octets.octet 4, m.octets.octet 5]

end InetAddress.V6
