import InetAddress.Address
import InetAddress.V4.Parse
import InetAddress.V6.Parse

/-!
# Addresses of either family from the outside

A colon decides: every IPv6 literal has one and no dotted quad does.
-/

namespace InetAddress.Address

/-- Reads an address of the family that the text belongs to. -/
def read (text : String) : Reading Address :=
  if ':' ∈ text.toList then
    (V6.read text).andThen fun a => .ok (v6 a)
  else
    .silent ((V4.parse text).map v4)

/-- Reads an address, or says why the text is none. -/
def parse (text : String) : Except Error Address :=
  (read text).result

end InetAddress.Address
