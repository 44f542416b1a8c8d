import InetAddress.V6.Basic
import InetAddress.Error

/-!
# Single octets and bits

Octets and bits are counted from either end of an address. An index from the low end is the index
of the same place from the high end, turned round.
-/

namespace InetAddress.V6

/-- The octet at an index from the most significant. -/
def highOctet (a : V6) (index : Nat) : Except Error UInt8 :=
  if index < 16 then .ok (a.octets.octet index) else .error (.noSuchIndex index 16)

/-- The octet at an index from the least significant. -/
def lowOctet (a : V6) (index : Nat) : Except Error UInt8 :=
  if index < 16 then .ok (a.octets.octet (15 - index)) else .error (.noSuchIndex index 16)

/-- The bit at an index from the most significant. -/
def highBit (a : V6) (index : Nat) : Except Error Bool :=
  if index < 128 then .ok (a.octets.bit index) else .error (.noSuchIndex index 128)

/-- The bit at an index from the least significant. -/
def lowBit (a : V6) (index : Nat) : Except Error Bool :=
  if index < 128 then .ok (a.octets.bit (127 - index)) else .error (.noSuchIndex index 128)

end InetAddress.V6
