import InetAddress.Octets.Shared
import InetAddress.V6.Basic
import InetAddress.Error

/-!
# Masks, membership and common networks

A network is an address and a length; its members agree with the address on that many leading
bits. Masking clears what a network does not fix, and the zone with it. The common network of two
networks is the longest that contains both.
-/

namespace InetAddress.V6

/-- The mask of a length, of 128 at most. -/
def netmask (length : Nat) : Except Error (Octets 16) :=
  if length ≤ 128 then .ok (Octets.netmask length) else .error (.tooLong length 128)

/-- The masks of all lengths, in order. -/
def netmasks : List (Octets 16) :=
  (List.range 129).map Octets.netmask

theorem getElem?_netmasks {length : Nat} (h : length ≤ 128) :
    netmasks[length]? = some (Octets.netmask length) := by
  rw [netmasks, List.getElem?_map, List.getElem?_range (Nat.lt_succ_of_le h), Option.map_some]

/-- Keeps the first `length` bits, of 128 at most, and clears the rest and the zone. -/
def mask (a : V6) (length : Nat) : Except Error V6 :=
  if length ≤ 128 then .ok (ofOctets (a.octets.mask length)) else .error (.tooLong length 128)

theorem mask_eq_ok {a : V6} {length : Nat} (h : length ≤ 128) :
    a.mask length = .ok (ofOctets (a.octets.mask length)) :=
  if_pos h

/-- Whether two addresses agree on every bit that is set in a mask. -/
def agreeUnder (mask : Octets 16) (a b : V6) : Bool :=
  a.octets.and mask == b.octets.and mask

/-- Whether an address is a member of the network of a base and a length. -/
def inside (a base : V6) (length : Nat) : Bool :=
  agreeUnder (Octets.netmask length) a base

/-- The longest network that contains two networks, neither of them longer than 128. -/
def commonNetwork (one : V6) (oneLength : Nat) (two : V6) (twoLength : Nat) :
    Except Error (V6 × Nat) :=
  if 128 < oneLength then .error (.tooLong oneLength 128)
  else if 128 < twoLength then .error (.tooLong twoLength 128)
  else
    let shared := Octets.common one.octets oneLength two.octets twoLength
    .ok (ofOctets shared.1, shared.2)

end InetAddress.V6
