import InetAddress.Octets.Value
import InetAddress.Family
import InetAddress.Digest.Fold

/-!
# IPv4 addresses

Four octets, ordered as they are written, and the classes of addresses that are told apart by
their leading octets.
-/

namespace InetAddress

/-- Four octets in network order. -/
structure V4 where
  octets : Octets 4
deriving DecidableEq

namespace V4

/-- The address written `a.b.c.d`. -/
def ofParts (a b c d : UInt8) : V4 :=
  ⟨#v[a, b, c, d]⟩

/-- The address `0.0.0.0`. -/
def unspecified : V4 :=
  ofParts 0 0 0 0

/-- The address `255.255.255.255`. -/
def broadcast : V4 :=
  ofParts 255 255 255 255

/-- The usual loopback address, `127.0.0.1`. -/
def loopback : V4 :=
  ofParts 127 0 0 1

instance : Inhabited V4 := ⟨unspecified⟩

instance : Ord V4 where
  compare a b := compare a.octets b.octets

/-- The address whose octets spell `number` in base 256. -/
def ofUInt32 (number : UInt32) : V4 :=
  ⟨Octets.ofValue number.toNat⟩

/-- The number that the octets spell in base 256. -/
def toUInt32 (a : V4) : UInt32 :=
  UInt32.ofNat a.octets.value

theorem toNat_toUInt32 (a : V4) : a.toUInt32.toNat = a.octets.value := by
  have hlt : a.octets.value < 2 ^ 32 := by
    have := a.octets.value_shiftRight
    rw [Nat.shiftRight_eq_div_pow] at this
    exact Nat.lt_of_div_eq_zero (by decide) this
  rw [toUInt32, UInt32.toNat_ofNat', Nat.mod_eq_of_lt hlt]

@[simp] theorem ofUInt32_toUInt32 (a : V4) : ofUInt32 a.toUInt32 = a := by
  rw [ofUInt32, toNat_toUInt32, Octets.ofValue_value]

@[simp] theorem toUInt32_ofUInt32 (number : UInt32) : (ofUInt32 number).toUInt32 = number := by
  rw [← UInt32.toNat_inj, toNat_toUInt32, ofUInt32, Octets.value_ofValue]
  rw [Nat.shiftRight_eq_div_pow]
  exact Nat.div_eq_of_lt number.toNat_lt

/-- The digest of an address: the hash of its octets, folded onto the number of its family. -/
def digest (a : V4) : UInt64 :=
  Digest.seeded (UInt64.ofNat Family.v4.code) a.octets.toList

/-! ## Classes -/

/-- Only `255.255.255.255`. -/
def isBroadcast (a : V4) : Bool :=
  a == broadcast

/-- The block `224.0.0.0/4`. -/
def isMulticast (a : V4) : Bool :=
  a.octets.octet 0 &&& 0xf0 == 224

/-- The block `0.0.0.0/8`. -/
def isUnspecified (a : V4) : Bool :=
  a.octets.octet 0 == 0

/-- The block `169.254.0.0/16`. -/
def isLinkLocal (a : V4) : Bool :=
  a.octets.octet 0 == 169 && a.octets.octet 1 == 254

/-- The block `127.0.0.0/8`. -/
def isLoopback (a : V4) : Bool :=
  a.octets.octet 0 == 127

/-- Loopback addresses, and the blocks `10.0.0.0/8`, `172.16.0.0/12` and `192.168.0.0/16`. -/
def isPrivate (a : V4) : Bool :=
  a.isLoopback || a.octets.octet 0 == 10 ||
    (a.octets.octet 0 == 172 && a.octets.octet 1 &&& 0xf0 == 16) ||
    (a.octets.octet 0 == 192 && a.octets.octet 1 == 168)

end V4

end InetAddress
