import InetAddress.V4.Basic
import InetAddress.Text.Decimal

/-!
# Dotted quads

An IPv4 address is written as four decimal octets with dots between them. There are two readings:
on its own an address may have leading zeros, up to three digits to the octet; as the tail of an
IPv6 literal it may not. Both are the same split into four parts and differ in the reader of one
part.
-/

namespace InetAddress

namespace Quad

/-- An octet of one to three digits, at most 255. -/
def readOctet? (part : List Char) : Option UInt8 :=
  match Decimal.read? part with
  | some number =>
      if part.length ≤ 3 ∧ number ≤ 255 then some (UInt8.ofNat number) else none
  | none => none

/-- An octet without leading zeros, at most 255. -/
def readPlainOctet? (part : List Char) : Option UInt8 :=
  if part.head? = some '0' ∧ part.length ≠ 1 then none else readOctet? part

/-- Four parts with dots between them, each read by `octet?`. -/
def read? (octet? : List Char → Option UInt8) (text : List Char) : Option (Octets 4) :=
  ((text.splitOn '.').mapM octet?).bind Octets.ofList?

/-- Four decimal octets with dots between them. -/
def write (x : Octets 4) : List Char :=
  ['.'].intercalate (x.toList.map fun octet => Decimal.write octet.toNat)

private theorem readPlainOctet?_write_fin :
    ∀ n : Fin 256, readPlainOctet? (Decimal.write n) = some (UInt8.ofNat n) := by
  decide +kernel

/-- The digits that an octet is written with have no leading zero. -/
theorem readPlainOctet?_write (octet : UInt8) :
    readPlainOctet? (Decimal.write octet.toNat) = some octet := by
  simpa using readPlainOctet?_write_fin ⟨octet.toNat, octet.toNat_lt⟩

end Quad

namespace V4

/-- The dotted quad of an address. -/
def text (a : V4) : String :=
  String.ofList (Quad.write a.octets)

/-- The address that a dotted quad denotes; octets may have leading zeros. -/
def ofText? (text : String) : Option V4 :=
  (Quad.read? Quad.readOctet? text.toList).map V4.mk

end V4

end InetAddress
