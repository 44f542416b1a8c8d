import InetAddress.Error
import InetAddress.V4.Text
import InetAddress.Text.Hex
import InetAddress.V6.ZeroRun

/-!
# Writing IPv6 addresses

The short form drops leading zeros and writes the first of the longest runs of zero groups as a
gap, `::`, provided it is at least two groups long. Two layouts end in a dotted quad, both with a
gap that starts at the front:

```text
::1.2.3.4         the gap is six groups long
::ffff:1.2.3.4    the gap is five groups long and ffff follows
```

The zone comes last, after a percent sign, unless it is 0. The full form writes all 32 digits and
no zone.

The short form is written into a buffer, and the canonical text is what was written if there was
room for it. An address shows its full form where there was none.
-/

namespace InetAddress.V6

/-- The groups of a row of octets, two octets to the group. -/
def groups : List UInt8 → List Nat
  | high :: low :: rest => (256 * high.toNat + low.toNat) :: groups rest
  | _ => []

/-- Two colons, which stand for a run of zero groups. -/
def gap : List Char :=
  [':', ':']

/-- Groups without leading zeros, with colons between them. -/
def writeGroups (gs : List Nat) : List Char :=
  [':'].intercalate (gs.map Hex.write)

/-! ## The two forms -/

/-- The dotted quad of the last four octets. -/
def lastQuad (x : Octets 16) : List Char :=
  Quad.write (x.drop 12)

/-- The short form of the octets. -/
def writeShort (x : Octets 16) : List Char :=
  let gs := groups x.toList
  let (start, length) := longestZeroRun gs
  if length < 2 then
    writeGroups gs
  else if start = 0 ∧ length = 6 then
    gap ++ lastQuad x
  else if start = 0 ∧ length = 5 ∧ gs[5]? = some 0xffff then
    gap ++ writeGroups [0xffff] ++ ':' :: lastQuad x
  else
    writeGroups (gs.take start) ++ gap ++ writeGroups (gs.drop (start + length))

/-- The zone after a percent sign; nothing for zone 0. -/
def writeZone (zone : UInt16) : List Char :=
  if zone = 0 then [] else '%' :: Decimal.write zone.toNat

/-- The short form of an address, with its zone. -/
def shortText (a : V6) : String :=
  String.ofList (writeShort a.octets ++ writeZone a.zone)

/-- The four digits of each group. -/
def fullGroups : List UInt8 → List (List Char)
  | high :: low :: rest => (Hex.writeOctet high ++ Hex.writeOctet low) :: fullGroups rest
  | _ => []

/-- The full form of an address, without its zone. -/
def fullText (a : V6) : String :=
  String.ofList ([':'].intercalate (fullGroups a.octets.toList))

/-! ## The text of an address -/

/-- The size of the buffer for a short form. A NUL at the end takes the last byte. -/
def bufferSize : Nat :=
  1025

/-- The short form, if there is room for it. -/
def canonicalText (a : V6) : Except Error String :=
  if a.shortText.utf8ByteSize < bufferSize then .ok a.shortText else .error (.noRoom a.octets)

/-- The text of an address: the canonical one, or the full form in its place. -/
def text (a : V6) : String :=
  match a.canonicalText with
  | .ok text => text
  | .error _ => a.fullText

end InetAddress.V6
