import InetAddress.Family
import InetAddress.Text.Decimal
import InetAddress.Text.Hex
import InetAddress.Text.Quoted

/-!
# Descriptions of addresses

A description gives the family, the text and the digest of an address, and is written as a JSON
object with the three members in that order and no spaces.
-/

namespace InetAddress

/-- What a description says of an address. -/
structure Descriptor where
  family : Family
  address : String
  digest : UInt64

namespace Descriptor

/-- The escape rule of JSON: quotation marks, backslashes and control characters. -/
def escape (c : Char) : List Char :=
  if c = '"' ∨ c = '\\' then Quoted.backslash c
  else if c = '\x08' then Quoted.backslash 'b'
  else if c = '\t' then Quoted.backslash 't'
  else if c = '\n' then Quoted.backslash 'n'
  else if c = '\x0c' then Quoted.backslash 'f'
  else if c = '\r' then Quoted.backslash 'r'
  else if c < ' ' then Quoted.backslash 'u' ++ ['0', '0'] ++ Hex.writeOctet (UInt8.ofNat c.toNat)
  else [c]

/-- A JSON string. -/
def quote (text : String) : String :=
  String.ofList (Quoted.write escape text.toList)

/-- The JSON object of a description. -/
def json (d : Descriptor) : String :=
  "\x7b\"family\":" ++ quote d.family.name ++ ",\"addr\":" ++ quote d.address ++
    ",\"hash\":" ++ String.ofList (Decimal.write d.digest.toNat) ++ "\x7d"

end Descriptor

end InetAddress
