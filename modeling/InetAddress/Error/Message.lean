import InetAddress.Address
import InetAddress.Error

/-!
# The wording of errors
-/

namespace InetAddress.Error

/-- What is wrong, without the kind. -/
def detail : Error → String
  | tooShort text => s!"Invalid IPv6 address '{text}': address too short"
  | notV6 host => s!"Invalid IPv6 address '{host}'"
  | notV4 text => s!"Invalid IPv4 address '{text}'"
  | notMac text => s!"Invalid MAC address '{text}'"
  | noRoom octets => s!"Invalid address with hex '{String.ofList (Hex.encode octets.toList)}'"
  | v6Size got => s!"Invalid IPv6 binary data: length must be 16 bytes, got {got}"
  | v4Size got => s!"Invalid IPv4 binary data: length must be 4 bytes, got {got}"
  | macSize got => s!"MAC address must be 6 bytes, got {got}"
  | notLength digits network => s!"Invalid prefix length '{digits}' in network '{network}'"
  | v4Network base => s!"Address '{(Address.v4 base).describe.json}' is not a V6 address"
  | tooLong length limit => s!"Invalid prefix length {length}, must be <= {limit}"
  | notMapped address => s!"Invalid IP '{address.text}': not an IPv4-mapped address"
  | notSixToFour address => s!"Invalid IP '{address.text}': not a 6to4 address"
  | noSuchIndex index bound => s!"Byte index {index} out of range, must be < {bound}"
  | notMulticast address => s!"{address.text} is not a multicast address"
  | multicastSource address =>
      s!"{address.text} is multicast, solicited-node addresses need a unicast source"

/-- The full wording: the detail, after the kind where the detail does not tell it. -/
def message (e : Error) : String :=
  match e.kind with
  | .addressFormat => "Invalid address: " ++ e.detail
  | .typeMismatch => "Type mismatch: " ++ e.detail
  | .lengthRange | .indexRange | .precondition => e.detail

end InetAddress.Error
