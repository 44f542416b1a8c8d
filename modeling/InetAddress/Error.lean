import InetAddress.V6.Basic

/-!
# What can go wrong

One constructor per cause, with what the cause is about. The wording is kept apart, in
`InetAddress.Error.Message`; here a cause is only sorted into its kind.
-/

namespace InetAddress

/-- The causes of failure. -/
inductive Error where
  /-- A text of fewer than two bytes, which is too short for an IPv6 address. -/
  | tooShort (text : String)
  /-- A host, without its brackets, that is no IPv6 literal. -/
  | notV6 (host : String)
  /-- A text that is no dotted quad. -/
  | notV4 (text : String)
  /-- A text that is no MAC address. -/
  | notMac (text : String)
  /-- The octets of an IPv6 address whose text is too long for the buffer. -/
  | noRoom (octets : Octets 16)
  /-- A number of octets other than sixteen. -/
  | v6Size (got : Nat)
  /-- A number of octets other than four. -/
  | v4Size (got : Nat)
  /-- A number of octets other than six. -/
  | macSize (got : Nat)
  /-- What follows the slash of a network and is no decimal number. -/
  | notLength (digits network : String)
  /-- An IPv4 network where an IPv6 network is called for. -/
  | v4Network (base : V4)
  /-- A length beyond the width of the address. -/
  | tooLong (length limit : Nat)
  /-- An address that carries no IPv4 address in its last four octets. -/
  | notMapped (address : V6)
  /-- An address that is not 6to4. -/
  | notSixToFour (address : V6)
  /-- An index of an octet or a bit beyond the last one. -/
  | noSuchIndex (index bound : Nat)
  /-- A question that only a multicast address answers. -/
  | notMulticast (address : V6)
  /-- A solicited-node address for a multicast address. -/
  | multicastSource (address : V6)
deriving DecidableEq

namespace Error

/-- The kinds that a caller tells apart. -/
inductive Kind where
  | addressFormat
  | lengthRange
  | typeMismatch
  | indexRange
  /-- The caller asked what it should have known not to ask. -/
  | precondition
deriving DecidableEq, Repr

/-- The kind of a cause. -/
def kind : Error → Kind
  | tooShort _ | notV6 _ | notV4 _ | notMac _ | noRoom _ | v6Size _ | v4Size _ | macSize _
  | notLength _ _ | v4Network _ => .addressFormat
  | tooLong _ _ => .lengthRange
  | notMapped _ | notSixToFour _ => .typeMismatch
  | noSuchIndex _ _ => .indexRange
  | notMulticast _ | multicastSource _ => .precondition

end Error

end InetAddress
