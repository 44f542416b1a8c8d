/-!
# The two address families
-/

namespace InetAddress

/-- The two families of internet addresses. -/
inductive Family where
  | v4
  | v6
deriving DecidableEq, Repr

namespace Family

/-- The name under which a description gives the family. -/
def name : Family → String
  | v4 => "IPv4"
  | v6 => "IPv6"

/-- The number that stands for the family in endpoints, and that seeds the digests of its
addresses. -/
def code : Family → Nat
  | v4 => 2
  | v6 => 10

/-- The number of bits in an address. -/
def width : Family → Nat
  | v4 => 32
  | v6 => 128

end Family

end InetAddress
